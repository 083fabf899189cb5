import SqlText.Proofs.Clause.Assignments
import SqlText.Proofs.Clause.Composition

/-!
# Trimming — what is cut off the end of a clause

Both clauses are accumulated with one link too many behind them, and the last link is cut off by
its text. Behind assignments all links are alike. Behind criteria there are two kinds of them,
and none behind a criterion that is silent; so it is not plain that a joiner stands at the end.

Here the criteria are taken as the steps of the accumulation (`steps`), each with its text proper
(`Step.body`) and the link behind it (`Step.link`). A step that leaves a list open is followed by
one on its column, which is never silent. So the last link that is written is the joiner
(`link_getLast?_written`), it is cut off, and the body before it stays whole
(`trim_removes_last_joiner`).
-/

namespace SqlText.Clause

namespace Where

/-- A criterion at its place in the clause. -/
structure Step where
  place : Place
  criterion : Criterion
deriving DecidableEq, Repr

namespace Step

/-- The step of a criterion between the one before and the one after it. -/
def between (before : Option Criterion) (c : Criterion) (after : Option Criterion) : Step :=
  ⟨Where.place before c after, c⟩

/-- The text of the criterion at its place. -/
def body (s : Step) : String :=
  match s.place with
  | .opens => s.criterion.column ++ " IN (" ++ s.criterion.quotedValue
  | .continues => s.criterion.quotedValue
  | .closes => s.criterion.quotedValue ++ ")"
  | .stands => s.criterion.render

/-- What joins the text to the next one: the list goes on, or the condition is complete. -/
def link (s : Step) : String :=
  match s.place with
  | .opens | .continues => separator
  | .closes | .stands => joiner

/-- The text with its link. -/
def text (s : Step) : String :=
  s.body ++ s.link

/-- A criterion that has no text at its place is not linked either. -/
theorem write_place (before : Option Criterion) (c : Criterion) (after : Option Criterion) :
    (Where.place before c after).write c =
      if (between before c after).body = "" then "" else (between before c after).text := by
  rw [between]
  cases Where.place before c after with
  | stands => rfl
  | opens | continues | closes =>
      rw [if_neg (by simp [body, Criterion.quotedValue_eq])]
      simp [Place.write, text, body, link, String.append_assoc]

end Step

variable {before : Option Criterion} {c : Criterion} {l rest : List Criterion}

/-- The criteria that follow `before`, each at its place. -/
def steps (before : Option Criterion) : List Criterion → List Step
  | [] => []
  | c :: rest => .between before c rest.head? :: steps (some c) rest

/-- The steps that are not silent. -/
def written (before : Option Criterion) (l : List Criterion) : List Step :=
  (steps before l).filter (·.body ≠ "")

theorem written_cons (before : Option Criterion) (c : Criterion) (rest : List Criterion) :
    written before (c :: rest) =
      if (Step.between before c rest.head?).body = "" then written (some c) rest
      else .between before c rest.head? :: written (some c) rest := by
  rw [written, steps, List.filter_cons]
  by_cases h : (Step.between before c rest.head?).body = ""
  · rw [if_pos h, if_neg (by simpa using h)]
    rfl
  · rw [if_neg h, if_pos (by simpa using h)]
    rfl

theorem accumulate_eq_join (before : Option Criterion) (l : List Criterion) :
    accumulate before l = String.join ((written before l).map (·.text)) := by
  induction l generalizing before with
  | nil => rfl
  | cons c rest ih =>
      rw [accumulate, Step.write_place, ih, written_cons]
      by_cases h : (Step.between before c rest.head?).body = ""
      · rw [if_pos h, if_pos h, String.empty_append]
      · rw [if_neg h, if_neg h, List.map_cons, String.join_cons]

/-- A criterion behind which nothing is written leaves no list open: the next one would be on
    its column, and is then not silent. -/
theorem link_eq_joiner (h : written (some c) rest = []) :
    (Step.between before c rest.head?).link = joiner := by
  have hsilent : accumulate (some c) rest = "" := by
    rw [accumulate_eq_join, h]
    rfl
  have hclosed : ¬sharesColumn c rest.head? = true := by
    intro hshares
    cases rest with
    | nil => exact Bool.false_ne_true hshares
    | cons d rest => exact accumulate_ne_empty (by rwa [sharesColumn_comm]) hsilent
  rw [Step.between]
  cases hp : place before c rest.head? with
  | opens => exact absurd (sharesColumn_of_place (.inl hp)) hclosed
  | continues => exact absurd (sharesColumn_of_place (.inr hp)) hclosed
  | closes | stands => rfl

/-- The last link that is written is the joiner. -/
theorem link_getLast?_written {s : Step} (h : s ∈ (written before l).getLast?) :
    s.link = joiner := by
  induction l generalizing before with
  | nil => exact absurd h (Option.not_mem_none s)
  | cons c rest ih =>
      rw [written_cons] at h
      by_cases hsilent : (Step.between before c rest.head?).body = ""
      · rw [if_pos hsilent] at h
        exact ih h
      · rw [if_neg hsilent] at h
        cases hrest : written (some c) rest with
        | nil =>
            rw [hrest] at h
            obtain rfl := Option.some.inj h
            exact link_eq_joiner hrest
        | cons t later =>
            rw [hrest, List.getLast?_cons_cons, ← hrest] at h
            exact ih h

theorem link_of_written {front : List Step} {last : Step}
    (h : written before l = front ++ [last]) : last.link = joiner := by
  have hlast : last ∈ (written before l).getLast? := by
    rw [h, List.getLast?_concat]
    rfl
  exact link_getLast?_written hlast

/-- Behind a step that leaves a list open there is one that ends with the joiner. -/
theorem exists_link_eq_joiner {front back : List Step} {s : Step}
    (h : written before l = front ++ s :: back) (hs : s.link = separator) :
    ∃ t ∈ back, t.link = joiner := by
  rcases List.eq_nil_or_concat back with rfl | ⟨init, t, rfl⟩
  · exact absurd (hs.symm.trans (link_of_written h)) (by decide)
  · rw [List.concat_eq_append] at h ⊢
    rw [← List.cons_append, ← List.append_assoc] at h
    exact ⟨t, List.mem_concat_self, link_of_written h⟩

/-- The clause is all that is written but for the last link. -/
theorem build_eq_of_written {front : List Step} {last : Step}
    (h : written none l = front ++ [last]) :
    build l = String.join (front.map (·.text)) ++ last.body
      ∧ accumulate none l = build l ++ joiner := by
  have htext : accumulate none l = String.join (front.map (·.text)) ++ last.body ++ joiner := by
    rw [accumulate_eq_join, h, List.map_append, String.join_append, ← link_of_written h]
    simp [Step.text, String.append_assoc]
  have hbuild : build l = String.join (front.map (·.text)) ++ last.body := by
    rw [build, htext, Text.trimSuffix_append]
  exact ⟨hbuild, by rw [hbuild, htext]⟩

end Where

open Where (written)

/-- **ONE LINK TOO MANY**: the assignments of an update are joined, whatever they contain. What is
    accumulated for criteria is what the steps write that are not silent, and behind each list
    that is left open a joiner follows. If no step writes, there is no clause; otherwise the last
    link is the joiner, it is what is cut off, and the body before it stays whole. -/
theorem trim_removes_last_joiner :
    (∀ assignments : List Assignment,
      Assignments.build assignments = ", ".intercalate (assignments.map (·.render)))
    ∧ ∀ criteria : List Criterion,
      Where.accumulate none criteria = String.join ((written none criteria).map (·.text))
      ∧ (∀ front s back, written none criteria = front ++ s :: back → s.link = ", " →
          ∃ t ∈ back, t.link = " AND ")
      ∧ ((written none criteria = [] ∧ Where.accumulate none criteria = ""
            ∧ Where.build criteria = "")
        ∨ ∃ front last, written none criteria = front ++ [last] ∧ last.link = " AND "
            ∧ Where.accumulate none criteria = Where.build criteria ++ " AND "
            ∧ Where.build criteria = String.join (front.map (·.text)) ++ last.body) := by
  refine ⟨Assignments.build_eq_intercalate, fun criteria =>
    ⟨Where.accumulate_eq_join none criteria, fun _ _ _ => Where.exists_link_eq_joiner, ?_⟩⟩
  rcases List.eq_nil_or_concat (written none criteria) with hnone | ⟨front, last, hlast⟩
  · have haccumulate : Where.accumulate none criteria = "" := by
      rw [Where.accumulate_eq_join, hnone]
      rfl
    refine .inl ⟨hnone, haccumulate, ?_⟩
    rw [Where.build, haccumulate, Text.trimSuffix_empty]
  · rw [List.concat_eq_append] at hlast
    obtain ⟨hbuild, haccumulate⟩ := Where.build_eq_of_written hlast
    exact .inr ⟨front, last, hlast, Where.link_of_written hlast, haccumulate, hbuild⟩

end SqlText.Clause
