import SqlText.Builder
import SqlText.Proofs.Clause.Assignments
import SqlText.Proofs.Clause.Silence

/-!
# Guards — which requests are written at all

A builder either writes a statement and reports exactly that statement, or it writes
nothing and reports nothing (`build_eq`); no statement is the empty text
(`statement?_ne_empty`). Which of the two it does is known from the request: nothing is
selected without criteria, inserted without assignments, deleted for silent criteria, or
updated if the criteria are silent or there are no assignments.

So a deletion or an update that is written always has a condition, and a selection has one
unless its criteria are silent (`build_of_guards`).
-/

namespace SqlText

open Clause.Where (Silent)

variable {table : String} {assignments : List Assignment} {criteria : List Criterion}
  {modifiers : ModifierList}

-- ── Statements ────────────────────────────────────────────────────────────────

namespace Statement

/-- The condition of a selection, left out if the criteria are silent. -/
theorem part_where : part "WHERE " (Clause.Where.build criteria) =
    if Silent criteria then [] else ["WHERE " ++ Clause.Where.build criteria] := by
  simp only [part, Clause.Where.build_eq_empty_iff]

theorem select?_eq : select? table criteria modifiers =
    if criteria = [] then none
    else
      some (" ".intercalate
        (["SELECT"] ++ part "" modifiers.front
          ++ (if modifiers.hasKind .distinct then [] else ["*"])
          ++ ["FROM " ++ table]
          ++ (if Silent criteria then [] else ["WHERE " ++ Clause.Where.build criteria])
          ++ part "" modifiers.back)) := by
  simp only [select?, List.isEmpty_iff, part_where]

theorem update?_eq : update? table assignments criteria =
    if assignments = [] ∨ Silent criteria then none
    else
      some ("UPDATE " ++ table ++ " SET " ++ Clause.Assignments.build assignments
        ++ " WHERE " ++ Clause.Where.build criteria) := by
  simp only [update?, Bool.or_eq_true, List.isEmpty_iff, decide_eq_true_eq,
    Clause.Where.build_eq_empty_iff]

theorem insert?_eq : insert? table assignments =
    if assignments = [] then none
    else
      some ("INSERT INTO " ++ table ++ " "
        ++ Clause.Assignments.buildColumnsAndValues assignments) := by
  simp only [insert?, List.isEmpty_iff]

theorem delete?_eq : delete? table criteria =
    if Silent criteria then none
    else some ("DELETE FROM " ++ table ++ " WHERE " ++ Clause.Where.build criteria) := by
  simp only [delete?, Clause.Where.build_eq_empty_iff]

end Statement

/-- No statement is the empty text: each one begins with its verb. -/
theorem Request.statement?_ne_empty {v : Verb} (request : Request v) :
    request.statement? table ≠ some "" := by
  intro h
  cases request with
  | select criteria modifiers =>
      rw [statement?, Statement.select?_eq] at h
      obtain ⟨-, htext⟩ := Option.ite_none_left_eq_some.mp h
      have hverb : "SELECT" ≠ "" := by decide
      exact Text.intercalate_cons_ne_empty hverb (Option.some.inj htext)
  | update assignments criteria =>
      rw [statement?, Statement.update?_eq] at h
      obtain ⟨-, htext⟩ := Option.ite_none_left_eq_some.mp h
      simp at htext
  | insert assignments =>
      rw [statement?, Statement.insert?_eq] at h
      obtain ⟨-, htext⟩ := Option.ite_none_left_eq_some.mp h
      simp at htext
  | delete criteria =>
      rw [statement?, Statement.delete?_eq] at h
      obtain ⟨-, htext⟩ := Option.ite_none_left_eq_some.mp h
      simp at htext

-- ── Builders ──────────────────────────────────────────────────────────────────

namespace Builder

/-- The outcome of a request for which nothing is written. -/
def nothing : Outcome (Option String) :=
  ⟨.ok none, ⟨[], []⟩⟩

/-- The outcome of a request that was written, with one entry in the log. -/
def written (label statement : String) : Outcome (Option String) :=
  ⟨.ok (some statement), ⟨[], [.built label statement]⟩⟩

/-- A statement comes with its report, and without a statement there is none. -/
theorem build_eq (b : Builder) (request : Request b.kind.verb) :
    b.build request = ((request.statement? b.table).map (written b.kind.label)).getD nothing := by
  have hresult := result_build b request
  have htrace := trace_build b request
  cases hs : request.statement? b.table with
  | none =>
      rw [hs] at hresult htrace
      exact Outcome.ext hresult htrace
  | some statement =>
      rw [hs] at hresult htrace
      exact Outcome.ext hresult htrace

/-- A builder that guards a text writes it or writes nothing. -/
theorem build_of_guard {b : Builder} {request : Request b.kind.verb} {guard : Prop}
    [Decidable guard] {text : String}
    (h : request.statement? b.table = if guard then none else some text) :
    b.build request = if guard then nothing else written b.kind.label text := by
  rw [build_eq, h]
  by_cases hg : guard
  · rw [if_pos hg, if_pos hg]
    rfl
  · rw [if_neg hg, if_neg hg]
    rfl

/-- **NO WRITE WITHOUT A CONDITION**: a deletion and an update are written exactly if their
    criteria are not silent, an update needs assignments besides, and a selection needs
    criteria but leaves out the condition of silent ones. Whatever is written is not empty
    and has one entry in the log. -/
theorem build_of_guards (target : Target) (assignments : List Assignment)
    (criteria : List Criterion) (modifiers : ModifierList) :
    (Clause.Where.build criteria = "" ↔ Silent criteria)
    ∧ (Clause.Assignments.build assignments = "" ↔ assignments = [])
    ∧ (standard .delete target).build (.delete criteria) =
        (if Silent criteria then nothing
        else written "delete"
          ("DELETE FROM " ++ target.tableName ++ " WHERE " ++ Clause.Where.build criteria))
    ∧ (standard .update target).build (.update assignments criteria) =
        (if assignments = [] ∨ Silent criteria then nothing
        else written "update"
          ("UPDATE " ++ target.tableName ++ " SET " ++ Clause.Assignments.build assignments
            ++ " WHERE " ++ Clause.Where.build criteria))
    ∧ (standard .select target).build (.select criteria modifiers) =
        (if criteria = [] then nothing
        else written "select" (" ".intercalate
          (["SELECT"] ++ Statement.part "" modifiers.front
            ++ (if modifiers.hasKind .distinct then [] else ["*"])
            ++ ["FROM " ++ target.tableName]
            ++ (if Silent criteria then [] else ["WHERE " ++ Clause.Where.build criteria])
            ++ Statement.part "" modifiers.back)))
    ∧ ∀ (b : Builder) (request : Request b.kind.verb),
        b.build request = nothing ∨
          ∃ statement ≠ "", b.build request = written b.kind.label statement ∧
            (written b.kind.label statement).trace.log.map Entry.message =
              ["Built " ++ b.kind.label ++ " statement: " ++ statement] := by
  refine ⟨Clause.Where.build_eq_empty_iff, Clause.Assignments.build_eq_empty_iff,
    build_of_guard Statement.delete?_eq, build_of_guard Statement.update?_eq,
    build_of_guard Statement.select?_eq, ?_⟩
  intro b request
  rw [build_eq]
  cases hs : request.statement? b.table with
  | none => exact Or.inl rfl
  | some statement =>
      have hne : statement ≠ "" := by
        rintro rfl
        exact request.statement?_ne_empty hs
      exact Or.inr ⟨statement, hne, rfl, rfl⟩

end Builder

end SqlText
