import SqlText.Clause.Where
import SqlText.Proofs.Criterion
import SqlText.Proofs.Text

/-!
# Composition — the clause of a list from the clauses of its parts

What is written for a criterion depends on one neighbour at either side, so the text of a
part depends on what stands around the part. `within before l after` is the text of `l`
between two neighbours. It composes without any condition (`within_append`), and the
clause is its special case without neighbours (`accumulate_eq_within`).

A second fact carries every law about the clause as a whole: the accumulated text is empty
or ends in the joiner (`accumulate_none`). A group that was opened is therefore always
closed, and the final trim removes a joiner that the last condition wrote and nothing
else. Two lists that are `Apart` — no column is shared across the seam — do not see each
other, so that the clause of both is the two clauses joined (`build_append`,
`build_append_of_apart`).
-/

namespace SqlText.Clause.Where

variable {before before' after after' : Option Criterion} {c : Criterion} {l : List Criterion}

-- ── Neighbours on one column ──────────────────────────────────────────────────

theorem sharesColumn_some {d : Criterion} :
    sharesColumn c (some d) = true ↔ d.column = c.column := by
  simp [sharesColumn]

theorem not_sharesColumn_some {d : Criterion} :
    sharesColumn c (some d) = false ↔ d.column ≠ c.column := by
  simp [sharesColumn]

theorem sharesColumn_comm (c d : Criterion) :
    sharesColumn c (some d) = sharesColumn d (some c) := by
  simp [sharesColumn, eq_comm]

theorem exists_of_sharesColumn (h : sharesColumn c before = true) :
    ∃ b ∈ before, b.column = c.column := by
  cases before with
  | none => exact absurd h Bool.false_ne_true
  | some b => exact ⟨b, rfl, sharesColumn_some.mp h⟩

/-- In a list of columns, no neighbour of the position is the same column. -/
def Alone (columns : List String) (position : Nat) : Prop :=
  (position ≠ 0 → columns[position - 1]? ≠ columns[position]?)
    ∧ columns[position + 1]? ≠ columns[position]?

instance (columns : List String) (position : Nat) : Decidable (Alone columns position) :=
  inferInstanceAs (Decidable (_ ∧ _))

theorem not_sharesColumn_iff :
    sharesColumn c before = false ↔ before.map (·.column) ≠ some c.column := by
  cases before <;> simp [sharesColumn]

/-- A criterion in the middle of a list is alone if neither part around it ends on its column. -/
theorem alone_length_iff (front : List Criterion) (c : Criterion) (back : List Criterion) :
    Alone ((front ++ c :: back).map (·.column)) front.length ↔
      sharesColumn c front.getLast? = false ∧ sharesColumn c back.head? = false := by
  have hnext : ((front ++ c :: back).map (·.column))[front.length + 1]? =
      back.head?.map (·.column) := by
    cases back <;> simp
  have hself : ((front ++ c :: back).map (·.column))[front.length]? = some c.column := by simp
  rw [Alone, hself, hnext, not_sharesColumn_iff, not_sharesColumn_iff]
  refine and_congr_left' ?_
  rcases List.eq_nil_or_concat front with rfl | ⟨init, b, rfl⟩
  · simp
  · simp

-- ── What a place writes ───────────────────────────────────────────────────────

/-- A criterion leaves no trace exactly if it stands and constrains nothing. -/
theorem write_eq_empty_iff (p : Place) : p.write c = "" ↔ p = .stands ∧ c.relation = .all := by
  cases p with
  | opens => simp [Place.write, separator]
  | continues => simp [Place.write, separator]
  | closes => simp [Place.write, joiner]
  | stands =>
      rw [Place.write]
      by_cases h : c.render = ""
      · simp [h, Criterion.render_eq_empty_iff.mp h]
      · rw [if_neg h]
        simp [joiner, mt Criterion.render_eq_empty_iff.mpr h]

theorem place_congr (hb : sharesColumn c before = sharesColumn c before')
    (ha : sharesColumn c after = sharesColumn c after') :
    place before c after = place before' c after' := by
  rw [place, place, hb, ha]

/-- A criterion stands among the neighbours of its list only if no group takes it up: next
    to its own column it is one half of a range. -/
theorem place_eq_stands_iff :
    place before c after = .stands ↔
      (sharesColumn c after = true → c.relation = .betweenStart)
        ∧ (sharesColumn c before = true → c.relation = .betweenEnd) := by
  rw [place]
  by_cases ha : sharesColumn c after <;> by_cases hb : sharesColumn c before <;>
    by_cases hs : c.relation = .betweenStart <;> simp [ha, hb, hs]

theorem place_eq_opens (ha : sharesColumn c after = true) (hb : sharesColumn c before = false)
    (hs : c.relation ≠ .betweenStart) : place before c after = .opens := by
  rw [place, if_pos (by simp [ha, hs]), if_neg (by simp [hb])]

theorem place_eq_continues (ha : sharesColumn c after = true)
    (hb : sharesColumn c before = true) (hs : c.relation ≠ .betweenStart) :
    place before c after = .continues := by
  rw [place, if_pos (by simp [ha, hs]), if_pos hb]

theorem place_eq_closes (ha : sharesColumn c after = false)
    (hb : sharesColumn c before = true) (he : c.relation ≠ .betweenEnd) :
    place before c after = .closes := by
  rw [place, if_neg (by simp [ha]), if_pos (by simp [hb, he])]

/-- A group goes on behind a criterion only if the next one is on its column. -/
theorem sharesColumn_of_place
    (h : place before c after = .opens ∨ place before c after = .continues) :
    sharesColumn c after = true := by
  by_cases ha : sharesColumn c after = true
  · exact ha
  · rw [place, if_neg (by simp [ha])] at h
    by_cases hb : (sharesColumn c before && c.relation ≠ .betweenEnd) = true
    · rw [if_pos hb] at h
      exact absurd h (by decide)
    · rw [if_neg hb] at h
      exact absurd h (by decide)

-- ── The text between two neighbours ───────────────────────────────────────────

/-- What is written for the criteria of a list that follow `before` and precede `after`. -/
def within (before : Option Criterion) : List Criterion → Option Criterion → String
  | [], _ => ""
  | c :: rest, after =>
      (place before c (rest.head?.or after)).write c ++ within (some c) rest after

theorem accumulate_eq_within : accumulate before l = within before l none := by
  induction l generalizing before with
  | nil => rfl
  | cons c rest ih => rw [accumulate, within, Option.or_none, ih]

/-- Each of two parts has the other one's nearest criterion as its neighbour. -/
theorem within_append (a b : List Criterion) :
    within before (a ++ b) after =
      within before a (b.head?.or after) ++ within (a.getLast?.or before) b after := by
  -- the neighbour behind a criterion of `a` is in `a` or, at its end, the head of `b`
  induction a generalizing before with
  | nil => rw [List.nil_append, within, String.empty_append]; rfl
  | cons c rest ih =>
      have hlast : (c :: rest).getLast?.or before = rest.getLast?.or (some c) := by
        rw [List.getLast?_cons, Option.some_or, Option.or_some]
      rw [List.cons_append, within, within, List.head?_append, Option.or_assoc, ih, hlast,
        String.append_assoc]

/-- Neighbours on the same columns are as good as each other. -/
theorem within_congr
    (hb : ∀ c ∈ l.head?, sharesColumn c before = sharesColumn c before')
    (ha : ∀ c ∈ l.getLast?, sharesColumn c after = sharesColumn c after') :
    within before l after = within before' l after' := by
  induction l generalizing before before' with
  | nil => rfl
  | cons c rest ih =>
      have hrest : within (some c) rest after = within (some c) rest after' := by
        refine ih (fun _ _ => rfl) ?_
        intro d hd
        cases rest with
        | nil => exact absurd hd (Option.not_mem_none d)
        | cons e rest => exact ha d (by rwa [List.getLast?_cons_cons])
      have hplace : place before c (rest.head?.or after) =
          place before' c (rest.head?.or after') := by
        refine place_congr (hb c rfl) ?_
        cases rest with
        | nil => exact ha c rfl
        | cons e rest => rfl
      rw [within, within, hplace, hrest]

/-- No column is shared across the seam between two lists. -/
def Apart (a b : List Criterion) : Prop :=
  ∀ x ∈ a.getLast?, ∀ y ∈ b.head?, x.column ≠ y.column

/-- The text of two lists that are apart is the text of each by itself. -/
theorem accumulate_append {a b : List Criterion} (h : Apart a b) :
    accumulate none (a ++ b) = accumulate none a ++ accumulate none b := by
  have hleft : within none a b.head? = within none a none := by
    refine within_congr (fun _ _ => rfl) ?_
    intro x hx
    cases hb : b.head? with
    | none => rfl
    | some y => exact not_sharesColumn_some.mpr (h x hx y hb).symm
  have hright : within a.getLast? b none = within none b none := by
    refine within_congr ?_ (fun _ _ => rfl)
    intro y hy
    cases ha : a.getLast? with
    | none => rfl
    | some x => exact not_sharesColumn_some.mpr (h x ha y hy)
  rw [accumulate_eq_within, within_append, Option.or_none, Option.or_none, hleft, hright,
    ← accumulate_eq_within, ← accumulate_eq_within]

theorem accumulate_append_cons (front : List Criterion) (c : Criterion)
    (back : List Criterion) :
    accumulate none (front ++ c :: back) =
      within none front (some c)
        ++ ((place front.getLast? c back.head?).write c ++ accumulate (some c) back) := by
  rw [accumulate_eq_within, within_append, within, accumulate_eq_within]
  simp only [Option.or_none, List.head?_cons]

-- ── Joined conditions ─────────────────────────────────────────────────────────

/-- A condition with the joiner behind it; without a text there is no joiner either. -/
def terminated (text : String) : String :=
  if text = "" then "" else text ++ joiner

/-- Those of the conditions that are not empty, with the joiner between them. -/
def conjoin (texts : List String) : String :=
  joiner.intercalate (texts.filter (· ≠ ""))

@[simp] theorem terminated_empty : terminated "" = "" := rfl

theorem terminated_of_ne_empty {text : String} (h : text ≠ "") :
    terminated text = text ++ joiner :=
  if_neg h

theorem trimSuffix_terminated (text : String) :
    Text.trimSuffix (terminated text) joiner = text := by
  by_cases h : text = ""
  · rw [h, terminated_empty, Text.trimSuffix_empty]
  · rw [terminated_of_ne_empty h, Text.trimSuffix_append]

theorem terminated_injective {s t : String} (h : terminated s = terminated t) : s = t := by
  rw [← trimSuffix_terminated s, h, trimSuffix_terminated]

@[simp] theorem conjoin_nil : conjoin [] = "" := rfl

theorem conjoin_empty_cons (texts : List String) : conjoin ("" :: texts) = conjoin texts := rfl

/-- Terminating the joined conditions is terminating each of them. -/
theorem terminated_conjoin (texts : List String) :
    terminated (conjoin texts) = String.join (texts.map terminated) := by
  induction texts with
  | nil => simp
  | cons t texts ih =>
      rw [List.map_cons, String.join_cons, ← ih]
      by_cases ht : t = ""
      · rw [ht, conjoin_empty_cons, terminated_empty, String.empty_append]
      · have hfilter : (t :: texts).filter (· ≠ "") = t :: texts.filter (· ≠ "") :=
          List.filter_cons_of_pos (by simpa using ht)
        cases hrest : texts.filter (· ≠ "") with
        | nil =>
            rw [conjoin, hfilter, hrest, conjoin, hrest, String.intercalate_singleton,
              String.intercalate_nil, terminated_empty, String.append_empty]
        | cons u rest =>
            have hu : u ≠ "" := by
              have hmem : u ∈ texts.filter (· ≠ "") := hrest ▸ List.mem_cons_self
              simpa using (List.mem_filter.mp hmem).2
            have hne : joiner.intercalate (u :: rest) ≠ "" := Text.intercalate_cons_ne_empty hu
            rw [conjoin, hfilter, hrest, conjoin, hrest, String.intercalate_cons_cons,
              terminated_of_ne_empty hne, terminated_of_ne_empty ht,
              terminated_of_ne_empty (by simp [ht])]
            simp [String.append_assoc]

theorem terminated_append_terminated (s t : String) :
    terminated s ++ terminated t = terminated (conjoin [s, t]) := by
  rw [terminated_conjoin]
  simp

-- ── The shape of the accumulated text ─────────────────────────────────────────

/-- Behind a criterion of its own column no criterion is silent. -/
theorem accumulate_ne_empty (h : sharesColumn c before = true) :
    accumulate before (c :: l) ≠ "" := by
  intro he
  rw [accumulate, String.append_eq_empty_iff, write_eq_empty_iff] at he
  obtain ⟨⟨hp, hall⟩, -⟩ := he
  have hend := (place_eq_stands_iff.mp hp).2 h
  rw [hall] at hend
  exact absurd hend (by decide)

/-- The accumulated text is empty or ends in the joiner: what opens or continues a group is
    followed by a criterion that writes something. -/
theorem exists_accumulate_eq_terminated (before : Option Criterion) (l : List Criterion) :
    ∃ text, accumulate before l = terminated text := by
  induction l generalizing before with
  | nil => exact ⟨"", rfl⟩
  | cons c rest ih =>
      obtain ⟨text, htext⟩ := ih (some c)
      -- an open group is closed later: the next criterion shares the column and writes
      have hopen (s : String) (h : sharesColumn c rest.head? = true) :
          s ++ terminated text = terminated (s ++ text) := by
        have hne : text ≠ "" := by
          rintro rfl
          cases rest with
          | nil => exact absurd h Bool.false_ne_true
          | cons d rest => exact accumulate_ne_empty (by rwa [sharesColumn_comm]) htext
        rw [terminated_of_ne_empty hne, terminated_of_ne_empty (by simp [hne]),
          String.append_assoc]
      rw [accumulate, htext]
      cases hp : place before c rest.head? with
      | opens => exact ⟨_, hopen _ (sharesColumn_of_place (.inl hp))⟩
      | continues => exact ⟨_, hopen _ (sharesColumn_of_place (.inr hp))⟩
      | closes =>
          have hne : c.quotedValue ++ ")" ≠ "" := by simp
          refine ⟨conjoin [c.quotedValue ++ ")", text], ?_⟩
          rw [← terminated_append_terminated, terminated_of_ne_empty hne]
          rfl
      | stands => exact ⟨conjoin [c.render, text], terminated_append_terminated _ _⟩

/-- The accumulated text is the clause with the joiner behind it, if there is a clause. -/
theorem accumulate_none (l : List Criterion) : accumulate none l = terminated (build l) := by
  obtain ⟨text, h⟩ := exists_accumulate_eq_terminated none l
  rw [build, h, trimSuffix_terminated]

theorem build_eq_iff {text : String} : build l = text ↔ accumulate none l = terminated text := by
  rw [accumulate_none]
  exact ⟨congrArg terminated, terminated_injective⟩

theorem build_append {a b : List Criterion} (h : Apart a b) :
    build (a ++ b) = conjoin [build a, build b] := by
  rw [build_eq_iff, accumulate_append h, accumulate_none, accumulate_none,
    terminated_append_terminated]

theorem conjoin_pair (s t : String) :
    conjoin [s, t] = if s = "" then t else if t = "" then s else s ++ joiner ++ t := by
  by_cases hs : s = "" <;> by_cases ht : t = "" <;> simp [conjoin, hs, ht]

/-- **THE CLAUSE COMPOSES**: the clause of two lists that are apart is the one clause behind
    the other, with a joiner between them if both constrain something. The relations do not
    matter; a half of a range may stand at the seam or anywhere else. -/
theorem build_append_of_apart {a b : List Criterion} (h : Apart a b) :
    build (a ++ b) =
      if build a = "" then build b
      else if build b = "" then build a
      else build a ++ " AND " ++ build b := by
  rw [build_append h]
  exact conjoin_pair (build a) (build b)

/-- Halves of ranges that have no other half, with a silent criterion at the seam. -/
theorem build_append_unpaired_halves :
    Apart [⟨"A", .betweenStart, "1"⟩, ⟨"N", .all, "2"⟩]
        [⟨"D", .betweenEnd, "3"⟩, ⟨"N", .equal, "4"⟩] ∧
      build ([⟨"A", .betweenStart, "1"⟩, ⟨"N", .all, "2"⟩]
          ++ [⟨"D", .betweenEnd, "3"⟩, ⟨"N", .equal, "4"⟩]) =
        "A BETWEEN (CAST('1' AS DATE)) AND (CAST('3' AS DATE)) AND N='4'" := by
  have h : Apart [⟨"A", .betweenStart, "1"⟩, ⟨"N", .all, "2"⟩]
      [⟨"D", .betweenEnd, "3"⟩, ⟨"N", .equal, "4"⟩] := by
    simp [Apart]
  exact ⟨h, (build_append_of_apart h).trans (by decide)⟩

end SqlText.Clause.Where
