import Mathlib.Data.List.Chain
import Mathlib.Data.List.Forall2
import SqlText.Proofs.Clause.Composition

/-!
# Values — which values a clause shows

Some relations ignore their value: a criterion that stands alone is written without it. In a
group only values are written, whatever the relation is, so that a value that should be
ignored shows in the clause as soon as a neighbour is on the same column
(`place_ne_stands_of_ignores`).

Two lists agree if they differ in ignored values at most (`Criterion.Agrees`). Their places are
the same, and so are their texts as long as every criterion that ignores its value stands.
That is the case in `Secluded` lists, and in no others: next to a criterion on its column a
value can be made longer, and the clause becomes longer with it (`build_blind_iff_secluded`).
-/

namespace SqlText

variable {c d : Criterion}

namespace Criterion

/-- The criteria differ at most in a value that their relation ignores. -/
structure Agrees (c d : Criterion) : Prop where
  column : c.column = d.column
  relation : c.relation = d.relation
  value : c.relation.ignoresValue = false → c.value = d.value

namespace Agrees

theorem refl (c : Criterion) : Agrees c c :=
  ⟨rfl, rfl, fun _ => rfl⟩

theorem eq (h : Agrees c d) (hv : c.relation.ignoresValue = false) : c = d := by
  have hvalue := h.value hv
  cases c
  cases d
  exact (Criterion.mk.injEq ..).mpr ⟨h.column, h.relation, hvalue⟩

/-- A criterion that stands alone is written without a value that it ignores. -/
theorem render_eq (h : Agrees c d) : c.render = d.render := by
  cases hv : c.relation.ignoresValue with
  | false => rw [h.eq hv]
  | true =>
      have hr : d.relation = c.relation := h.relation.symm
      cases hc : c.relation <;> simp [hc, Relation.ignoresValue] at hv <;>
        simp [render, hr, hc, h.column]

/-- Any other value agrees with one that is ignored. -/
theorem of_ignores (hv : c.relation.ignoresValue = true) (value : String) :
    Agrees c { c with value } :=
  ⟨rfl, rfl, fun h => absurd (h.symm.trans hv) Bool.false_ne_true⟩

end Agrees

end Criterion

namespace Clause.Where

open Criterion (Agrees)

variable {before before' after after' : Option Criterion} {l l' front back : List Criterion}

-- ── The same places ───────────────────────────────────────────────────────────

theorem sharesColumn_eq_of_columns (hc : c.column = d.column)
    (hb : before.map (·.column) = before'.map (·.column)) :
    sharesColumn c before = sharesColumn d before' := by
  have hany (c : Criterion) (o : Option Criterion) :
      sharesColumn c o = (o.map (·.column)).any (· = c.column) := by
    cases o <;> rfl
  rw [hany, hany, hb, hc]

/-- Of the relations a place depends only on which criteria are halves of ranges. -/
theorem place_eq_of_halves (hc : c.column = d.column)
    (hstart : c.relation = .betweenStart ↔ d.relation = .betweenStart)
    (hend : c.relation = .betweenEnd ↔ d.relation = .betweenEnd)
    (hb : before.map (·.column) = before'.map (·.column))
    (ha : after.map (·.column) = after'.map (·.column)) :
    place before c after = place before' d after' := by
  rw [place, place, sharesColumn_eq_of_columns hc hb, sharesColumn_eq_of_columns hc ha]
  simp only [ne_eq, hstart, hend]

theorem place_eq_of_columns (hc : c.column = d.column) (hr : c.relation = d.relation)
    (hb : before.map (·.column) = before'.map (·.column))
    (ha : after.map (·.column) = after'.map (·.column)) :
    place before c after = place before' d after' :=
  place_eq_of_halves hc (by rw [hr]) (by rw [hr]) hb ha

/-- What ignores its value belongs to a group all the same if a neighbour is on its column. -/
theorem place_ne_stands_of_ignores (hv : c.relation.ignoresValue = true)
    (h : sharesColumn c before = true ∨ sharesColumn c after = true) :
    place before c after ≠ .stands := by
  intro hp
  obtain ⟨hstart, hend⟩ := place_eq_stands_iff.mp hp
  rcases h with hb | ha
  · rw [hend hb] at hv
    exact absurd hv (by decide)
  · rw [hstart ha] at hv
    exact absurd hv (by decide)

/-- What ignores its value stands exactly if no neighbour is on its column. -/
theorem place_eq_stands_iff_of_ignores (hv : c.relation.ignoresValue = true) :
    place before c after = .stands ↔
      sharesColumn c before = false ∧ sharesColumn c after = false := by
  constructor
  · intro hp
    rw [← Bool.not_eq_true, ← Bool.not_eq_true, ← not_or]
    exact fun h => place_ne_stands_of_ignores hv h hp
  · rintro ⟨hb, ha⟩
    rw [place_eq_stands_iff, hb, ha]
    exact ⟨fun h => absurd h Bool.false_ne_true, fun h => absurd h Bool.false_ne_true⟩

-- ── Secluded criteria ─────────────────────────────────────────────────────────

/-- No criterion that ignores its value stands next to one on its column. -/
def Secluded (criteria : List Criterion) : Prop :=
  criteria.IsChain fun x y => x.column = y.column →
    x.relation.ignoresValue = false ∧ y.relation.ignoresValue = false

instance (criteria : List Criterion) : Decidable (Secluded criteria) :=
  inferInstanceAs (Decidable (List.IsChain _ _))

theorem write_eq_of_agrees {p : Place} (h : Agrees c d)
    (hp : c.relation.ignoresValue = true → p = .stands) : p.write c = p.write d := by
  cases hv : c.relation.ignoresValue with
  | false => rw [h.eq hv]
  | true => rw [hp hv, Place.write, Place.write, h.render_eq]

/-- Secluded criteria are written as all that agree with them. The invariant is about the seam:
    the first criterion is not on the column of the one before it if it ignores its value. -/
theorem accumulate_eq_of_agrees (h : List.Forall₂ Agrees l l')
    (hb : before.map (·.column) = before'.map (·.column)) (hs : Secluded l)
    (hseam : ∀ c ∈ l.head?, c.relation.ignoresValue = true → sharesColumn c before = false) :
    accumulate before l = accumulate before' l' := by
  induction h generalizing before before' with
  | nil => rfl
  | @cons c d rest rest' hcd hrest ih =>
      obtain ⟨hnext, htail⟩ := List.isChain_cons.mp hs
      have hhead : rest.head?.map (·.column) = rest'.head?.map (·.column) := by
        cases hrest with
        | nil => rfl
        | cons hab _ => exact congrArg some hab.column
      have hplace : place before c rest.head? = place before' d rest'.head? :=
        place_eq_of_columns hcd.column hcd.relation hb hhead
      have hstands : c.relation.ignoresValue = true → place before c rest.head? = .stands := by
        intro hv
        refine place_eq_stands_iff.mpr ⟨?_, ?_⟩
        · intro ha
          obtain ⟨e, he, hcol⟩ := exists_of_sharesColumn ha
          rw [(hnext e he hcol.symm).1] at hv
          exact absurd hv Bool.false_ne_true
        · intro hb
          rw [hseam c rfl hv] at hb
          exact absurd hb Bool.false_ne_true
      have hrest' : accumulate (some c) rest = accumulate (some d) rest' := by
        refine ih (congrArg some hcd.column) htail ?_
        intro e he hv
        refine not_sharesColumn_some.mpr ?_
        intro hcol
        rw [(hnext e he hcol).2] at hv
        exact absurd hv Bool.false_ne_true
      rw [accumulate, accumulate, ← hplace, write_eq_of_agrees hcd hstands, hrest']

theorem build_eq_of_agrees (hs : Secluded l) (h : List.Forall₂ Agrees l l') :
    build l = build l' := by
  rw [build, build, accumulate_eq_of_agrees h rfl hs fun _ _ _ => rfl]

-- ── Values that show ──────────────────────────────────────────────────────────

/-- A member of a group shows its value. -/
theorem value_eq_of_write {p : Place} (hp : p ≠ .stands) (hc : c.column = d.column)
    (hr : c.relation = d.relation) (h : p.write c = p.write d) : c.value = d.value := by
  have hquoted : c.quotedValue = d.quotedValue := by
    cases p with
    | stands => exact absurd rfl hp
    | opens | continues | closes =>
        simpa only [Place.write, hc, String.append_left_inj, String.append_right_inj] using h
  rw [Criterion.quotedValue_eq, Criterion.quotedValue_eq, String.append_left_inj,
    String.append_right_inj] at hquoted
  exact Criterion.value_eq_of_quotedText hr hquoted

/-- A criterion in the middle of a list is written as another one on its column if the two
    lists are. -/
theorem write_eq_of_accumulate (hc : c.column = d.column) (hr : c.relation = d.relation)
    (h : accumulate none (front ++ c :: back) = accumulate none (front ++ d :: back)) :
    (place front.getLast? c back.head?).write c = (place front.getLast? c back.head?).write d := by
  have hcolumns : (some c).map (·.column) = (some d).map (·.column) := congrArg some hc
  have hfront : within none front (some c) = within none front (some d) :=
    within_congr (fun _ _ => rfl) fun _ _ => sharesColumn_eq_of_columns rfl hcolumns
  have hback : accumulate (some c) back = accumulate (some d) back := by
    rw [accumulate_eq_within, accumulate_eq_within]
    exact within_congr (fun _ _ => sharesColumn_eq_of_columns rfl hcolumns) fun _ _ => rfl
  have hplace : place front.getLast? d back.head? = place front.getLast? c back.head? :=
    place_eq_of_columns hc.symm hr.symm rfl rfl
  rw [accumulate_append_cons, accumulate_append_cons, hfront, hback, hplace,
    String.append_right_inj, String.append_left_inj] at h
  exact h

/-- The clause is the same for all criteria that agree with these. -/
def Blind (criteria : List Criterion) : Prop :=
  ∀ criteria', List.Forall₂ Agrees criteria criteria' → build criteria = build criteria'

/-- A clause that is blind to what agrees with a member of a group cannot tell their values
    apart, although it shows them. -/
theorem Blind.value_eq (h : Blind (front ++ c :: back)) (hcd : Agrees c d)
    (hp : place front.getLast? c back.head? ≠ .stands) : c.value = d.value := by
  have hagrees : List.Forall₂ Agrees (front ++ c :: back) (front ++ d :: back) :=
    List.rel_append (List.forall₂_same.mpr fun x _ => .refl x)
      (.cons hcd (List.forall₂_same.mpr fun x _ => .refl x))
  have htext : accumulate none (front ++ c :: back) = accumulate none (front ++ d :: back) := by
    rw [accumulate_none, accumulate_none, h _ hagrees]
  exact value_eq_of_write hp hcd.column hcd.relation
    (write_eq_of_accumulate hcd.column hcd.relation htext)

/-- What ignores its value has no neighbour on its column if the clause is blind: any other
    value would have to be the same. -/
theorem Blind.alone (h : Blind (front ++ c :: back)) (hv : c.relation.ignoresValue = true) :
    sharesColumn c front.getLast? = false ∧ sharesColumn c back.head? = false := by
  refine (place_eq_stands_iff_of_ignores hv).mp ?_
  by_contra hp
  have hvalue : c.value = c.value ++ "0" := h.value_eq (.of_ignores hv _) hp
  have hlength := congrArg String.length hvalue
  rw [String.length_append] at hlength
  exact Nat.ne_of_lt (Nat.lt_add_of_pos_right (by decide)) hlength

theorem build_blind_iff_secluded : Blind l ↔ Secluded l := by
  constructor
  · intro h
    refine List.isChain_iff_forall_rel_of_append_cons_cons.mpr ?_
    rintro x y front back rfl hcol
    have hshares : sharesColumn x (some y) = true := sharesColumn_some.mpr hcol.symm
    constructor
    · refine Bool.eq_false_iff.mpr ?_
      intro hv
      have halone := (h.alone hv).2
      rw [List.head?_cons, hshares] at halone
      exact Bool.noConfusion halone
    · refine Bool.eq_false_iff.mpr ?_
      intro hv
      rw [List.append_cons] at h
      have halone := (h.alone hv).1
      rw [List.getLast?_concat, sharesColumn_comm, hshares] at halone
      exact Bool.noConfusion halone
  · intro hs criteria' h
    exact build_eq_of_agrees hs h

end Clause.Where

end SqlText
