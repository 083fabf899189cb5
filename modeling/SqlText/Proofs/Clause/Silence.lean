import Mathlib.Data.List.Chain
import SqlText.Proofs.Clause.Composition

/-!
# Silence — the criteria that leave no clause

A clause may be empty although there are criteria. This happens exactly for criteria that
are `Silent`: each of them constrains nothing and no two neighbours are on one column, for
neighbours on one column would be written as a group of values (`build_eq_empty_iff`).
-/

namespace SqlText.Clause.Where

variable {before after : Option Criterion} {c : Criterion}

/-- All criteria constrain nothing, and no two neighbours share a column. -/
def Silent (criteria : List Criterion) : Prop :=
  (∀ c ∈ criteria, c.relation = .all) ∧ criteria.IsChain fun x y => x.column ≠ y.column

instance (criteria : List Criterion) : Decidable (Silent criteria) :=
  inferInstanceAs (Decidable (_ ∧ _))

/-- A criterion leaves no trace between two neighbours exactly if it constrains nothing and
    is on neither one's column. -/
theorem write_place_eq_empty_iff :
    (place before c after).write c = "" ↔
      c.relation = .all ∧ sharesColumn c before = false ∧ sharesColumn c after = false := by
  rw [write_eq_empty_iff, place_eq_stands_iff]
  constructor
  · rintro ⟨⟨ha, hb⟩, hall⟩
    rw [hall] at ha hb
    refine ⟨hall, ?_, ?_⟩
    · exact Bool.eq_false_iff.mpr fun h => absurd (hb h) (by decide)
    · exact Bool.eq_false_iff.mpr fun h => absurd (ha h) (by decide)
  · rintro ⟨hall, hb, ha⟩
    exact ⟨⟨fun h => absurd h (by simp [ha]), fun h => absurd h (by simp [hb])⟩, hall⟩

/-- The seam to the criterion before is part of the silence of what follows it. -/
theorem accumulate_eq_empty_iff {l : List Criterion} :
    accumulate before l = "" ↔ (∀ c ∈ l.head?, sharesColumn c before = false) ∧ Silent l := by
  induction l generalizing before with
  | nil => simp [accumulate, Silent]
  | cons c rest ih =>
      rw [accumulate, String.append_eq_empty_iff, write_place_eq_empty_iff, ih]
      constructor
      · rintro ⟨⟨hall, hb, -⟩, hseam, hrest, hchain⟩
        refine ⟨?_, List.forall_mem_cons.mpr ⟨hall, hrest⟩, List.isChain_cons.mpr ⟨?_, hchain⟩⟩
        · rintro x ⟨⟩
          exact hb
        · intro d hd
          exact not_sharesColumn_some.mp (hseam d hd)
      · rintro ⟨hb, hrel, hchain⟩
        obtain ⟨hall, hrest⟩ := List.forall_mem_cons.mp hrel
        obtain ⟨hseam, htail⟩ := List.isChain_cons.mp hchain
        refine ⟨⟨hall, hb c rfl, ?_⟩, ?_, hrest, htail⟩
        · cases hd : rest.head? with
          | none => rfl
          | some d => exact not_sharesColumn_some.mpr (hseam d hd).symm
        · intro d hd
          exact not_sharesColumn_some.mpr (hseam d hd)

theorem build_eq_empty_iff {criteria : List Criterion} : build criteria = "" ↔ Silent criteria := by
  rw [build_eq_iff, terminated_empty, accumulate_eq_empty_iff]
  exact and_iff_right fun _ _ => rfl

end SqlText.Clause.Where
