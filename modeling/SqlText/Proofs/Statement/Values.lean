import SqlText.Proofs.Clause.Values
import SqlText.Proofs.Statement.Guards

/-!
# Values — which ignored values reach a statement

A selection, an update and a deletion show of their criteria what the clause shows of them. So
the value of a criterion that ignores it does not reach a statement exactly if the criterion
has no neighbour on its column (`build_blind_iff`). Next to such a neighbour it is a member of
a group, and its value is written like any other (`not_forall_build_blind`).
-/

namespace SqlText

open Criterion (Agrees)
open Clause.Where (Secluded)

namespace Builder

theorem build_congr {b : Builder} {request request' : Request b.kind.verb}
    (h : request.statement? b.table = request'.statement? b.table) :
    b.build request = b.build request' := by
  rw [build_eq, build_eq, h]

/-- No builder can tell the criteria apart. -/
structure Indistinguishable (criteria criteria' : List Criterion) : Prop where
  clause : Clause.Where.build criteria = Clause.Where.build criteria'
  select : ∀ (target : Target) (modifiers : ModifierList),
    (standard .select target).build (.select criteria modifiers) =
      (standard .select target).build (.select criteria' modifiers)
  update : ∀ (target : Target) (assignments : List Assignment),
    (standard .update target).build (.update assignments criteria) =
      (standard .update target).build (.update assignments criteria')
  delete : ∀ target : Target,
    (standard .delete target).build (.delete criteria) =
      (standard .delete target).build (.delete criteria')

/-- A statement shows of its criteria their clause, and a selection whether there are any. -/
theorem indistinguishable_of_clause {criteria criteria' : List Criterion}
    (hclause : Clause.Where.build criteria = Clause.Where.build criteria')
    (hempty : criteria.isEmpty = criteria'.isEmpty) : Indistinguishable criteria criteria' where
  clause := hclause
  select target modifiers := by
    refine build_congr ?_
    show Statement.select? _ criteria modifiers = Statement.select? _ criteria' modifiers
    rw [Statement.select?, Statement.select?, hempty, hclause]
  update target assignments := by
    refine build_congr ?_
    show Statement.update? _ assignments criteria = Statement.update? _ assignments criteria'
    rw [Statement.update?, Statement.update?, hclause]
  delete target := by
    refine build_congr ?_
    show Statement.delete? _ criteria = Statement.delete? _ criteria'
    rw [Statement.delete?, Statement.delete?, hclause]

/-- **WHERE VALUES ARE IGNORED**: the clause and every statement are the same for all criteria
    that differ in ignored values at most exactly if no criterion that ignores its value stands
    next to one on its column. -/
theorem build_blind_iff (criteria : List Criterion) :
    (∀ criteria', List.Forall₂ Agrees criteria criteria' →
      Clause.Where.build criteria = Clause.Where.build criteria'
      ∧ ∀ target : Target,
        (∀ modifiers, (standard .select target).build (.select criteria modifiers) =
          (standard .select target).build (.select criteria' modifiers))
        ∧ (∀ assignments, (standard .update target).build (.update assignments criteria) =
          (standard .update target).build (.update assignments criteria'))
        ∧ (standard .delete target).build (.delete criteria) =
          (standard .delete target).build (.delete criteria')) ↔
      Secluded criteria := by
  constructor
  · intro h
    refine Clause.Where.build_blind_iff_secluded.mp ?_
    intro criteria' hagrees
    exact (h criteria' hagrees).1
  · intro hs criteria' hagrees
    have hempty : criteria.isEmpty = criteria'.isEmpty := by
      cases hagrees <;> rfl
    obtain ⟨hclause, hselect, hupdate, hdelete⟩ :=
      indistinguishable_of_clause (Clause.Where.build_eq_of_agrees hs hagrees) hempty
    exact ⟨hclause, fun target => ⟨hselect target, hupdate target, hdelete target⟩⟩

/-- A test for content is not written with its value, next to criteria on other columns. -/
theorem build_secluded_test (target : Target) :
    (standard .delete target).build
        (.delete [⟨"A", .equal, "1"⟩, ⟨"B", .any, "2"⟩, ⟨"A", .isNull, "3"⟩]) =
      (standard .delete target).build
        (.delete [⟨"A", .equal, "1"⟩, ⟨"B", .any, ""⟩, ⟨"A", .isNull, ""⟩]) := by
  have hagrees : List.Forall₂ Agrees
      [⟨"A", .equal, "1"⟩, ⟨"B", .any, "2"⟩, ⟨"A", .isNull, "3"⟩]
      [⟨"A", .equal, "1"⟩, ⟨"B", .any, ""⟩, ⟨"A", .isNull, ""⟩] :=
    .cons (.refl _) (.cons (.of_ignores rfl "") (.cons (.of_ignores rfl "") .nil))
  exact (((build_blind_iff _).mpr (by decide) _ hagrees).2 target).2.2

/-- A test for the absent value is written with its value next to a comparison on its column:
    `A IN ('1', '2')` in one case and `A IN ('', '2')` in the other. -/
theorem not_forall_build_blind :
    ¬ ∀ criteria criteria' : List Criterion, List.Forall₂ Agrees criteria criteria' →
      Clause.Where.build criteria = Clause.Where.build criteria' := by
  intro h
  have htext := h [⟨"A", .isNull, "1"⟩, ⟨"A", .equal, "2"⟩] [⟨"A", .isNull, ""⟩, ⟨"A", .equal, "2"⟩]
    (.cons (.of_ignores rfl "") (.cons (.refl _) .nil))
  exact absurd htext (by decide)

end Builder

end SqlText
