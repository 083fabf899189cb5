import SqlText.Proofs.Clause.Relations
import SqlText.Proofs.Statement.Values

/-!
# Relations — which relations reach a statement

What the clause does not show of a relation, no statement shows. A group is written as a list of
values whatever is asked of them, so that an update or a deletion for values that differ from two
given ones is the update or the deletion for these two (`build_deletion_of_unequal`).

The statements are the same for all lists of criteria that are alike, and so they are for all
relations in a run of two or more criteria on one column, apart from patterns and halves of ranges
(`build_relations_hidden`).
-/

namespace SqlText

open Clause.Where (Alike Members)

namespace Builder

theorem indistinguishable_of_alike {criteria criteria' : List Criterion}
    (h : Alike criteria criteria') : Indistinguishable criteria criteria' := by
  have hempty : criteria.isEmpty = criteria'.isEmpty := by
    cases h.each <;> rfl
  exact indistinguishable_of_clause (Clause.Where.build_eq_of_alike h) hempty

/-- **RELATIONS IN A GROUP ARE HIDDEN**: criteria that agree in columns, quoted values and halves
    of ranges, and in the relations of those that are alone, have one clause and one statement of
    each verb. In particular any relations that are neither patterns nor halves of ranges may
    stand in a run of two or more criteria on one column. -/
theorem build_relations_hidden :
    (∀ criteria criteria' : List Criterion, Alike criteria criteria' →
      Indistinguishable criteria criteria')
    ∧ ∀ (column : String) (front group group' back : List Criterion), 2 ≤ group.length →
        List.Forall₂ (Members column) group group' →
        Indistinguishable (front ++ group ++ back) (front ++ group' ++ back) := by
  constructor
  · intro criteria criteria' h
    exact indistinguishable_of_alike h
  · intro column front group group' back two h
    exact indistinguishable_of_alike (Clause.Where.alike_of_run two h front back)

/-- To delete what differs from two values is to delete what has one of them. Next to half a range
    the relation is hidden as well. -/
theorem build_deletion_of_unequal (target : Target) :
    (standard .delete target).build
        (.delete [⟨"B", .isNull, ""⟩, ⟨"A", .notEqual, "1"⟩, ⟨"A", .notEqual, "2"⟩]) =
      (standard .delete target).build
        (.delete [⟨"B", .isNull, ""⟩, ⟨"A", .equal, "1"⟩, ⟨"A", .equal, "2"⟩])
    ∧ Clause.Where.build [⟨"B", .isNull, ""⟩, ⟨"A", .notEqual, "1"⟩, ⟨"A", .notEqual, "2"⟩] =
      "B IS NULL AND A IN ('1', '2')"
    ∧ Alike [⟨"A", .less, "1"⟩, ⟨"A", .betweenStart, "2"⟩, ⟨"B", .less, "3"⟩]
        [⟨"A", .any, "1"⟩, ⟨"A", .betweenStart, "2"⟩, ⟨"B", .less, "3"⟩]
    ∧ Clause.Where.build [⟨"A", .less, "1"⟩, ⟨"A", .betweenStart, "2"⟩, ⟨"B", .less, "3"⟩] =
      Clause.Where.build [⟨"A", .any, "1"⟩, ⟨"A", .betweenStart, "2"⟩, ⟨"B", .less, "3"⟩] := by
  have hrun : List.Forall₂ (Members "A")
      [⟨"A", .notEqual, "1"⟩, ⟨"A", .notEqual, "2"⟩] [⟨"A", .equal, "1"⟩, ⟨"A", .equal, "2"⟩] :=
    .cons ⟨rfl, rfl, rfl, by decide, by decide⟩
      (.cons ⟨rfl, rfl, rfl, by decide, by decide⟩ .nil)
  have hhalf : Alike [⟨"A", .less, "1"⟩, ⟨"A", .betweenStart, "2"⟩, ⟨"B", .less, "3"⟩]
      [⟨"A", .any, "1"⟩, ⟨"A", .betweenStart, "2"⟩, ⟨"B", .less, "3"⟩] :=
    ⟨.cons ⟨rfl, rfl, by decide, by decide⟩ (.cons (.refl _) (.cons (.refl _) .nil)), by decide⟩
  obtain ⟨halike, hruns⟩ := build_relations_hidden
  exact ⟨(hruns "A" [⟨"B", .isNull, ""⟩] _ _ [] (by decide) hrun).delete target, by decide, hhalf,
    (halike _ _ hhalf).clause⟩

end Builder

end SqlText
