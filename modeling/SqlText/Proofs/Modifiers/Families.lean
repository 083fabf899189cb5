import SqlText.Proofs.Modifiers.Kept
import SqlText.Proofs.Statement.Values

/-!
# Families — which order of modifiers counts

Modifiers are written family by family: the limit, the distinct columns, the minimum, the
maximum, the orders. They are kept in one list, though, in the order in which they came,
and an addition looks at that whole list. Nothing of the order between families is left
in the end: two sequences that agree within each family (`SameFamilies`) make lists that
agree within each family (`SameFamilies.items_ofList`), and a fragment reads the modifiers
of one family after the other (`SameFamilies.front_eq`, `SameFamilies.back_eq`).

The step that could fail is the first: what is left out of one sequence has to be left out
of the other. It holds because a single kind is a family by itself, so the modifiers of a
family are known from those that were given of it (`Modifier.Family.single_or_unlimited`).
-/

namespace SqlText

/-- Modifiers that are written next to each other. -/
inductive Modifier.Family where
  | limit
  | distinct
  | least
  | greatest
  | order
deriving DecidableEq, Repr

/-- The two orders are one family; every other kind is one by itself. -/
def Modifier.Kind.family : Modifier.Kind → Modifier.Family
  | .top => .limit
  | .distinct => .distinct
  | .min => .least
  | .max => .greatest
  | .orderAsc | .orderDesc => .order

/-- A family is one single kind, or none of its kinds is single. -/
theorem Modifier.Family.single_or_unlimited (family : Modifier.Family) :
    (∃ single : Modifier.Kind, single.isSingle = true ∧
      ∀ kind : Modifier.Kind, kind.family = family ↔ kind = single)
    ∨ ∀ kind : Modifier.Kind, kind.family = family → kind.isSingle = false := by
  cases family with
  | limit => exact .inl ⟨.top, rfl, fun kind => by cases kind <;> decide⟩
  | least => exact .inl ⟨.min, rfl, fun kind => by cases kind <;> decide⟩
  | greatest => exact .inl ⟨.max, rfl, fun kind => by cases kind <;> decide⟩
  | distinct => exact .inr fun kind => by cases kind <;> decide
  | order => exact .inr fun kind => by cases kind <;> decide

namespace ModifierList

variable {l l' : ModifierList} {given given' : List Modifier}

/-- Two sequences with the same modifiers of each family, in the same order. -/
def SameFamilies (given given' : List Modifier) : Prop :=
  ∀ family : Modifier.Family,
    given.filter (·.kind.family = family) = given'.filter (·.kind.family = family)

namespace SameFamilies

/-- Sequences that agree within each family agree in what is asked for within one. -/
theorem filter_eq (h : SameFamilies given given') {p : Modifier.Kind → Bool}
    {family : Modifier.Family} (hp : ∀ kind, p kind = true → kind.family = family) :
    given.filter (p ·.kind) = given'.filter (p ·.kind) := by
  have hwithin : ∀ given : List Modifier, given.filter (p ·.kind) =
      (given.filter (·.kind.family = family)).filter (p ·.kind) := by
    intro given
    rw [List.filter_filter]
    refine List.filter_congr ?_
    intro m _
    by_cases hm : p m.kind = true
    · simp [hm, hp m.kind hm]
    · simp [hm]
  rw [hwithin given, hwithin given', h family]

theorem perm (h : SameFamilies given given') : given.Perm given' := by
  rw [List.perm_iff_count]
  intro m
  have hwithin : ∀ given : List Modifier,
      given.count m = (given.filter (·.kind.family = m.kind.family)).count m := by
    intro given
    rw [List.count_filter (by simp)]
  rw [hwithin given, hwithin given', h m.kind.family]

/-- Modifiers that agree within each family are kept or left out alike. -/
theorem items_ofList (h : SameFamilies given given') :
    SameFamilies (ofList given).items (ofList given').items := by
  intro family
  rcases family.single_or_unlimited with ⟨single, hs, hsingle⟩ | hunlimited
  · -- the first of the family is the first of the kind
    simp only [hsingle, filter_items_ofList_of_single hs]
    have hfamily := h family
    simp only [hsingle] at hfamily
    rw [hfamily]
  · have hp : ∀ kind : Modifier.Kind, decide (kind.family = family) = true →
        kind.isSingle = false := fun kind hkind => hunlimited kind (of_decide_eq_true hkind)
    have hkept := filter_items_ofList_of_unlimited hp
    rw [hkept given, hkept given', h family]

-- ── What is read of a list ────────────────────────────────────────────────────

theorem written_eq (h : SameFamilies l.items l'.items) (kind : Modifier.Kind) :
    l.written kind = l'.written kind := by
  have hp : ∀ k : Modifier.Kind, decide (k ∈ [kind]) = true → k.family = kind.family := by
    intro k hk
    rw [List.mem_singleton.mp (of_decide_eq_true hk)]
  rw [written, written, ofKinds, ofKinds, h.filter_eq hp]

theorem orders_eq (h : SameFamilies l.items l'.items) : l.orders = l'.orders := by
  have hp : ∀ kind : Modifier.Kind, kind.isOrder = true → kind.family = .order := by
    intro kind
    cases kind <;> decide
  rw [orders, orders, h.filter_eq hp]

theorem front_eq (h : SameFamilies l.items l'.items) : l.front = l'.front := by
  rw [front, front, h.written_eq, h.written_eq]

theorem back_eq (h : SameFamilies l.items l'.items) : l.back = l'.back := by
  rw [back, back, h.orders_eq, h.written_eq, h.written_eq]

theorem size_eq (h : SameFamilies l.items l'.items) : l.size = l'.size :=
  h.perm.length_eq

theorem hasKind_eq (h : SameFamilies l.items l'.items) (kind : Modifier.Kind) :
    l.hasKind kind = l'.hasKind kind := by
  rw [hasKind, hasKind, Bool.eq_iff_iff, List.any_eq_true, List.any_eq_true]
  simp only [h.perm.mem_iff]

end SameFamilies

/-- **FAMILIES APART**: the order between modifiers of different families is not seen in either
    fragment, in the size of the list, or in what a builder makes of a selection. -/
theorem ofList_interchange (h : SameFamilies given given') :
    (ofList given).front = (ofList given').front
    ∧ (ofList given).back = (ofList given').back
    ∧ (ofList given).size = (ofList given').size
    ∧ ∀ (target : Target) (criteria : List Criterion),
      (Builder.standard .select target).build (.select criteria (ofList given)) =
        (Builder.standard .select target).build (.select criteria (ofList given')) := by
  have hitems := h.items_ofList
  refine ⟨hitems.front_eq, hitems.back_eq, hitems.size_eq, ?_⟩
  intro target criteria
  refine Builder.build_congr ?_
  show Statement.select? _ criteria (ofList given) = Statement.select? _ criteria (ofList given')
  rw [Statement.select?, Statement.select?, hitems.front_eq, hitems.back_eq, hitems.hasKind_eq]

/-- Orders, distinct columns and repeated single kinds in two arrangements. -/
theorem ofList_interchange_repeated :
    let given : List Modifier :=
      [⟨.orderAsc, "A"⟩, ⟨.top, "5"⟩, ⟨.orderDesc, "B"⟩, ⟨.top, "9"⟩, ⟨.max, "C"⟩, ⟨.distinct, "D"⟩]
    let given' : List Modifier :=
      [⟨.distinct, "D"⟩, ⟨.max, "C"⟩, ⟨.top, "5"⟩, ⟨.top, "9"⟩, ⟨.orderAsc, "A"⟩, ⟨.orderDesc, "B"⟩]
    SameFamilies given given'
    ∧ (ofList given).back = (ofList given').back
    ∧ (ofList given).back = "MAX(C) ORDER BY A ASC, B DESC" := by
  intro given given'
  have h : SameFamilies given given' := by
    intro family
    cases family <;> decide
  obtain ⟨-, hback, -, -⟩ := ofList_interchange h
  exact ⟨h, hback, by decide +kernel⟩

end ModifierList

end SqlText
