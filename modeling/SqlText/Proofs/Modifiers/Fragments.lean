import SqlText.Proofs.Modifiers.Kept
import SqlText.Proofs.Text

/-!
# Fragments — the texts of modifiers, one behind the other

Every modifier but an order is written with a blank behind it, which keeps it apart from
the next one, and the blanks at the end of the whole are stripped. That is the same as to
write the modifiers bare and one blank between each two (`stripEndBlanks_join_render`), as
long as the last of them does not itself end in a blank.

A distinct column, a minimum and a maximum end in a bracket, so only a limit that nothing
follows can lose more than the blank behind it (`front_eq_intercalate`). A list holds one
modifier of a single kind at most, so its text is that of the first one
(`ofKinds_of_single`), and this is the first one that was given
(`ofKinds_ofList_of_single`).
-/

namespace SqlText

namespace Modifier

variable {m : Modifier}

/-- The text of the modifier without a blank behind it. -/
def bare (m : Modifier) : String :=
  match m.kind with
  | .orderAsc => m.value ++ " ASC"
  | .orderDesc => m.value ++ " DESC"
  | .distinct => "DISTINCT(" ++ m.value ++ ")"
  | .max => "MAX(" ++ m.value ++ ")"
  | .min => "MIN(" ++ m.value ++ ")"
  | .top => "TOP " ++ m.value

theorem render_of_not_order (h : m.kind.isOrder = false) : m.render = m.bare ++ " " := by
  obtain ⟨kind, value⟩ := m
  cases kind with
  | orderAsc | orderDesc => exact absurd h.symm Bool.false_ne_true
  | top | distinct | min | max =>
      rw [← String.toList_inj]
      simp [render, bare]

theorem bare_ne_empty (m : Modifier) : m.bare ≠ "" := by
  obtain ⟨kind, value⟩ := m
  cases kind <;> simp [bare]

/-- Only the text of a limit can end in a blank. -/
theorem endsInBlank_bare
    (h : m.kind = .top → m.value ≠ "" ∧ Text.endsInBlank m.value = false) :
    Text.endsInBlank m.bare = false := by
  obtain ⟨kind, value⟩ := m
  cases kind with
  | top =>
      obtain ⟨hne, hblank⟩ := h rfl
      exact (Text.endsInBlank_append _ hne).trans hblank
  | orderAsc | orderDesc | distinct | min | max =>
      exact (Text.endsInBlank_append _ (by decide)).trans (by decide)

end Modifier

open Modifier (bare)

namespace ModifierList

variable {l : ModifierList} {kind : Modifier.Kind} {ms : List Modifier}

theorem stripEndBlanks_join_render (hkind : ∀ m ∈ ms, m.kind.isOrder = false)
    (hlast : ∀ m ∈ ms.getLast?, Text.endsInBlank m.bare = false) :
    Text.stripEndBlanks (String.join (ms.map (·.render))) = " ".intercalate (ms.map bare) := by
  have hrender : ms.map (·.render) = (ms.map bare).map (· ++ " ") := by
    rw [List.map_map]
    exact List.map_congr_left fun m hm => Modifier.render_of_not_order (hkind m hm)
  rw [hrender]
  rcases List.eq_nil_or_concat ms with rfl | ⟨front, m, rfl⟩
  · rfl
  · rw [List.concat_eq_append] at hlast ⊢
    have hm : Text.endsInBlank m.bare = false := hlast m (by simp)
    rw [List.map_append, List.map_append, String.join_append, List.map_singleton,
      List.map_singleton, String.join_cons, String.join_nil, String.append_empty,
      ← String.append_assoc, ← Text.intercalate_concat_eq_join]
    refine Text.stripEndBlanks_append_blank ?_
    rw [Text.intercalate_concat_eq_join, Text.endsInBlank_append _ m.bare_ne_empty, hm]

-- ── Modifiers of one kind ─────────────────────────────────────────────────────

theorem mem_ofKinds {m : Modifier} : m ∈ l.ofKinds [kind] ↔ m ∈ l.items ∧ m.kind = kind := by
  simp [ofKinds]

theorem ofKinds_singleton (l : ModifierList) (kind : Modifier.Kind) :
    l.ofKinds [kind] = l.items.filter (·.kind = kind) := by
  simp only [ofKinds, List.mem_singleton]

/-- Of a single kind a list holds the first modifier, if it holds one. -/
theorem ofKinds_of_single (hs : kind.isSingle = true) :
    l.ofKinds [kind] = (l.items.find? (·.kind = kind)).toList := by
  have hone := l.atMostOne kind hs
  rw [ofKinds_singleton, ← List.head?_filter]
  generalize l.items.filter (·.kind = kind) = held at hone
  match held with
  | [] => rfl
  | [m] => rfl
  | m :: m' :: rest => simp at hone

theorem ofKinds_ofList_of_single (hs : kind.isSingle = true) (given : List Modifier) :
    (ofList given).ofKinds [kind] = (given.find? (·.kind = kind)).toList := by
  rw [ofKinds_of_single hs, ← List.head?_filter, filter_items_ofList_of_single hs,
    ← List.head?_filter]
  cases given.filter (·.kind = kind) <;> rfl

theorem ofKinds_ofList_of_unlimited (hs : kind.isSingle = false) (given : List Modifier) :
    (ofList given).ofKinds [kind] = given.filter (·.kind = kind) := by
  rw [ofKinds_singleton, filter_kind_items_ofList_of_unlimited hs]

theorem ofKinds_eq_nil_iff : l.ofKinds [kind] = [] ↔ l.hasKind kind = false := by
  rw [ofKinds_singleton, List.filter_eq_nil_iff, hasKind, List.any_eq_false]

theorem written_append_written (l : ModifierList) (kind kind' : Modifier.Kind) :
    l.written kind ++ l.written kind' =
      String.join ((l.ofKinds [kind] ++ l.ofKinds [kind']).map (·.render)) := by
  rw [List.map_append, String.join_append, written, written]

-- ── The two fragments ─────────────────────────────────────────────────────────

/-- If the limit does not end in a blank, the front is the limit and the distinct columns with
    one blank between each two. -/
theorem front_eq_intercalate
    (h : ∀ m ∈ l.ofKinds [.top], m.value ≠ "" ∧ Text.endsInBlank m.value = false) :
    l.front = " ".intercalate ((l.ofKinds [.top] ++ l.ofKinds [.distinct]).map bare) := by
  rw [front, written_append_written]
  refine stripEndBlanks_join_render ?_ ?_
  · intro m hm
    rcases List.mem_append.mp hm with hm | hm
    all_goals rw [(mem_ofKinds.mp hm).2]; rfl
  · intro m hm
    refine Modifier.endsInBlank_bare fun htop => h m ?_
    rcases List.mem_append.mp (List.mem_of_getLast? hm) with hm | hm
    · exact hm
    · have hdistinct := (mem_ofKinds.mp hm).2
      rw [htop] at hdistinct
      exact absurd hdistinct (by decide)

/-- Without orders the back is the minimum and the maximum. -/
theorem back_of_no_orders (h : l.orders = []) :
    l.back = " ".intercalate ((l.ofKinds [.min] ++ l.ofKinds [.max]).map bare) := by
  rw [back, h, List.foldl_nil, written_append_written]
  have hkind : ∀ m ∈ l.ofKinds [.min] ++ l.ofKinds [.max], m.kind = .min ∨ m.kind = .max := by
    intro m hm
    rcases List.mem_append.mp hm with hm | hm
    · exact .inl (mem_ofKinds.mp hm).2
    · exact .inr (mem_ofKinds.mp hm).2
  refine stripEndBlanks_join_render ?_ ?_
  · intro m hm
    rcases hkind m hm with hm | hm
    all_goals rw [hm]; rfl
  · intro m hm
    refine Modifier.endsInBlank_bare fun htop => ?_
    rcases hkind m (List.mem_of_getLast? hm) with hm | hm
    all_goals exact absurd (htop.symm.trans hm) (by decide)

end ModifierList

end SqlText
