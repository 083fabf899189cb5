import SqlText.Proofs.Modifiers.Fragments

/-!
# Orders — where `ORDER BY` is written

The orders stand at the end of the back, the first behind `ORDER BY` and the others behind
a comma. Which of them is the first is not known while they are written one after
another: an order gets a comma if the fragment so far holds the word ` BY `
(`appendOrder`). Once one of them stands there the word does too, so all that follow get
a comma (`foldl_appendOrder_of_occurs`).

Before the first order stand the minimum and the maximum, and between their brackets any
text may stand. The brackets are not in the word, so it is found exactly if one of their
values holds it (`occursIn_join_render`), such as the `PARTITION BY` of a window. Then the
first order gets a comma too (`not_forall_back_ordered`), and in no other case
(`back_eq_ordered_iff`).
-/

namespace SqlText.ModifierList

variable {l : ModifierList} {m : Modifier} {ms : List Modifier} {text : String}

-- ── One order after another ───────────────────────────────────────────────────

/-- However an order is introduced, the word stands in the fragment behind it. -/
theorem occursIn_appendOrder (text : String) (m : Modifier) :
    Text.occursIn " BY " (appendOrder text m) = true := by
  rw [appendOrder]
  by_cases h : Text.occursIn " BY " text = true
  · rw [if_pos h]
    obtain ⟨a, b, rfl⟩ := (Text.occursIn_iff " BY " text).mp h
    exact (Text.occursIn_iff _ _).mpr
      ⟨a, b ++ ", " ++ m.render, by simp only [String.append_assoc]⟩
  · -- the word is part of the introduction
    rw [if_neg h]
    refine (Text.occursIn_iff _ _).mpr ⟨text ++ "ORDER", m.render, ?_⟩
    rw [← String.toList_inj]
    simp

/-- Behind the word every order gets a comma. -/
theorem foldl_appendOrder_of_occurs (h : Text.occursIn " BY " text = true) :
    ms.foldl appendOrder text = text ++ String.join ((ms.map (·.render)).map (", " ++ ·)) := by
  induction ms generalizing text with
  | nil => simp
  | cons m ms ih =>
      have hstep : appendOrder text m = text ++ (", " ++ m.render) := by
        rw [appendOrder, if_pos h, String.append_assoc]
      rw [List.foldl_cons, ih (occursIn_appendOrder text m), hstep, List.map_cons, List.map_cons,
        String.join_cons, String.append_assoc]

theorem foldl_appendOrder_cons (text : String) (m : Modifier) (ms : List Modifier) :
    (m :: ms).foldl appendOrder text =
      text ++ (if Text.occursIn " BY " text then ", " else "ORDER BY ")
        ++ ", ".intercalate ((m :: ms).map (·.render)) := by
  rw [List.foldl_cons, foldl_appendOrder_of_occurs (occursIn_appendOrder text m), List.map_cons,
    Text.intercalate_cons_eq_join, appendOrder, String.append_assoc]

/-- An order ends in its direction, so nothing is stripped behind it. -/
theorem endsInBlank_orders (hne : ms ≠ []) (horder : ∀ m ∈ ms, m.kind.isOrder = true)
    (text : String) :
    Text.endsInBlank (text ++ ", ".intercalate (ms.map (·.render))) = false := by
  rcases List.eq_nil_or_concat ms with rfl | ⟨front, m, rfl⟩
  · exact absurd rfl hne
  · rw [List.concat_eq_append] at horder ⊢
    have hm : m.kind.isOrder = true := horder m (by simp)
    rw [List.map_append, List.map_singleton, Text.intercalate_concat_eq_join,
      ← String.append_assoc]
    obtain ⟨kind, value⟩ := m
    cases kind with
    | orderAsc | orderDesc =>
        rw [Modifier.render, ← String.append_assoc]
        exact (Text.endsInBlank_append _ (by decide)).trans (by decide)
    | top | distinct | min | max => exact absurd hm Bool.false_ne_true

theorem back_of_orders (h : l.orders ≠ []) :
    l.back = (l.written .min ++ l.written .max)
      ++ (if Text.occursIn " BY " (l.written .min ++ l.written .max) then ", " else "ORDER BY ")
      ++ ", ".intercalate (l.orders.map (·.render)) := by
  have horder : ∀ m ∈ l.orders, m.kind.isOrder = true := fun m hm => (List.mem_filter.mp hm).2
  obtain ⟨m, ms, horders⟩ := List.exists_cons_of_ne_nil h
  rw [back, horders, foldl_appendOrder_cons, ← horders]
  exact Text.stripEndBlanks_eq_self (endsInBlank_orders h horder _)

theorem orders_ofList (given : List Modifier) :
    (ofList given).orders = given.filter (·.kind.isOrder) :=
  filter_items_ofList_of_unlimited (fun kind h => by cases kind <;> trivial) given

/-- The back is empty only if nothing is to be written there. -/
theorem back_eq_empty_iff :
    l.back = "" ↔ l.hasKind .min = false ∧ l.hasKind .max = false ∧ l.orders = [] := by
  by_cases h : l.orders = []
  · rw [back_of_no_orders h, ← ofKinds_eq_nil_iff, ← ofKinds_eq_nil_iff]
    cases hkinds : l.ofKinds [.min] ++ l.ofKinds [.max] with
    | nil =>
        obtain ⟨hmin, hmax⟩ := List.append_eq_nil_iff.mp hkinds
        exact iff_of_true rfl ⟨hmin, hmax, h⟩
    | cons m ms =>
        refine iff_of_false (Text.intercalate_cons_ne_empty m.bare_ne_empty) ?_
        rintro ⟨hmin, hmax, -⟩
        rw [hmin, hmax] at hkinds
        exact absurd hkinds (by simp)
  · rw [back_of_orders h]
    refine iff_of_false ?_ fun hnone => h hnone.2.2
    split <;> simp

-- ── The word before the first order ───────────────────────────────────────────

/-- A minimum and a maximum hold the word exactly if their values do. -/
theorem occursIn_render (h : m.kind = .min ∨ m.kind = .max) :
    Text.occursIn " BY " m.render = Text.occursIn " BY " m.value := by
  have hinside (lead : String) (hlead : Text.occursIn " BY " lead = false)
      (hseam : ∀ c ∈ lead.toList.getLast?, c ∉ " BY ".toList) :
      Text.occursIn " BY " (lead ++ (m.value ++ ") ")) = Text.occursIn " BY " m.value := by
    rw [Text.occursIn_append (.inl hseam), hlead, Bool.false_or,
      Text.occursIn_append (.inr (by simp)), show Text.occursIn " BY " ") " = false by decide,
      Bool.or_false]
  rw [Modifier.render]
  rcases h with h | h
  · rw [h, String.append_assoc]
    exact hinside "MIN(" (by decide) (by simp)
  · rw [h, String.append_assoc]
    exact hinside "MAX(" (by decide) (by simp)

/-- The word is not found across two modifiers: the second begins with a letter of its kind. -/
theorem occursIn_join_render (hkind : ∀ m ∈ ms, m.kind = .min ∨ m.kind = .max) :
    Text.occursIn " BY " (String.join (ms.map (·.render))) =
      ms.any fun m => Text.occursIn " BY " m.value := by
  induction ms with
  | nil => decide
  | cons m ms ih =>
      obtain ⟨hm, hms⟩ := List.forall_mem_cons.mp hkind
      have hseam : ∀ c ∈ (String.join (ms.map (·.render))).toList.head?, c ∉ " BY ".toList := by
        cases ms with
        | nil => simp
        | cons next rest =>
            rcases hms next (by simp) with hnext | hnext
            all_goals simp [Modifier.render, hnext]
      rw [List.map_cons, String.join_cons, Text.occursIn_append (.inr hseam), occursIn_render hm,
        ih hms, List.any_cons]

theorem occursIn_written_min_max (l : ModifierList) :
    Text.occursIn " BY " (l.written .min ++ l.written .max) =
      (l.ofKinds [.min] ++ l.ofKinds [.max]).any fun m => Text.occursIn " BY " m.value := by
  rw [written_append_written]
  refine occursIn_join_render ?_
  intro m hm
  rcases List.mem_append.mp hm with hm | hm
  · exact .inl (mem_ofKinds.mp hm).2
  · exact .inr (mem_ofKinds.mp hm).2

theorem written_of_single {kind : Modifier.Kind} (hs : kind.isSingle = true) :
    l.written kind = (l.items.find? (·.kind = kind)).elim "" (·.render) := by
  rw [written, ofKinds_of_single hs]
  cases l.items.find? (·.kind = kind) with
  | none => rfl
  | some m => simp

/-- No minimum and no maximum has the word in its value. -/
def WordFree (l : ModifierList) : Prop :=
  ∀ m ∈ l.items, m.kind = .min ∨ m.kind = .max → Text.occursIn " BY " m.value = false

instance (l : ModifierList) : Decidable l.WordFree :=
  inferInstanceAs (Decidable (∀ m ∈ l.items, _))

theorem occursIn_written_eq_false_iff :
    Text.occursIn " BY " (l.written .min ++ l.written .max) = false ↔ l.WordFree := by
  rw [occursIn_written_min_max, List.any_eq_false]
  simp only [List.mem_append, mem_ofKinds, ← and_or_left, Bool.not_eq_true, and_imp, WordFree]

/-- **ORDERS BEHIND THEIR WORDS**: the back of a list with orders is its minimum, its maximum
    and then its orders behind `ORDER BY` exactly if neither of the two values holds the word
    that the first order is told by. Otherwise a comma stands in the place of `ORDER BY`. -/
theorem back_eq_ordered_iff (h : l.orders ≠ []) :
    let least := (l.items.find? (·.kind = .min)).elim "" (·.render)
    let greatest := (l.items.find? (·.kind = .max)).elim "" (·.render)
    let orders := ", ".intercalate (l.orders.map (·.render))
    (l.back = least ++ greatest ++ "ORDER BY " ++ orders ↔ l.WordFree)
    ∧ (¬ l.WordFree → l.back = least ++ greatest ++ ", " ++ orders) := by
  intro least greatest orders
  have hleast : l.written .min = least := written_of_single (by decide)
  have hgreatest : l.written .max = greatest := written_of_single (by decide)
  have hback := back_of_orders h
  have hword := occursIn_written_eq_false_iff (l := l)
  rw [hleast, hgreatest] at hback hword
  by_cases hfree : l.WordFree
  · rw [hword.mpr hfree, if_neg Bool.false_ne_true] at hback
    exact ⟨iff_of_true hback hfree, fun hnot => absurd hfree hnot⟩
  · -- the two texts differ in nothing but the introduction
    rw [Bool.of_not_eq_false (mt hword.mp hfree), if_pos rfl] at hback
    refine ⟨iff_of_false ?_ hfree, fun _ => hback⟩
    intro heq
    rw [hback, String.append_left_inj, String.append_right_inj] at heq
    exact absurd heq (by decide)

/-- A minimum, a maximum and two orders, with the word at the ends of the values only. -/
theorem back_ordered_word_at_ends :
    let l := ofList [.of .orderAsc (.text "name"), .of .max (.text "by "),
      .of .orderDesc (.text "a by b"), .of .min (.text " by")]
    l.orders ≠ [] ∧ l.WordFree
    ∧ l.back = "MIN( BY) MAX(BY ) ORDER BY NAME ASC, A BY B DESC" := by
  intro l
  have horders : l.orders ≠ [] := by decide +kernel
  have hfree : l.WordFree := by decide +kernel
  obtain ⟨hlaw, -⟩ := back_eq_ordered_iff horders
  exact ⟨horders, hfree, (hlaw.mpr hfree).trans (by decide +kernel)⟩

/-- The window of a minimum holds the word, and the back is
    `MIN(AGE) OVER (PARTITION BY TEAM) , NAME ASC`. -/
theorem not_forall_back_ordered :
    ¬ ∀ l : ModifierList, l.orders ≠ [] →
      l.back = (l.items.find? (·.kind = .min)).elim "" (·.render)
        ++ (l.items.find? (·.kind = .max)).elim "" (·.render)
        ++ "ORDER BY " ++ ", ".intercalate (l.orders.map (·.render)) := by
  intro h
  have hlaw := h
    (ofList [.of .min (.text "age) over (partition by team"), .of .orderAsc (.text "name")])
    (by decide +kernel)
  exact absurd hlaw (by decide +kernel)

end SqlText.ModifierList
