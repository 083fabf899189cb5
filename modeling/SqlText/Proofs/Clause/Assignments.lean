import Mathlib.Data.List.Basic
import SqlText.Clause.Assignments
import SqlText.Proofs.Text

/-!
# Assignments — the lists of an update and of an insertion

The assignments of an update are accumulated, each with a separator behind it, and the last
separator is cut off again. What is left is the assignments with the separator between them
(`build_eq_intercalate`), whatever their columns and values contain.

If the columns are words and no value contains a quote, each assignment shows where it ends
(`render_append_inj`), so that the list can be read back up to a text that does not go on
like the list (`build_append_inj`). An insertion has two lists, one behind the other. It is
enough that its columns show their end before a comma and before the bracket behind them; they
may be empty, and a value may contain all that stands between two values or between the lists
(`buildColumnsAndValues_inj`).
-/

namespace SqlText.Clause.Assignments

theorem accumulate_eq_intercalate {assignments : List Assignment} (h : assignments ≠ []) :
    accumulate assignments = separator.intercalate (assignments.map (·.render)) ++ separator := by
  induction assignments with
  | nil => exact absurd rfl h
  | cons a rest ih =>
      cases rest with
      | nil => simp [accumulate]
      | cons b rest =>
          rw [accumulate, ih (List.cons_ne_nil _ _)]
          simp [String.append_assoc]

/-- What is cut off is the separator behind the last assignment. -/
theorem build_eq_intercalate (assignments : List Assignment) :
    build assignments = separator.intercalate (assignments.map (·.render)) := by
  by_cases h : assignments = []
  · rw [h, build, accumulate, Text.trimSuffix_empty]
    rfl
  · rw [build, accumulate_eq_intercalate h, Text.trimSuffix_append]

/-- An assignment always has a text, so only the empty list has none. -/
theorem build_eq_empty_iff {assignments : List Assignment} :
    build assignments = "" ↔ assignments = [] := by
  rw [build_eq_intercalate]
  cases assignments with
  | nil => simp
  | cons a rest =>
      have ha : a.render ≠ "" := by simp [Assignment.render]
      simpa using Text.intercalate_cons_ne_empty ha

-- ── Reading the list ──────────────────────────────────────────────────────────

/-- An assignment that can be read back: a column that is a word is given a value without
    quotes. -/
structure Legible (a : Assignment) : Prop where
  column : ∀ x ∈ a.column.toList, Text.isWord x = true
  value : '\'' ∉ a.value.toList

instance (a : Assignment) : Decidable (Legible a) :=
  decidable_of_iff (a.column.toList.all Text.isWord ∧ '\'' ∉ a.value.toList)
    ⟨fun h => ⟨List.all_eq_true.mp h.1, h.2⟩, fun h => ⟨List.all_eq_true.mpr h.column, h.value⟩⟩

variable {a b : Assignment} {rest assignments assignments' : List Assignment}
  {t t' : String}

/-- The text of an assignment tells the assignment and the text that follows. -/
theorem render_append_inj (ha : Legible a) (hb : Legible b)
    (h : a.render ++ t = b.render ++ t') : a = b ∧ t = t' := by
  have hequals (s : String) : ∀ x ∈ ("=" ++ s).toList.head?, Text.isWord x = false := by
    simp [Text.isWord]
  rw [Assignment.render, Assignment.render, Assignment.quotedValue, Assignment.quotedValue] at h
  simp only [String.append_assoc] at h
  obtain ⟨hcolumn, hvalue⟩ := Text.append_inj_of_class ha.column hb.column (hequals _)
    (hequals _) h
  rw [String.append_right_inj, String.append_right_inj] at hvalue
  obtain ⟨hvalue, hrest⟩ := Text.append_quote_inj ha.value hb.value hvalue
  cases a
  cases b
  exact ⟨(Assignment.mk.injEq ..).mpr ⟨hcolumn, hvalue⟩, hrest⟩

/-- An assignment shows where it ends, whatever follows it. -/
theorem render_showsEnd : Text.ShowsEnd Assignment.render Legible fun _ => True :=
  fun _ _ _ _ ha hb _ _ h => render_append_inj ha hb h

/-- The list tells the assignments and the text that follows, if that text does not begin
    with the separator. -/
theorem build_append_inj (h : ∀ a ∈ assignments, Legible a) (h' : ∀ a ∈ assignments', Legible a)
    (hne : assignments ≠ []) (hne' : assignments' ≠ [])
    (ht : ∀ s, t ≠ separator ++ s) (ht' : ∀ s, t' ≠ separator ++ s)
    (he : build assignments ++ t = build assignments' ++ t') :
    assignments = assignments' ∧ t = t' := by
  rw [build_eq_intercalate, build_eq_intercalate] at he
  exact Text.intercalate_append_inj render_showsEnd (fun _ => trivial) trivial trivial ht ht'
    h h' hne hne' he

-- ── Reading columns and values ────────────────────────────────────────────────

/-- An assignment that can be read back from an insertion: neither a comma nor a bracket that
    closes stands in its column, and no quote in its value. -/
structure Listable (a : Assignment) : Prop where
  comma : ',' ∉ a.column.toList
  bracket : ')' ∉ a.column.toList
  value : '\'' ∉ a.value.toList

instance (a : Assignment) : Decidable (Listable a) :=
  decidable_of_iff (',' ∉ a.column.toList ∧ ')' ∉ a.column.toList ∧ '\'' ∉ a.value.toList)
    ⟨fun h => ⟨h.1, h.2.1, h.2.2⟩, fun h => ⟨h.comma, h.bracket, h.value⟩⟩

/-- A character that may stand in a column of a list. -/
def isListed (x : Char) : Bool :=
  x != ',' && x != ')'

theorem Listable.isListed (h : Listable a) : ∀ x ∈ a.column.toList, isListed x = true := by
  intro x hx
  rw [Assignments.isListed, Bool.and_eq_true, bne_iff_ne, bne_iff_ne]
  exact ⟨ne_of_mem_of_not_mem hx h.comma, ne_of_mem_of_not_mem hx h.bracket⟩

/-- A column shows where it ends before a comma and before the bracket. -/
theorem column_showsEnd :
    Text.ShowsEnd id (fun column : String => ∀ x ∈ column.toList, isListed x = true)
      fun s => ∀ x ∈ s.toList.head?, isListed x = false :=
  fun _ _ _ _ hc hd hs hs' h => Text.append_inj_of_class hc hd hs hs' h

/-- A value shows its end by the quote. -/
theorem quoted_showsEnd :
    Text.ShowsEnd (fun value : String => "'" ++ value ++ "'") (fun value => '\'' ∉ value.toList)
      fun _ => True := by
  intro v w s s' hv hw _ _ h
  simp only [String.append_assoc, String.append_right_inj] at h
  exact Text.append_quote_inj hv hw h

/-- Assignments are known from the list of their columns and the list of their values. -/
theorem eq_of_columns_of_values (hc : assignments.map (·.column) = assignments'.map (·.column))
    (hv : assignments.map (·.value) = assignments'.map (·.value)) : assignments = assignments' := by
  have hpairs : assignments.map (fun a => (a.column, a.value)) =
      assignments'.map fun a => (a.column, a.value) := by
    rw [← List.zip_map', ← List.zip_map', hc, hv]
  refine List.map_injective_iff.mpr ?_ hpairs
  rintro ⟨column, value⟩ ⟨column', value'⟩ h
  exact (Assignment.mk.injEq ..).mpr (Prod.mk.inj h)

/-- **TWO LISTS**: the columns end at the bracket behind them, and behind it the values are
    read one by one, so that the text of an insertion tells its assignments. -/
theorem buildColumnsAndValues_inj (h : ∀ a ∈ assignments, Listable a)
    (h' : ∀ a ∈ assignments', Listable a) (hne : assignments ≠ []) (hne' : assignments' ≠ [])
    (he : buildColumnsAndValues assignments = buildColumnsAndValues assignments') :
    assignments = assignments' := by
  have hlisted {l : List Assignment} (hl : ∀ a ∈ l, Listable a) :
      ∀ column ∈ l.map (·.column), ∀ x ∈ column.toList, isListed x = true :=
    List.forall_mem_map.mpr fun a ha => (hl a ha).isListed
  have hquoteless {l : List Assignment} (hl : ∀ a ∈ l, Listable a) :
      ∀ value ∈ l.map (·.value), '\'' ∉ value.toList :=
    List.forall_mem_map.mpr fun a ha => (hl a ha).value
  have hvalues (l : List Assignment) : l.map (·.quotedValue) =
      (l.map (·.value)).map fun value => "'" ++ value ++ "'" := by
    rw [List.map_map]
    rfl
  have hne_map {β : Type} {f : Assignment → β} {l : List Assignment} (hl : l ≠ []) :
      l.map f ≠ [] := fun hmap => hl (List.map_eq_nil_iff.mp hmap)
  rw [buildColumnsAndValues, buildColumnsAndValues, hvalues, hvalues] at he
  simp only [String.append_assoc, String.append_right_inj] at he
  rw [← List.map_id (assignments.map (·.column)), ← List.map_id (assignments'.map (·.column))] at he
  obtain ⟨hcolumns, hrest⟩ := Text.intercalate_append_inj column_showsEnd
    (by simp [separator, isListed]) (by simp [isListed]) (by simp [isListed])
    (by simp [← String.toList_inj, separator]) (by simp [← String.toList_inj, separator])
    (hlisted h) (hlisted h') (hne_map hne) (hne_map hne') he
  rw [String.append_right_inj] at hrest
  obtain ⟨hvalues', -⟩ := Text.intercalate_append_inj quoted_showsEnd (fun _ => trivial)
    trivial trivial (by simp [← String.toList_inj, separator])
    (by simp [← String.toList_inj, separator]) (hquoteless h) (hquoteless h') (hne_map hne)
    (hne_map hne') hrest
  exact eq_of_columns_of_values hcolumns hvalues'

end SqlText.Clause.Assignments
