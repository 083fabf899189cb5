import Mathlib.Data.List.Forall2
import SqlText.Table

/-!
# Lookup — columns found as they were declared

A table stores an identifier without the blanks around it and then without brackets. A column is
looked up without brackets alone. So a name that has a blank at one of its ends can be declared
and is not found again under the name it was declared with (`requireColumn_declared_iff`); blanks
inside of brackets are kept in both places and do no harm.

That the two ways to strip a name differ for every such name is shown by counting. Brackets are
no blanks, so what is looked up has as many blanks as the name has (`countP_stripList`); if what
is stored has as many, then no blank was around it (`stripBrackets_eq_identifier_iff`).
-/

namespace SqlText

-- ── Blanks and brackets ───────────────────────────────────────────────────────

namespace Text

variable {p q : Char → Bool} {l : List Char}

/-- Stripping one class keeps the number of characters in another one. -/
theorem countP_stripList (h : ∀ c, p c = true → q c = false) (l : List Char) :
    (stripList p l).countP q = l.countP q := by
  obtain ⟨front, back, hl, hfront, hback⟩ := exists_append_stripList_append_eq (p := p) l
  have hnone {part : List Char} (hpart : ∀ c ∈ part, p c = true) : part.countP q = 0 :=
    List.countP_eq_zero.mpr fun c hc => by simp [h c (hpart c hc)]
  conv => rhs; rw [← hl]
  rw [List.countP_append, List.countP_append, hnone hfront, hnone hback, Nat.zero_add,
    Nat.add_zero]

/-- Nothing is stripped from a list that has as many characters of the class afterwards. -/
theorem stripList_eq_self_of_countP (h : (stripList q l).countP q = l.countP q) :
    stripList q l = l := by
  obtain ⟨front, back, hl, hfront, hback⟩ := exists_append_stripList_append_eq (p := q) l
  have hcount : front.length + ((stripList q l).countP q + back.length) = l.countP q := by
    conv => rhs; rw [← hl]
    rw [List.countP_append, List.countP_append, List.countP_eq_length.mpr hfront,
      List.countP_eq_length.mpr hback]
  obtain rfl : front = [] := List.eq_nil_of_length_eq_zero (by omega)
  obtain rfl : back = [] := List.eq_nil_of_length_eq_zero (by omega)
  simpa using hl

theorem not_isBlank_of_isBracket {c : Char} (h : isBracket c = true) : isBlank c = false := by
  rw [isBracket, Bool.or_eq_true, beq_iff_eq, beq_iff_eq] at h
  rcases h with rfl | rfl <;> decide

end Text

namespace Table

variable {name primaryKey raw column stored : String} {columns : List String} {t : Table}

/-- A name is looked up as it is stored exactly if there are no blanks around it. -/
theorem stripBrackets_eq_identifier_iff :
    Text.stripBrackets raw = identifier raw ↔ Text.stripBlanks raw = raw := by
  constructor
  · intro h
    have hlist : Text.stripList Text.isBracket raw.toList =
        Text.stripList Text.isBracket (Text.stripList Text.isBlank raw.toList) := by
      have := congrArg String.toList h
      rwa [identifier, Text.stripBrackets, Text.stripBrackets, Text.stripBlanks, Text.toList_strip,
        Text.toList_strip, Text.toList_strip] at this
    have hcount := congrArg (List.countP Text.isBlank) hlist
    rw [Text.countP_stripList fun _ => Text.not_isBlank_of_isBracket,
      Text.countP_stripList fun _ => Text.not_isBlank_of_isBracket] at hcount
    rw [Text.stripBlanks, Text.strip, Text.stripList_eq_self_of_countP hcount.symm,
      String.ofList_toList]
  · intro h
    rw [identifier, h]

-- ── What is stored ────────────────────────────────────────────────────────────

theorem columnIssues_texts (key : String) (position : Nat) (names : List String) :
    columnIssues key position (names.map .text) = [] := by
  induction names generalizing position with
  | nil => rfl
  | cons name names ih => exact ih (position + 1)

theorem columnNames_texts (names : List String) :
    columnNames (names.map .text) = names.map identifier := by
  induction names with
  | nil => rfl
  | cons name names ih => exact congrArg (identifier name :: ·) ih

theorem readIdentifier_eq_ok_iff {fields : Fields} {key : String} {found : Identifier}
    (h : fields.lookup key = some (.text raw)) :
    readIdentifier fields key = .ok found ↔ identifier raw = found.1 := by
  simp only [readIdentifier, h]
  by_cases hempty : identifier raw = ""
  · rw [dif_pos hempty, hempty]
    exact iff_of_false (by simp) fun hfound => found.2.1 hfound.symm
  · rw [dif_neg hempty, Except.ok.injEq, Subtype.ext_iff]

theorem readColumns_eq {fields : Fields} {key : String} {names : List String}
    (h : fields.lookup key = some (.list (names.map .text))) :
    readColumns fields key =
      .ok ⟨names.map identifier, columnNames_texts names ▸ stripBrackets_columnNames _⟩ := by
  simp only [readColumns, h, columnIssues_texts, columnNames_texts]

/-- Data describes a table exactly if each entry can be read and there are no others: whether the
    key is among the columns is a fact about the table. -/
theorem ofFields_eq_ok_iff {fields : Fields} :
    ofFields fields = .ok t ↔
      (∃ n, readIdentifier fields "name" = .ok n ∧ n.1 = t.name)
        ∧ (∃ n, readIdentifier fields "primary_key" = .ok n ∧ n.1 = t.primaryKey)
        ∧ (∃ ns, readColumns fields "columns" = .ok ns ∧ ns.1 = t.columns)
        ∧ unexpectedIssues fields = [] := by
  rw [ofFields]
  constructor
  · intro h
    split at h
    · next n k ns hn hk hns hu =>
        split at h
        · cases h
          exact ⟨⟨n, hn, rfl⟩, ⟨k, hk, rfl⟩, ⟨ns, hns, rfl⟩, hu⟩
        · cases h
    · cases h
  · rintro ⟨⟨n, hn, hname⟩, ⟨k, hk, hkey⟩, ⟨ns, hns, hcolumns⟩, hu⟩
    have hdeclared : ns.1 = [] ∨ k.1 ∈ ns.1 := by
      rw [hkey, hcolumns]
      exact t.primaryKey_declared
    simp only [hn, hk, hns, hu]
    rw [dif_pos hdeclared]
    cases t
    simp only [Except.ok.injEq, mk.injEq]
    exact ⟨hname, hkey, hcolumns⟩

/-- Names make a table exactly if it is the table of what is stored of them. -/
theorem ofNames_eq_ok_iff :
    ofNames name primaryKey columns = .ok t ↔
      t.name = identifier name ∧ t.primaryKey = identifier primaryKey
        ∧ t.columns = columns.map identifier := by
  let fields : Fields := [("name", .text name), ("primary_key", .text primaryKey),
    ("columns", .list (columns.map .text))]
  have hname {n : Identifier} :
      readIdentifier fields "name" = .ok n ↔ identifier name = n.1 := readIdentifier_eq_ok_iff rfl
  have hkey {n : Identifier} :
      readIdentifier fields "primary_key" = .ok n ↔ identifier primaryKey = n.1 :=
    readIdentifier_eq_ok_iff rfl
  have hread : readColumns fields "columns" =
      .ok ⟨columns.map identifier, columnNames_texts columns ▸ stripBrackets_columnNames _⟩ :=
    readColumns_eq rfl
  show ofFields fields = .ok t ↔ _
  rw [ofFields_eq_ok_iff, hread]
  simp only [hname, hkey]
  constructor
  · rintro ⟨⟨n, hn, hname⟩, ⟨k, hk, hkey⟩, ⟨ns, hns, hcolumns⟩, -⟩
    cases hns
    exact ⟨hname.symm.trans hn.symm, hkey.symm.trans hk.symm, hcolumns.symm⟩
  · rintro ⟨hname, hkey, hcolumns⟩
    exact ⟨⟨⟨t.name, t.name_ne_empty, t.bare _ (by simp)⟩, hname.symm, rfl⟩,
      ⟨⟨t.primaryKey, t.primaryKey_ne_empty, t.bare _ (by simp)⟩, hkey.symm, rfl⟩,
      ⟨_, rfl, hcolumns.symm⟩, rfl⟩

-- ── What is found ─────────────────────────────────────────────────────────────

theorem hasColumn_iff :
    t.hasColumn column = true ↔ t.columns = [] ∨ Text.stripBrackets column ∈ t.columns := by
  rw [hasColumn, Bool.or_eq_true, List.isEmpty_iff, List.contains_iff_mem]

/-- What is required is returned without brackets, or it is not there. -/
theorem requireColumn_eq_ok_iff :
    t.requireColumn column = .ok stored ↔
      t.hasColumn column = true ∧ Text.stripBrackets column = stored := by
  rw [requireColumn]
  by_cases h : t.hasColumn column = true
  · rw [if_pos h, Except.ok.injEq, and_iff_right h]
  · rw [if_neg h]
    exact iff_of_false (by simp) fun hok => h hok.1

/-- A name that is stored is found as it is spelled exactly if there are no blanks around it. -/
theorem requireColumn_eq_identifier_iff (h : t.columns = [] ∨ identifier raw ∈ t.columns) :
    t.requireColumn raw = .ok (identifier raw) ↔ Text.stripBlanks raw = raw := by
  rw [requireColumn_eq_ok_iff, stripBrackets_eq_identifier_iff]
  refine and_iff_right_of_imp ?_
  intro hclean
  rw [hasColumn_iff, stripBrackets_eq_identifier_iff.mpr hclean]
  exact h

/-- **FOUND AS DECLARED**: a column is found, under the name that is stored at its position, by
    the spelling it was declared with exactly if there are no blanks around that spelling. The
    same holds of the primary key. -/
theorem requireColumn_declared_iff (h : ofNames name primaryKey columns = .ok t) :
    List.Forall₂
        (fun column stored =>
          t.hasColumn column = true ∧ t.requireColumn column = .ok stored ↔
            Text.stripBlanks column = column)
        columns t.columns
    ∧ (t.requireColumn primaryKey = .ok t.primaryKey ↔
        Text.stripBlanks primaryKey = primaryKey) := by
  obtain ⟨-, hkey, hcolumns⟩ := ofNames_eq_ok_iff.mp h
  constructor
  · rw [hcolumns, List.forall₂_map_right_iff, List.forall₂_same]
    intro column hcolumn
    have hstored : identifier column ∈ t.columns := by
      rw [hcolumns]
      exact List.mem_map_of_mem hcolumn
    rw [← requireColumn_eq_identifier_iff (.inr hstored)]
    exact and_iff_right_of_imp fun hfound => (requireColumn_eq_ok_iff.mp hfound).1
  · rw [hkey]
    refine requireColumn_eq_identifier_iff ?_
    rw [← hkey]
    exact t.primaryKey_declared

/-- Blanks inside of brackets are kept, and those around brackets are not looked up. -/
theorem requireColumn_declared_blanks :
    let t : Table := { name := "T", primaryKey := " ID", columns := [" ID", "NAME"] }
    ofNames "[T]" "[ ID]" ["[ ID]", "[NAME] "] = .ok t
    ∧ t.requireColumn "[ ID]" = .ok " ID"
    ∧ ¬(t.hasColumn "[NAME] " = true ∧ t.requireColumn "[NAME] " = .ok "NAME") := by
  intro t
  have h : ofNames "[T]" "[ ID]" ["[ ID]", "[NAME] "] = .ok t :=
    ofNames_eq_ok_iff.mpr (by decide)
  obtain ⟨hcolumns, hkey⟩ := requireColumn_declared_iff h
  obtain ⟨-, hrest⟩ := List.forall₂_cons.mp hcolumns
  exact ⟨h, hkey.mpr (by decide), mt (List.forall₂_cons.mp hrest).1.mp (by decide)⟩

/-- The column `NAME` is declared with a blank before it, and is not found with this blank. -/
theorem not_forall_requireColumn_declared :
    ¬ ∀ (name primaryKey : String) (columns : List String) (t : Table), columns ≠ [] →
      ofNames name primaryKey columns = .ok t →
      List.Forall₂
          (fun column stored => t.hasColumn column = true ∧ t.requireColumn column = .ok stored)
          columns t.columns
        ∧ t.requireColumn primaryKey = .ok t.primaryKey := by
  intro h
  obtain ⟨hcolumns, -⟩ := h "Users" "ID" ["ID", " NAME"]
    { name := "Users", primaryKey := "ID", columns := ["ID", "NAME"] } (by decide)
    (ofNames_eq_ok_iff.mpr (by decide))
  obtain ⟨-, hrest⟩ := List.forall₂_cons.mp hcolumns
  exact absurd (List.forall₂_cons.mp hrest).1.1 (by decide)

end Table

end SqlText
