import SqlText.Proofs.Statement.Bare
import SqlText.Proofs.Table.Lookup

/-!
# Acceptance — which names make a table, and what is left of them

Names are read one by one, and whether the key is among the columns is asked of what was read.
So all that can be said against some names is known from their identifiers (`objections`): they
make a table if there is nothing (`exists_ofNames_iff`), and what there is is reported
(`ofNames_eq_error_iff`).

An identifier has no bracket at either end, and brackets are all that a lookup, a criterion and
an assignment take off a name. So the identifiers of a table go through each of these as they
are, and statements name the table and its columns by exactly the names that were accepted
(`ofNames_accepts`).
-/

namespace SqlText.Table

variable {name primaryKey raw : String} {columns : List String} {t : Table} {fields : Fields}

-- ── Objections ────────────────────────────────────────────────────────────────

/-- What there is to say against a name that is left empty. -/
def emptyIssues (key raw : String) : List Issue :=
  if identifier raw = "" then [.at key .emptyIdentifier] else []

/-- All there is to say against names that are to make a table. The columns are compared with
    the key only if there is nothing to say against the two names by themselves. -/
def objections (name primaryKey : String) (columns : List String) : List Issue :=
  match emptyIssues "name" name ++ emptyIssues "primary_key" primaryKey with
  | [] =>
    if columns = [] ∨ identifier primaryKey ∈ columns.map identifier then []
    else [⟨[], .keyNotAmongColumns (identifier primaryKey) (identifier name)⟩]
  | issues => issues

theorem emptyIssues_eq_nil_iff {key : String} : emptyIssues key raw = [] ↔ identifier raw ≠ "" := by
  rw [emptyIssues]
  by_cases h : identifier raw = ""
  · rw [if_pos h]
    exact iff_of_false (List.cons_ne_nil _ _) fun hne => hne h
  · rw [if_neg h]
    exact iff_of_true rfl h

theorem objections_of_empty
    (h : emptyIssues "name" name ++ emptyIssues "primary_key" primaryKey ≠ []) :
    objections name primaryKey columns =
      emptyIssues "name" name ++ emptyIssues "primary_key" primaryKey := by
  rw [objections]
  split
  · next hnil => exact absurd hnil h
  · rfl

theorem objections_of_names (hname : identifier name ≠ "") (hkey : identifier primaryKey ≠ "") :
    objections name primaryKey columns =
      if columns = [] ∨ identifier primaryKey ∈ columns.map identifier then []
      else [⟨[], .keyNotAmongColumns (identifier primaryKey) (identifier name)⟩] := by
  rw [objections, emptyIssues_eq_nil_iff.mpr hname, emptyIssues_eq_nil_iff.mpr hkey]
  rfl

/-- A key that is a column needs no more than a name. -/
theorem objections_of_mem (h : columns = [] ∨ primaryKey ∈ columns) :
    objections name primaryKey columns =
      emptyIssues "name" name ++ emptyIssues "primary_key" primaryKey := by
  by_cases hnames : emptyIssues "name" name ++ emptyIssues "primary_key" primaryKey = []
  · obtain ⟨hname, hkey⟩ := List.append_eq_nil_iff.mp hnames
    rw [emptyIssues_eq_nil_iff] at hname hkey
    rw [hnames, objections_of_names hname hkey, if_pos (h.imp_right List.mem_map_of_mem)]
  · exact objections_of_empty hnames

theorem objections_eq_nil_iff :
    objections name primaryKey columns = [] ↔
      identifier name ≠ "" ∧ identifier primaryKey ≠ ""
        ∧ (columns = [] ∨ identifier primaryKey ∈ columns.map identifier) := by
  by_cases hnames : emptyIssues "name" name ++ emptyIssues "primary_key" primaryKey = []
  · obtain ⟨hname, hkey⟩ := List.append_eq_nil_iff.mp hnames
    rw [emptyIssues_eq_nil_iff] at hname hkey
    rw [objections_of_names hname hkey, and_iff_right hname, and_iff_right hkey]
    by_cases hdeclared : columns = [] ∨ identifier primaryKey ∈ columns.map identifier
    · rw [if_pos hdeclared]
      exact iff_of_true rfl hdeclared
    · rw [if_neg hdeclared]
      exact iff_of_false (List.cons_ne_nil _ _) hdeclared
  · rw [objections_of_empty hnames]
    refine iff_of_false hnames ?_
    rintro ⟨hname, hkey, -⟩
    rw [emptyIssues_eq_nil_iff.mpr hname, emptyIssues_eq_nil_iff.mpr hkey] at hnames
    exact hnames rfl

-- ── What is accepted ──────────────────────────────────────────────────────────

/-- What is wrong with single entries is reported together. -/
theorem ofFields_of_issues
    (h : issuesOf (readIdentifier fields "name") ++ issuesOf (readIdentifier fields "primary_key")
      ++ issuesOf (readColumns fields "columns") ++ unexpectedIssues fields ≠ []) :
    ofFields fields = .error (.invalid .table
      (issuesOf (readIdentifier fields "name") ++ issuesOf (readIdentifier fields "primary_key")
        ++ issuesOf (readColumns fields "columns") ++ unexpectedIssues fields)) := by
  rw [ofFields]
  split
  · next n k ns hn hk hns hu =>
      rw [hn, hk, hns, hu] at h
      exact absurd rfl h
  · rfl

theorem issuesOf_readIdentifier (raw : String) {key : String}
    (h : fields.lookup key = some (.text raw)) :
    issuesOf (readIdentifier fields key) = emptyIssues key raw := by
  simp only [readIdentifier, h, emptyIssues]
  by_cases hempty : identifier raw = ""
  · rw [dif_pos hempty, if_pos hempty]
    rfl
  · rw [dif_neg hempty, if_neg hempty]
    rfl

theorem exists_ofNames_of_objections (h : objections name primaryKey columns = []) :
    ∃ t, ofNames name primaryKey columns = .ok t := by
  obtain ⟨hname, hkey, hdeclared⟩ := objections_eq_nil_iff.mp h
  refine ⟨⟨identifier name, identifier primaryKey, columns.map identifier, hname, hkey, ?_, ?_⟩,
    ofNames_eq_ok_iff.mpr ⟨rfl, rfl, rfl⟩⟩
  · have hbare : ∀ n ∈ (name :: primaryKey :: columns).map identifier,
        Text.stripBrackets n = n := by
      intro n hn
      obtain ⟨raw, -, rfl⟩ := List.mem_map.mp hn
      exact stripBrackets_identifier raw
    exact hbare
  · exact hdeclared.imp_left fun hnil => List.map_eq_nil_iff.mpr hnil

theorem ofNames_of_objections (h : objections name primaryKey columns ≠ []) :
    ofNames name primaryKey columns =
      .error (.invalid .table (objections name primaryKey columns)) := by
  let fields : Fields := [("name", .text name), ("primary_key", .text primaryKey),
    ("columns", .list (columns.map .text))]
  have hread : readColumns fields "columns" =
      .ok ⟨columns.map identifier, columnNames_texts columns ▸ stripBrackets_columnNames _⟩ :=
    readColumns_eq rfl
  have hissues : issuesOf (readIdentifier fields "name")
      ++ issuesOf (readIdentifier fields "primary_key") ++ issuesOf (readColumns fields "columns")
      ++ unexpectedIssues fields =
        emptyIssues "name" name ++ emptyIssues "primary_key" primaryKey := by
    rw [hread, issuesOf_readIdentifier name rfl, issuesOf_readIdentifier primaryKey rfl]
    simp [issuesOf, unexpectedIssues, fields, fieldNames]
  show ofFields fields = _
  by_cases hnames : emptyIssues "name" name ++ emptyIssues "primary_key" primaryKey = []
  · -- each entry is right by itself, so the objection is about the key and the columns
    obtain ⟨hname, hkey⟩ := List.append_eq_nil_iff.mp hnames
    rw [emptyIssues_eq_nil_iff] at hname hkey
    rw [objections_of_names hname hkey] at h ⊢
    have hundeclared : ¬(columns = [] ∨ identifier primaryKey ∈ columns.map identifier) :=
      fun hdeclared => h (if_pos hdeclared)
    have hn : readIdentifier fields "name" =
        .ok ⟨identifier name, hname, stripBrackets_identifier name⟩ :=
      (readIdentifier_eq_ok_iff rfl).mpr rfl
    have hk : readIdentifier fields "primary_key" =
        .ok ⟨identifier primaryKey, hkey, stripBrackets_identifier primaryKey⟩ :=
      (readIdentifier_eq_ok_iff rfl).mpr rfl
    have hu : unexpectedIssues fields = [] := rfl
    rw [if_neg hundeclared, ofFields]
    simp only [hn, hk, hread, hu]
    rw [dif_neg (by rwa [List.map_eq_nil_iff])]
  · rw [objections_of_empty hnames]
    rw [← hissues] at hnames ⊢
    exact ofFields_of_issues hnames

/-- Names make a table exactly if there is nothing to say against them. -/
theorem exists_ofNames_iff :
    (∃ t, ofNames name primaryKey columns = .ok t) ↔ objections name primaryKey columns = [] := by
  constructor
  · rintro ⟨t, ht⟩
    by_contra hne
    rw [ofNames_of_objections hne] at ht
    cases ht
  · exact exists_ofNames_of_objections

/-- Names fail with what there is to say against them. -/
theorem ofNames_eq_error_iff {fault : Fault} :
    ofNames name primaryKey columns = .error fault ↔
      objections name primaryKey columns ≠ []
        ∧ fault = .invalid .table (objections name primaryKey columns) := by
  by_cases h : objections name primaryKey columns = []
  · obtain ⟨t, ht⟩ := exists_ofNames_of_objections h
    rw [ht]
    exact iff_of_false (by simp) fun hne => hne.1 h
  · rw [ofNames_of_objections h, Except.error.injEq, and_iff_right h]
    exact eq_comm

-- ── Names that were accepted ──────────────────────────────────────────────────

/-- A name is stored as it is exactly if neither blanks nor brackets are around it. -/
theorem identifier_eq_self_iff :
    identifier raw = raw ↔ Text.stripBlanks raw = raw ∧ Text.stripBrackets raw = raw := by
  constructor
  · intro h
    have hbare : Text.stripBrackets raw = raw := by
      rw [← h]
      exact stripBrackets_identifier raw
    exact ⟨stripBrackets_eq_identifier_iff.mp (hbare.trans h.symm), hbare⟩
  · rintro ⟨hblanks, hbare⟩
    rw [identifier, hblanks, hbare]

/-- The names of a table: its own, that of its key and those of its columns. -/
def names (t : Table) : List String :=
  t.name :: t.primaryKey :: t.columns

theorem mem_names_of_mem_columns {n : String} (h : n ∈ t.primaryKey :: t.columns) :
    n ∈ t.names :=
  List.mem_cons_of_mem _ h

/-- A name under which a table knows a column is looked up as it is. -/
theorem requireColumn_of_mem {n : String} (h : n ∈ t.primaryKey :: t.columns) :
    t.requireColumn n = .ok n := by
  have hbare : Text.stripBrackets n = n := t.bare n (mem_names_of_mem_columns h)
  rw [requireColumn_eq_ok_iff, hasColumn_iff, hbare]
  refine ⟨?_, rfl⟩
  rcases List.mem_cons.mp h with rfl | hcolumn
  · exact t.primaryKey_declared
  · exact .inr hcolumn

/-- The statements for a table spell it and its columns as it does, in a condition on a column
    and in assignments to others. -/
def Spells (t : Table) (column : String) (value : Value) (cells : List (String × Value)) : Prop :=
  ((Builder.standard .select (.table t)).build (.select [.of column .equal value] ∅)).result =
      .ok (some ("SELECT * FROM " ++ t.name ++ " WHERE " ++ Statement.equation column value))
    ∧ ((Builder.standard .update (.table t)).build
        (.update (Statement.assignments cells) [.of column .equal value])).result =
      .ok (some ("UPDATE " ++ t.name
        ++ " SET " ++ ", ".intercalate (cells.map fun cell => Statement.equation cell.1 cell.2)
        ++ " WHERE " ++ Statement.equation column value))
    ∧ ((Builder.standard .insert (.table t)).build (.insert (Statement.assignments cells))).result =
      .ok (some ("INSERT INTO " ++ t.name ++ " "
        ++ ("(" ++ ", ".intercalate (cells.map (·.1)) ++ ") VALUES ("
          ++ ", ".intercalate (cells.map fun cell => "'" ++ cell.2.stored ++ "'") ++ ")")))
    ∧ ((Builder.standard .delete (.table t)).build (.delete [.of column .equal value])).result =
      .ok (some ("DELETE FROM " ++ t.name ++ " WHERE " ++ Statement.equation column value))

theorem spells_of_mem {column : String} {value : Value} {cells : List (String × Value)}
    (hcolumn : column ∈ t.primaryKey :: t.columns) (hne : cells ≠ [])
    (hcells : ∀ cell ∈ cells, cell.1 ∈ t.primaryKey :: t.columns) :
    t.Spells column value cells := by
  have hbare {n : String} (hn : n ∈ t.primaryKey :: t.columns) : Text.stripBrackets n = n :=
    t.bare n (mem_names_of_mem_columns hn)
  have hcells' : ∀ cell ∈ cells, Text.stripBrackets cell.1 = cell.1 :=
    fun cell hcell => hbare (hcells cell hcell)
  have hselect := Statement.select?_equal t.name value (hbare hcolumn)
  have hupdate := Statement.update?_assignments t.name value hne (hbare hcolumn)
  rw [Statement.map_of_bare hcells' Statement.equation] at hupdate
  have hinsert := Statement.insert?_assignments t.name hne
  rw [Statement.map_of_bare hcells' fun column _ => column] at hinsert
  have hdelete := Statement.delete?_equal t.name value (hbare hcolumn)
  exact ⟨(Builder.result_build _ _).trans (congrArg Except.ok hselect),
    (Builder.result_build _ _).trans (congrArg Except.ok hupdate),
    (Builder.result_build _ _).trans (congrArg Except.ok hinsert),
    (Builder.result_build _ _).trans (congrArg Except.ok hdelete)⟩

/-- **WHAT IS ACCEPTED IS USED**: names make a table exactly if neither its name nor its key is
    empty once blanks and then brackets are taken off, and the key is among the columns if there
    are any. The table has the names that are left, none of them with a bracket at an end, and
    its columns in order. Nothing else is taken off them: the columns are looked up, compared,
    assigned and written in statements by exactly these names. -/
theorem ofNames_accepts (name primaryKey : String) (columns : List String) :
    let stored raw := Text.stripBrackets (Text.stripBlanks raw)
    ((∃ t, ofNames name primaryKey columns = .ok t) ↔
      stored name ≠ "" ∧ stored primaryKey ≠ ""
        ∧ (columns = [] ∨ stored primaryKey ∈ columns.map stored))
    ∧ ∀ t, ofNames name primaryKey columns = .ok t →
      (t.name ≠ "" ∧ t.primaryKey ≠ "")
      ∧ (t.name = stored name ∧ t.primaryKey = stored primaryKey ∧ t.columns = columns.map stored)
      ∧ (∀ n ∈ t.names, ∀ c, n.toList.head? = some c ∨ n.toList.getLast? = some c →
        c ≠ '[' ∧ c ≠ ']')
      ∧ (∀ n ∈ t.primaryKey :: t.columns, t.requireColumn n = .ok n)
      ∧ (∀ n ∈ t.names,
        (∀ relation value, Criterion.of n relation value = ⟨n, relation, value.stored⟩)
          ∧ ∀ value, Assignment.of n value = ⟨n, value.stored⟩)
      ∧ ∀ column ∈ t.primaryKey :: t.columns, ∀ value cells, cells ≠ [] →
        (∀ cell ∈ cells, cell.1 ∈ t.primaryKey :: t.columns) → t.Spells column value cells := by
  intro stored
  refine ⟨exists_ofNames_iff.trans objections_eq_nil_iff, ?_⟩
  intro t ht
  refine ⟨⟨t.name_ne_empty, t.primaryKey_ne_empty⟩, ofNames_eq_ok_iff.mp ht, ?_, ?_, ?_, ?_⟩
  · intro n hn c hc
    exact Text.ne_bracket_of_bare (t.bare n hn) hc
  · exact fun n => requireColumn_of_mem
  · intro n hn
    exact ⟨Criterion.of_bare (t.bare n hn), Assignment.of_bare (t.bare n hn)⟩
  · exact fun column hcolumn value cells => spells_of_mem hcolumn

/-- Blanks inside of brackets are kept, and a column may be empty. -/
theorem ofNames_accepts_inner_blank :
    let t : Table := { name := "Users", primaryKey := "ID ", columns := ["", "ID ", "A[B"] }
    ofNames " [Users]]" "[ID ]" ["[]", "ID ]", "[A[B "] = .ok t
    ∧ (∃ u, ofNames " [Users]]" "[ID ]" ["[]", "ID ]", "[A[B "] = .ok u)
    ∧ t.requireColumn "A[B" = .ok "A[B"
    ∧ Criterion.of "ID " .like (.text "7") = ⟨"ID ", .like, "7"⟩
    ∧ t.Spells "ID " (.int 7) [("A[B", .text "x")] := by
  intro t
  have h : ofNames " [Users]]" "[ID ]" ["[]", "ID ]", "[A[B "] = .ok t :=
    ofNames_eq_ok_iff.mpr (by decide)
  obtain ⟨hiff, haccepted⟩ := ofNames_accepts " [Users]]" "[ID ]" ["[]", "ID ]", "[A[B "]
  obtain ⟨-, -, -, hrequire, helements, hspells⟩ := haccepted t h
  exact ⟨h, hiff.mpr (by decide), hrequire _ (by decide), (helements _ (by decide)).1 _ _,
    hspells _ (by decide) _ _ (by decide) (by decide)⟩

end SqlText.Table
