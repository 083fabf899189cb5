import SqlText.Fault
import SqlText.Text.Blank

/-!
# Tables — the name, the primary key and the columns of a table

Statements are written for a table. Its identifiers come from callers or from a
database, with blanks or brackets around them, and are stored without: first the
blanks go, then the brackets. The columns may be left out; then nothing is known of
them and every column is accepted.

A `Table` exists only if it is fit for use: its name and its key are not empty, no
identifier has a bracket at either end, and the key is among the columns if there are
any. `ofFields` builds one from data or says all that is wrong with it; `ofNames`
does so from texts.
-/

namespace SqlText

/-- A table that statements can be written for. -/
structure Table where
  name : String
  primaryKey : String
  /-- The columns in order; none if they are not declared. -/
  columns : List String
  name_ne_empty : name ≠ "" := by decide
  primaryKey_ne_empty : primaryKey ≠ "" := by decide
  /-- No identifier has brackets around it. -/
  bare : ∀ n ∈ name :: primaryKey :: columns, Text.stripBrackets n = n := by decide
  primaryKey_declared : columns = [] ∨ primaryKey ∈ columns := by decide
deriving DecidableEq

namespace Table

instance : ToString Table := ⟨name⟩

-- ── Reading ───────────────────────────────────────────────────────────────────

/-- An identifier as it is stored: without the blanks around it, then without brackets. -/
def identifier (raw : String) : String :=
  Text.stripBrackets (Text.stripBlanks raw)

theorem stripBrackets_identifier (raw : String) :
    Text.stripBrackets (identifier raw) = identifier raw :=
  Text.stripBrackets_stripBrackets _

/-- Data about a table, by the names of the entries. -/
abbrev Fields := List (String × Value)

/-- An identifier that is not empty and has no brackets around it. -/
abbrev Identifier := { n : String // n ≠ "" ∧ Text.stripBrackets n = n }

/-- The identifier under `key`. -/
def readIdentifier (fields : Fields) (key : String) : Except (List Issue) Identifier :=
  match fields.lookup key with
  | none => .error [.at key .missing]
  | some (.text raw) =>
    if h : identifier raw = "" then .error [.at key .emptyIdentifier]
    else .ok ⟨identifier raw, h, stripBrackets_identifier raw⟩
  | some _ => .error [.at key .notText]

/-- The items of a list that are no texts, counted from `position`. -/
def columnIssues (key : String) (position : Nat) : List Value → List Issue
  | [] => []
  | .text _ :: items => columnIssues key (position + 1) items
  | _ :: items => ⟨[.key key, .index position], .notText⟩ :: columnIssues key (position + 1) items

/-- The texts in a list, as identifiers. -/
def columnNames : List Value → List String
  | [] => []
  | .text raw :: items => identifier raw :: columnNames items
  | _ :: items => columnNames items

theorem stripBrackets_columnNames (items : List Value) :
    ∀ n ∈ columnNames items, Text.stripBrackets n = n := by
  induction items with
  | nil => intro n hn; simp [columnNames] at hn
  | cons item items ih =>
      intro n hn
      cases item with
      | text raw =>
          rcases List.mem_cons.mp hn with rfl | hn
          · exact stripBrackets_identifier raw
          · exact ih n hn
      | _ => exact ih n hn

/-- The columns under `key`; an entry that is missing declares none. -/
def readColumns (fields : Fields) (key : String) :
    Except (List Issue) { names : List String // ∀ n ∈ names, Text.stripBrackets n = n } :=
  match fields.lookup key with
  | none => .ok ⟨[], by simp⟩
  | some (.list items) =>
    match columnIssues key 0 items with
    | [] => .ok ⟨columnNames items, stripBrackets_columnNames items⟩
    | issues => .error issues
  | some _ => .error [.at key .notList]

/-- The names of the entries that describe a table. -/
def fieldNames : List String :=
  ["name", "primary_key", "columns"]

/-- One issue for each entry that does not describe a table. -/
def unexpectedIssues (fields : Fields) : List Issue :=
  (fields.filter (·.1 ∉ fieldNames)).map fun field => .at field.1 .unexpected

/-- What is wrong with a part that could not be read. -/
def issuesOf {α : Type} : Except (List Issue) α → List Issue
  | .ok _ => []
  | .error issues => issues

/-- The table that some entries describe, or all that is wrong with them. Whether the key
    is among the columns is asked only if each entry is right by itself. -/
def ofFields (fields : Fields) : Except Fault Table :=
  match readIdentifier fields "name", readIdentifier fields "primary_key",
    readColumns fields "columns", unexpectedIssues fields with
  | .ok name, .ok primaryKey, .ok columns, [] =>
    if h : columns.1 = [] ∨ primaryKey.1 ∈ columns.1 then
      .ok
        { name := name.1
          primaryKey := primaryKey.1
          columns := columns.1
          name_ne_empty := name.2.1
          primaryKey_ne_empty := primaryKey.2.1
          bare := by
            intro n hn
            rcases List.mem_cons.mp hn with rfl | hn
            · exact name.2.2
            · rcases List.mem_cons.mp hn with rfl | hn
              · exact primaryKey.2.2
              · exact columns.2 n hn
          primaryKey_declared := h }
    else
      .error (.invalid .table [⟨[], .keyNotAmongColumns primaryKey.1 name.1⟩])
  | name, primaryKey, columns, unexpected =>
    .error (.invalid .table
      (issuesOf name ++ issuesOf primaryKey ++ issuesOf columns ++ unexpected))

/-- The table with these identifiers, or all that is wrong with them. -/
def ofNames (name primaryKey : String) (columns : List String) : Except Fault Table :=
  ofFields [("name", .text name), ("primary_key", .text primaryKey),
    ("columns", .list (columns.map .text))]

-- ── Columns ───────────────────────────────────────────────────────────────────

/-- The table has a column of this name, as far as is known. -/
def hasColumn (t : Table) (column : String) : Bool :=
  t.columns.isEmpty || t.columns.contains (Text.stripBrackets column)

/-- The name without brackets, if the table has such a column. -/
def requireColumn (t : Table) (column : String) : Except Fault String :=
  if t.hasColumn column then .ok (Text.stripBrackets column)
  else .error (.undeclaredColumn (Text.stripBrackets column) t.name)

end Table

end SqlText
