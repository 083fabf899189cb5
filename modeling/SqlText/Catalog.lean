import SqlText.Table

/-!
# Catalogs — tables found in a database

A database can be asked for its tables. A schema, if one is named, restricts the
question, and then tables are known by the schema's name, a dot and their own name;
otherwise the default schema is meant and tables are known by their name. A table is
found under exactly that text. Views are no tables.

A primary key is declared as a list of names and is a set of columns: a name means a column
whatever the case of its ASCII letters, and a column named twice counts once.

Only tables with one primary-key column can be described, for records are addressed by
the value of one column.
-/

namespace SqlText

/-- A table as it was declared. -/
structure Catalog.Definition where
  name : String
  columns : List String
  /-- The names in the primary key, as they were written. -/
  key : List String
deriving DecidableEq, Repr

/-- A table as the database describes it. -/
structure Catalog.Entry where
  name : String
  columns : List String
  /-- The columns of the primary key, in order. -/
  primaryKey : List String
deriving DecidableEq, Repr

/-- A schema: tables that are looked up together. -/
structure Catalog.Schema where
  name : String
  tables : List Catalog.Definition
  views : List String := []
deriving DecidableEq, Repr

/-- The schemas of a database. -/
structure Catalog where
  schemas : List Catalog.Schema
  /-- The schema that is meant if none is named. -/
  defaultSchema : String := "main"

namespace Catalog

/-- Whether two names mean the same to a database, which does not tell the case of ASCII
letters apart. Other letters are told apart, for `Char.toLower` leaves them alone. -/
def sameName (a b : String) : Bool :=
  a.toList.map Char.toLower == b.toList.map Char.toLower

/-- The column that a name means, as it was declared. -/
def Definition.column? (definition : Definition) (name : String) : Option String :=
  definition.columns.find? (sameName name)

/-- What the database says about a table that was declared so. -/
def Definition.entry (definition : Definition) : Entry where
  name := definition.name
  columns := definition.columns
  primaryKey := (definition.key.filterMap definition.column?).eraseDups

/-- The columns of a primary key are columns of the table. -/
theorem Definition.mem_columns_of_mem_primaryKey {definition : Definition} {column : String}
    (h : column ∈ definition.entry.primaryKey) : column ∈ definition.entry.columns := by
  obtain ⟨name, -, found⟩ := List.mem_filterMap.mp (List.mem_eraseDups.mp h)
  exact List.mem_of_find?_eq_some found

/-- The text a table is known under when a schema is asked for. -/
def qualifiedName (schema? : Option String) (table : String) : String :=
  match schema? with
  | none => table
  | some schema => if schema = "" then table else schema ++ "." ++ table

/-- What the database says about a schema: its tables by the text they are known under. -/
abbrev Metadata := List (String × Entry)

/-- The tables of a schema, or of the default one. Assumed of the inspection of a database: an
    empty name of a schema means the default one, names of schemas are compared as the
    database compares names, a schema that is not there has no tables, and views are left out. -/
def reflect (catalog : Catalog) (schema? : Option String) : Metadata :=
  let wanted := match schema? with
    | none => catalog.defaultSchema
    | some schema => if schema = "" then catalog.defaultSchema else schema
  match catalog.schemas.find? (sameName wanted ·.name) with
  | none => []
  | some schema => schema.tables.map fun definition =>
      (qualifiedName schema? definition.name, definition.entry)

/-- The table that an entry describes. -/
def Entry.toTable (entry : Entry) : Except Fault Table :=
  match entry.primaryKey with
  | [key] => Table.ofNames entry.name key entry.columns
  | keys => .error (.keyCount entry.name keys.length)

/-- The table of a name in what is known of a schema. -/
def Metadata.table (metadata : Metadata) (schema? : Option String) (name : String) :
    Except Fault Table :=
  match metadata.lookup (qualifiedName schema? name) with
  | some entry => entry.toTable
  | none => .error (.tableNotFound name)

/-- The table of a name in a schema, if databases can be looked at at all. -/
def table (catalog : Catalog) (installed : Bool) (schema? : Option String) (name : String) :
    Except Fault Table :=
  if installed then (catalog.reflect schema?).table schema? name
  else .error .reflectionUnavailable

end Catalog

end SqlText
