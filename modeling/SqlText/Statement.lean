import SqlText.Clause.Assignments
import SqlText.Clause.Where
import SqlText.ModifierList
import SqlText.Table

/-!
# Statements — one request of each verb, written for a table

A request says what is to be done and leaves out where: it holds the conditions, the
assignments and the directives of one verb. `Request.statement?` writes it for a
table.

Empty input asks for nothing, so no statement is written for it (`none`). Neither is
an update or a deletion without a condition written: criteria that constrain nothing
would touch every record.
-/

namespace SqlText

/-- The kinds of statement. -/
inductive Verb where
  | select
  | update
  | insert
  | delete
deriving DecidableEq, Repr

namespace Verb

/-- The verbs, each of them once. -/
def all : List Verb :=
  [select, update, insert, delete]

/-- The name of a verb. -/
def name : Verb → String
  | select => "select"
  | update => "update"
  | insert => "insert"
  | delete => "delete"

/-- The verb of exactly this name. -/
def ofName? (s : String) : Option Verb :=
  all.find? (·.name = s)

end Verb

/-- What a statement is written for: a name, or a table that is known in full. -/
inductive Target where
  | named (name : String)
  | table (t : Table)

/-- The name that statements for the target use. -/
def Target.tableName : Target → String
  | named name => Text.stripBrackets name
  | table t => t.name

/-- What a statement of a verb is to do. -/
inductive Request : Verb → Type where
  | select (criteria : List Criterion) (modifiers : ModifierList) : Request .select
  | update (assignments : List Assignment) (criteria : List Criterion) : Request .update
  | insert (assignments : List Assignment) : Request .insert
  | delete (criteria : List Criterion) : Request .delete

namespace Statement

/-- A part of a statement that is left out if it is empty. -/
def part (keyword text : String) : List String :=
  if text = "" then [] else [keyword ++ text]

/-- The selection of records, if there are criteria. -/
def select? (table : String) (criteria : List Criterion) (modifiers : ModifierList) :
    Option String :=
  if criteria.isEmpty then none
  else
    some (" ".intercalate
      (["SELECT"] ++ part "" modifiers.front
        ++ (if modifiers.hasKind .distinct then [] else ["*"])
        ++ ["FROM " ++ table]
        ++ part "WHERE " (Clause.Where.build criteria)
        ++ part "" modifiers.back))

/-- The change of records, if there are assignments and a condition. -/
def update? (table : String) (assignments : List Assignment) (criteria : List Criterion) :
    Option String :=
  let condition := Clause.Where.build criteria
  if assignments.isEmpty || condition = "" then none
  else
    some ("UPDATE " ++ table ++ " SET " ++ Clause.Assignments.build assignments
      ++ " WHERE " ++ condition)

/-- The insertion of a record, if there are assignments. -/
def insert? (table : String) (assignments : List Assignment) : Option String :=
  if assignments.isEmpty then none
  else some ("INSERT INTO " ++ table ++ " " ++ Clause.Assignments.buildColumnsAndValues assignments)

/-- The deletion of records, if there is a condition. -/
def delete? (table : String) (criteria : List Criterion) : Option String :=
  let condition := Clause.Where.build criteria
  if condition = "" then none else some ("DELETE FROM " ++ table ++ " WHERE " ++ condition)

end Statement

/-- The request written for a table of this name, unless it asks for nothing. -/
def Request.statement? (table : String) : {v : Verb} → Request v → Option String
  | _, .select criteria modifiers => Statement.select? table criteria modifiers
  | _, .update assignments criteria => Statement.update? table assignments criteria
  | _, .insert assignments => Statement.insert? table assignments
  | _, .delete criteria => Statement.delete? table criteria

end SqlText
