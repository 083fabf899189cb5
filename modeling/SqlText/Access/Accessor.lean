import SqlText.Builder
import SqlText.Executor

/-!
# Accessors — actions on the records of one table

An accessor ties a table to an executor under a mode. Each action first asks the mode;
a forbidden action leaves no trace, whatever its arguments are. Then the statement is
built and handed to the executor. If nothing was asked for, nothing is run: the log
says so, a reading yields no rows and a writing touches no record.

`Operation` holds an action with its arguments, so that whole runs are data.
-/

namespace SqlText

/-- A table, an executor, and what may be done. -/
structure Accessor where
  table : Table
  executor : Executor
  mode : Access.Mode := .read

namespace Accessor

open Access (Action)
open Executor (Behaviour)

/-- Fails unless the mode permits the action. -/
def require (a : Accessor) (action : Action) : Outcome Unit :=
  if a.mode.permits action then pure () else .fail (.forbidden action a.mode)

/-- Builds the statement for a request on the table. -/
def build {v : Verb} (a : Accessor) (request : Request v) : Outcome (Option String) :=
  (Builder.standard v (.table a.table)).build request

/-- The criterion that a record has this primary key. -/
def keyCriterion (a : Accessor) (key : Value) : Criterion :=
  .of a.table.primaryKey .equal key

/-- The rows that a statement yields, and none without a statement. -/
def readRows (a : Accessor) (b : Behaviour) : Option String → Outcome (List Row)
  | some statement => a.executor.read b statement
  | none => do
    Outcome.note (.emptySelect a.table.name)
    pure []

/-- The number of records that a statement touches, and zero without a statement. -/
def writeRecords (a : Accessor) (b : Behaviour) : Option String → Outcome Int
  | some statement => a.executor.write b statement
  | none => do
    Outcome.note (.emptyWrite a.table.name)
    pure 0

-- ── Reading ───────────────────────────────────────────────────────────────────

/-- The rows that meet the criteria, shaped by the modifiers. -/
def select (a : Accessor) (b : Behaviour) (criteria : List Criterion)
    (modifiers : ModifierList) : Outcome (List Row) := do
  a.require .select
  a.readRows b (← a.build (.select criteria modifiers))

/-- The row with this primary key, if there is exactly one. -/
def selectOne (a : Accessor) (b : Behaviour) (key : Value) : Outcome (Option Row) := do
  a.require .selectOne
  let rows ← a.readRows b (← a.build (.select [a.keyCriterion key] ∅))
  match rows with
  | [row] => pure (some row)
  | _ => pure none

-- ── Writing ───────────────────────────────────────────────────────────────────

/-- Changes the record with this primary key. -/
def update (a : Accessor) (b : Behaviour) (key : Value) (assignments : List Assignment) :
    Outcome Int := do
  a.require .update
  a.writeRecords b (← a.build (.update assignments [a.keyCriterion key]))

/-- Changes every record that meets the criteria. -/
def updateWhere (a : Accessor) (b : Behaviour) (assignments : List Assignment)
    (criteria : List Criterion) : Outcome Int := do
  a.require .updateWhere
  a.writeRecords b (← a.build (.update assignments criteria))

/-- Inserts one record. -/
def insert (a : Accessor) (b : Behaviour) (assignments : List Assignment) : Outcome Int := do
  a.require .insert
  a.writeRecords b (← a.build (.insert assignments))

/-- Deletes the record with this primary key. -/
def delete (a : Accessor) (b : Behaviour) (key : Value) : Outcome Int := do
  a.require .delete
  a.writeRecords b (← a.build (.delete [a.keyCriterion key]))

/-- Deletes every record that meets the criteria. -/
def deleteWhere (a : Accessor) (b : Behaviour) (criteria : List Criterion) : Outcome Int := do
  a.require .deleteWhere
  a.writeRecords b (← a.build (.delete criteria))

-- ── Operations ────────────────────────────────────────────────────────────────

/-- An action with its arguments. -/
inductive Operation where
  | select (criteria : List Criterion) (modifiers : ModifierList)
  | selectOne (key : Value)
  | update (key : Value) (assignments : List Assignment)
  | updateWhere (assignments : List Assignment) (criteria : List Criterion)
  | insert (assignments : List Assignment)
  | delete (key : Value)
  | deleteWhere (criteria : List Criterion)

/-- The action of an operation. -/
def Operation.action : Operation → Action
  | .select .. => .select
  | .selectOne .. => .selectOne
  | .update .. => .update
  | .updateWhere .. => .updateWhere
  | .insert .. => .insert
  | .delete .. => .delete
  | .deleteWhere .. => .deleteWhere

/-- What an operation yields. -/
inductive Answer where
  | rows (rows : List Row)
  | row (row : Option Row)
  | count (affected : Int)

/-- Carries out an operation while the other side answers by `b`. -/
def perform (a : Accessor) (b : Behaviour) : Operation → Outcome Answer
  | .select criteria modifiers => .rows <$> a.select b criteria modifiers
  | .selectOne key => .row <$> a.selectOne b key
  | .update key assignments => .count <$> a.update b key assignments
  | .updateWhere assignments criteria => .count <$> a.updateWhere b assignments criteria
  | .insert assignments => .count <$> a.insert b assignments
  | .delete key => .count <$> a.delete b key
  | .deleteWhere criteria => .count <$> a.deleteWhere b criteria

/-- Carries out operations one after another, each whatever became of the others. -/
def run (a : Accessor) (operations : List (Behaviour × Operation)) : List (Outcome Answer) :=
  operations.map fun (b, operation) => a.perform b operation

/-- The accessor by its table and its mode. -/
def describe (a : Accessor) : String :=
  "RecordAccessor(" ++ Text.quoted a.table.name ++ ", mode="
    ++ Text.quoted (Named.name a.mode) ++ ")"

end Accessor

end SqlText
