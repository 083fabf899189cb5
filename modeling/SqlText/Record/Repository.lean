import SqlText.Access.Accessor
import SqlText.Record.Model

/-!
# Repositories — records of a model in a table

A repository loads and stores the records of one model in one table. It reads through
an accessor that may only read and writes through one that may only write. What does not
fit together, a column that is not declared or a key that no field is mapped to, is found
before anything is built. A value that is absent is never written.

Records are values: a change yields another record and leaves the given one as it is.
`Operation` holds an action with its arguments, so that whole runs are data.
-/

namespace SqlText

/-- A table, an executor, and the model of its records. -/
structure Repository where
  table : Table
  executor : Executor
  model : Model

namespace Repository

open Executor (Behaviour)

variable (repo : Repository)

/-- The accessor that reads. -/
def reader : Accessor :=
  { table := repo.table, executor := repo.executor, mode := .read }

/-- The accessor that writes. -/
def writer : Accessor :=
  { table := repo.table, executor := repo.executor, mode := .write }

/-- The value of the field that is mapped to the primary key. -/
def primaryKeyValue (r : Record repo.model) : Except Fault Value :=
  match r.toRow.lookup repo.table.primaryKey with
  | some value => .ok value
  | none => .error (.unmappedKey repo.model.name repo.table.primaryKey)

/-- The declared column of a field. -/
def columnOf (field : String) : Except Fault String :=
  match repo.model.field? field with
  | some f => repo.table.requireColumn f.column
  | none => .error (.unknownField repo.model.name field)

/-- The assignments that store the values of a record that are there. -/
def assignmentsOf (r : Record repo.model) : Except Fault (List Assignment) :=
  (r.toRow.filter fun entry => !entry.2.isNull).mapM fun entry => do
    let column ← repo.table.requireColumn entry.1
    pure (.of column entry.2)

/-- The assignments that store changes of fields. -/
def assignmentsOfChanges (changes : List (String × Value)) : Except Fault (List Assignment) :=
  changes.mapM fun change => do
    let column ← repo.columnOf change.1
    pure (.of column change.2)

-- ── Reading ───────────────────────────────────────────────────────────────────

/-- The record with this primary key, if there is exactly one. -/
def get (b : Behaviour) (key : Value) : Outcome (Option (Record repo.model)) := do
  match ← repo.reader.selectOne b key with
  | none => pure none
  | some row => some <$> Outcome.ofExcept (repo.model.read row)

/-- The records that meet the criteria, shaped by the modifiers. -/
def find (b : Behaviour) (criteria : List Criterion) (modifiers : ModifierList) :
    Outcome (List (Record repo.model)) := do
  let rows ← repo.reader.select b criteria modifiers
  Outcome.ofExcept (rows.mapM repo.model.read)

-- ── Writing ───────────────────────────────────────────────────────────────────

/-- Inserts a record without its absent values. -/
def insert (b : Behaviour) (r : Record repo.model) : Outcome Int := do
  let assignments ← Outcome.ofExcept (repo.assignmentsOf r)
  repo.writer.insert b assignments

/-- What became of a record that was to be changed. -/
inductive Revision (model : Model) where
  /-- No record was touched, and the given one stands. -/
  | kept
  /-- The record with the changes. -/
  | revised (r : Record model)

/-- Writes changes of fields to the record's row. Changes to the absent value are left
    out; without others nothing is done. -/
def update (b : Behaviour) (r : Record repo.model) (changes : List (String × Value)) :
    Outcome (Revision repo.model) := do
  let changes := changes.filter fun change => !change.2.isNull
  if changes.isEmpty then
    pure .kept
  else
    let assignments ← Outcome.ofExcept (repo.assignmentsOfChanges changes)
    let key ← Outcome.ofExcept (repo.primaryKeyValue r)
    let affected ← repo.writer.update b key assignments
    pure (if 0 < affected then .revised (r.update changes) else .kept)

/-- Deletes the record's row. -/
def delete (b : Behaviour) (r : Record repo.model) : Outcome Int := do
  let key ← Outcome.ofExcept (repo.primaryKeyValue r)
  repo.writer.delete b key

-- ── Operations ────────────────────────────────────────────────────────────────

/-- An action on records of a model, with its arguments. -/
inductive Operation (model : Model) where
  | get (key : Value)
  | find (criteria : List Criterion) (modifiers : ModifierList)
  | insert (r : Record model)
  | update (r : Record model) (changes : List (String × Value))
  | delete (r : Record model)

/-- What an operation yields. -/
inductive Answer (model : Model) where
  | found (r : Option (Record model))
  | records (rs : List (Record model))
  | count (affected : Int)
  | revision (revision : Revision model)

/-- Carries out an operation while the other side answers by `b`. -/
def perform (b : Behaviour) : Operation repo.model → Outcome (Answer repo.model)
  | .get key => .found <$> repo.get b key
  | .find criteria modifiers => .records <$> repo.find b criteria modifiers
  | .insert r => .count <$> repo.insert b r
  | .update r changes => .revision <$> repo.update b r changes
  | .delete r => .count <$> repo.delete b r

/-- Carries out operations one after another, each whatever became of the others. -/
def run (operations : List (Behaviour × Operation repo.model)) :
    List (Outcome (Answer repo.model)) :=
  operations.map fun (b, operation) => repo.perform b operation

end Repository

end SqlText
