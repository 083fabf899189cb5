import SqlText.Proofs.Record.Plans
import SqlText.Proofs.Table.Lookup

/-!
# Checks — the first objection decides

A repository checks what it is given item by item before it asks an accessor for anything.
There is an objection to a column that the table does not accept, for it declares others
(`Table.objection?`), and to a field that is not in the model or has such a column
(`Repository.objection?`). The first objection in the order of the items is the fault; without
one, each item becomes an assignment (`mapM_eq_checked`).

So the checks of an insertion and of an update are known from what they are given
(`assignmentsOf_eq`, `assignmentsOfChanges_eq`): the row of the record or the changes, without
the absent values (`Operation.entries`). To an absent value there is no objection.
-/

namespace SqlText

variable {α β : Type}

-- ── Objections ────────────────────────────────────────────────────────────────

/-- A value, unless there is an objection. -/
def checked (objection? : Option Fault) (a : α) : Except Fault α :=
  match objection? with
  | some fault => .error fault
  | none => .ok a

theorem checked_eq_ok_iff {objection? : Option Fault} {a c : α} :
    checked objection? a = .ok c ↔ objection? = none ∧ a = c := by
  cases objection? <;> simp [checked]

theorem mapM_eq_checked {f : α → Except Fault β} {objection? : α → Option Fault} {g : α → β}
    (h : ∀ a, f a = checked (objection? a) (g a)) (l : List α) :
    l.mapM f = checked (l.findSome? objection?) (l.map g) := by
  induction l with
  | nil => rfl
  | cons a l ih =>
      rw [List.mapM_cons, h, ih, List.findSome?_cons]
      cases objection? a with
      | some fault => rfl
      | none => cases l.findSome? objection? <;> rfl

/-- What stands behind the first objection is not asked. -/
theorem findSome?_of_first {objection? : α → Option Fault} {before after : List α} {a : α}
    {fault : Fault} (hbefore : ∀ c ∈ before, objection? c = none)
    (ha : objection? a = some fault) :
    (before ++ a :: after).findSome? objection? = some fault := by
  rw [List.findSome?_append, List.findSome?_eq_none_iff.mpr hbefore, List.findSome?_cons, ha]
  rfl

namespace Table

/-- The name, brackets or not, is that of a declared column, if any columns are declared. -/
def Accepts (t : Table) (column : String) : Prop :=
  t.columns = [] ∨ Text.stripBrackets column ∈ t.columns

instance (t : Table) (column : String) : Decidable (t.Accepts column) :=
  inferInstanceAs (Decidable (_ ∨ _))

/-- Why a name is no column of the table. -/
def objection? (t : Table) (column : String) : Option Fault :=
  if t.Accepts column then none
  else some (.undeclaredColumn (Text.stripBrackets column) t.name)

theorem objection?_eq_none_iff {t : Table} {column : String} :
    t.objection? column = none ↔ t.Accepts column := by
  rw [objection?]
  by_cases h : t.Accepts column <;> simp [h]

theorem findSome?_of_accepts {t : Table} {entries : List (String × Value)}
    (h : ∀ entry ∈ entries, t.Accepts entry.1) :
    (entries.findSome? fun entry => t.objection? entry.1) = none := by
  rw [List.findSome?_eq_none_iff]
  intro entry hentry
  exact objection?_eq_none_iff.mpr (h entry hentry)

theorem requireColumn_eq (t : Table) (column : String) :
    t.requireColumn column = checked (t.objection? column) (Text.stripBrackets column) := by
  have hhas : t.hasColumn column = true ↔ t.Accepts column := hasColumn_iff
  rw [requireColumn, objection?]
  by_cases h : t.Accepts column
  · rw [if_pos (hhas.mpr h), if_pos h]
    rfl
  · rw [if_neg (mt hhas.mp h), if_neg h]
    rfl

end Table

namespace Repository

variable {repo : Repository} {model : Model}

/-- Why a field cannot be changed: it is not in the model, or its column is not declared. -/
def objection? (repo : Repository) (field : String) : Option Fault :=
  match repo.model.field? field with
  | some f => repo.table.objection? f.column
  | none => some (.unknownField repo.model.name field)

theorem objection?_eq_none_iff {field : String} :
    repo.objection? field = none ↔
      ∃ f, repo.model.field? field = some f ∧ repo.table.Accepts f.column := by
  rw [objection?]
  cases repo.model.field? field with
  | some f => simp [Table.objection?_eq_none_iff]
  | none => simp

-- ── What an operation writes ──────────────────────────────────────────────────

namespace Operation

/-- What an operation writes by column: the row of a record, or changes by the columns of
    their fields. Absent values are left out. -/
def entries : Operation model → List (String × Value)
  | insert r => r.toRow.filter fun entry => !entry.2.isNull
  | update _ changes =>
    (changes.filter fun change => !change.2.isNull).map fun change =>
      ((model.field? change.1).elim change.1 Field.column, change.2)
  | get _ | find .. | delete _ => []

/-- The columns that an operation writes to, without brackets. -/
def columns (op : Operation model) : List String :=
  op.entries.map fun entry => Text.stripBrackets entry.1

/-- The values that an operation writes, between quotes. -/
def values (op : Operation model) : List String :=
  op.entries.map fun entry => "'" ++ entry.2.stored ++ "'"

/-- The assignments that an operation writes. -/
def assignments (op : Operation model) : List Assignment :=
  op.entries.map fun entry => .of entry.1 entry.2

end Operation

-- ── The checks of an operation ────────────────────────────────────────────────

theorem columnOf_eq (repo : Repository) (field : String) :
    repo.columnOf field = checked (repo.objection? field)
      (Text.stripBrackets ((repo.model.field? field).elim field Field.column)) := by
  rw [columnOf, objection?]
  cases repo.model.field? field with
  | some f => exact repo.table.requireColumn_eq f.column
  | none => rfl

/-- An assignment to a column that was found drops the brackets of the column that was asked
    for and none beyond them. -/
theorem assign_eq_checked {find : Except Fault String} {objection? : Option Fault}
    {column : String} (h : find = checked objection? (Text.stripBrackets column))
    (value : Value) :
    (do pure (Assignment.of (← find) value)) = checked objection? (.of column value) := by
  rw [h, ← Assignment.of_stripBrackets column value]
  cases objection? <;> rfl

theorem assignmentsOf_eq (repo : Repository) (r : Record repo.model) :
    repo.assignmentsOf r =
      checked ((Operation.insert r).entries.findSome? fun entry => repo.table.objection? entry.1)
        (Operation.insert r).assignments := by
  refine mapM_eq_checked ?_ _
  intro entry
  exact assign_eq_checked (repo.table.requireColumn_eq entry.1) entry.2

theorem assignmentsOfChanges_eq (repo : Repository) (r : Record repo.model)
    (changes : List (String × Value)) :
    repo.assignmentsOfChanges (changes.filter fun change => !change.2.isNull) =
      checked
        ((changes.filter fun change => !change.2.isNull).findSome? fun change =>
          repo.objection? change.1)
        (Operation.update r changes).assignments := by
  rw [Operation.assignments, Operation.entries, List.map_map]
  refine mapM_eq_checked ?_ _
  intro change
  exact assign_eq_checked (repo.columnOf_eq change.1) change.2

theorem primaryKeyValue_eq_ok_iff {r : Record repo.model} {key : Value} :
    repo.primaryKeyValue r = .ok key ↔ r.toRow.lookup repo.table.primaryKey = some key := by
  rw [primaryKeyValue]
  cases r.toRow.lookup repo.table.primaryKey <;> simp

theorem primaryKeyValue_of_none {r : Record repo.model}
    (h : r.toRow.lookup repo.table.primaryKey = none) :
    repo.primaryKeyValue r =
      .error (.unmappedKey repo.model.name repo.table.primaryKey) := by
  rw [primaryKeyValue, h]

end Repository

end SqlText
