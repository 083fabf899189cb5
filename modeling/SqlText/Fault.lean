import SqlText.Access.Mode
import SqlText.Issue
import SqlText.Value

/-!
# Faults — why something could not be done

Empty input is never a fault: no statement is built from it and nothing is run.
What remains is a wrong choice, a forbidden action, a table or record that does not
fit together, and a database that fails. Each cause is a constructor that carries
what its message shows; the wording stands in `Fault.message` alone.
-/

namespace SqlText

/-- What a validation was about. -/
inductive Subject where
  | table
  | record (model : String)
deriving DecidableEq, Repr

/-- The reason why something could not be done. -/
inductive Fault where
  /-- A value that names no member of a family of choices. -/
  | unknownName (family : String) (given : Value)
  /-- An action outside the mode of the accessor. -/
  | forbidden (action : Access.Action) (mode : Access.Mode)
  /-- A verb without a builder. -/
  | unregisteredVerb (verb : String) (registered : List String)
  /-- A column that the table does not declare. -/
  | undeclaredColumn (column table : String)
  /-- A change to a field that the model does not have. -/
  | unknownField (model field : String)
  /-- A record whose model maps no field to the primary key. -/
  | unmappedKey (model primaryKey : String)
  /-- Data that does not describe the subject. -/
  | invalid (subject : Subject) (issues : List Issue)
  /-- A table that the database does not have. -/
  | tableNotFound (table : String)
  /-- A table with no primary key, or with one of several columns. -/
  | keyCount (table : String) (count : Nat)
  /-- The means to look at a database are not installed. -/
  | reflectionUnavailable
  /-- The database failed while rows were read. -/
  | readFailed (reason statement : String)
  /-- The database failed while records were written. -/
  | writeFailed (reason statement : String)
  /-- A failure of the database that nobody has put in context. -/
  | database (reason : String)
  /-- A failure of something else. -/
  | foreign (reason : String)

/-- The fault in words. -/
def Fault.message : Fault → String
  | unknownName family given => given.literal ++ " is not a valid " ++ family
  | forbidden action mode =>
    "Operation '" ++ action.name ++ "' is not supported by a '" ++ Named.name mode ++ "' accessor."
  | unregisteredVerb verb registered =>
    "Unsupported statement verb: '" ++ verb ++ "'. Registered verbs: "
      ++ Text.quotedList registered ++ "."
  | undeclaredColumn column table =>
    "Column '" ++ column ++ "' is not declared on table '" ++ table ++ "'."
  | unknownField model field => model ++ " has no field '" ++ field ++ "'."
  | unmappedKey model primaryKey =>
    model ++ " has no field mapped to primary key '" ++ primaryKey ++ "'."
  | invalid _ issues => "; ".intercalate (issues.map (·.cause.message))
  | tableNotFound table => "Table '" ++ table ++ "' was not found."
  | keyCount table count =>
    "Table '" ++ table ++ "' must have exactly one primary-key column, found "
      ++ toString count ++ "."
  | reflectionUnavailable =>
    "SQLAlchemy is required for table_from_sqlalchemy(). "
      ++ "Install it with: pip install \"sqlmaker[sqlalchemy]\""
  | readFailed reason _ => "Read failed: " ++ reason
  | writeFailed reason _ => "Write failed: " ++ reason
  | database reason => reason
  | foreign reason => reason

/-- The part of a request that could not be compiled. -/
def Fault.clause? : Fault → Option String
  | unregisteredVerb .. => some "verb"
  | _ => none

/-- What a fault comes from. -/
inductive Fault.Sort where
  /-- A name outside of its family. -/
  | choice
  /-- An action that is not permitted. -/
  | capability
  /-- A statement that cannot be written. -/
  | compilation
  /-- A table, or a model of its records, that does not fit. -/
  | configuration
  /-- Data that does not describe what it should. -/
  | validation
  /-- Something that is not installed. -/
  | means
  /-- A statement that the database could not run. -/
  | execution
  /-- A failure of something else, passed on as it is. -/
  | outside
deriving DecidableEq, Repr

/-- The sort of a fault. -/
def Fault.sort : Fault → Fault.Sort
  | unknownName .. => .choice
  | forbidden .. => .capability
  | unregisteredVerb .. => .compilation
  | undeclaredColumn .. | unknownField .. | unmappedKey .. | tableNotFound .. | keyCount .. =>
    .configuration
  | invalid .. => .validation
  | reflectionUnavailable => .means
  | readFailed .. | writeFailed .. => .execution
  | database .. | foreign .. => .outside

/-- The member of a family that a value names. -/
def Named.read {α : Type} [Named α] (given : Value) : Except Fault α :=
  let chosen : Option α :=
    match given with
    | .text s => Named.ofName? s
    | _ => none
  match chosen with
  | some member => .ok member
  | none => .error (.unknownName (Named.family α) given)

/-- A member that is found under its name is also read from it. -/
theorem Named.read_name {α : Type} [Named α] {member : α}
    (h : Named.ofName? (Named.name member) = some member) :
    Named.read (.text (Named.name member)) = .ok member := by
  simp only [Named.read, h]

end SqlText
