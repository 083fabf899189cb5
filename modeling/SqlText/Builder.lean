import SqlText.Outcome
import SqlText.Statement

/-!
# Builders — a verb tied to a table

A builder writes the statements of one verb for one table and reports each statement
it writes. Its *kind* fixes the verb, the name under which the kind is shown and the
verb that its reports show; the standard kinds show their own verb. A request of
another verb does not fit a builder, so one made for selecting cannot write.
-/

namespace SqlText

/-- A sort of builder. -/
structure Builder.Kind where
  /-- The verb of the statements it writes. -/
  verb : Verb
  /-- The name it is shown under. -/
  name : String
  /-- The verb that its reports show. -/
  label : String
deriving DecidableEq, Repr

/-- The builder's kind that comes with a verb. -/
def Builder.Kind.standard (verb : Verb) : Builder.Kind where
  verb := verb
  name :=
    match verb with
    | .select => "SelectBuilder"
    | .update => "UpdateBuilder"
    | .insert => "InsertBuilder"
    | .delete => "DeleteBuilder"
  label := verb.name

/-- A builder of some kind for the table of a name. -/
structure Builder where
  kind : Builder.Kind
  table : String
deriving DecidableEq, Repr

namespace Builder

/-- A builder of some kind for a target. -/
def new (kind : Kind) (target : Target) : Builder :=
  ⟨kind, target.tableName⟩

/-- The standard builder of a verb for a target. -/
def standard (verb : Verb) (target : Target) : Builder :=
  new (.standard verb) target

/-- The statement for a request, reported unless the request asks for nothing. -/
def build (b : Builder) (request : Request b.kind.verb) : Outcome (Option String) := do
  match request.statement? b.table with
  | none => pure none
  | some statement =>
    Outcome.note (.built b.kind.label statement)
    pure (some statement)

/-- The builder by the name of its kind and its table. -/
def describe (b : Builder) : String :=
  b.kind.name ++ "(" ++ Text.quoted b.table ++ ")"

/-- Building never fails. -/
theorem result_build (b : Builder) (request : Request b.kind.verb) :
    (b.build request).result = .ok (request.statement? b.table) := by
  rw [build]
  cases request.statement? b.table <;> rfl

/-- Building reaches no database and reports the statement, if there is one. -/
theorem trace_build (b : Builder) (request : Request b.kind.verb) :
    (b.build request).trace =
      ⟨[], (request.statement? b.table).toList.map (.built b.kind.label)⟩ := by
  rw [build]
  cases request.statement? b.table <;> rfl

end Builder

end SqlText
