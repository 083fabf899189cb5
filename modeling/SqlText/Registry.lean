import SqlText.Builder
import SqlText.Text.Casing
import Std.Data.TreeMap

/-!
# The registry — builders by verb

Callers that know a verb only as a text ask the registry for its builder. Verbs are
kept in lower case, so that case does not matter, and in the order of their code
points. A later registration under a verb replaces the earlier one.

`Operation` holds a use of the registry with its arguments, so that whole runs are data.
-/

namespace SqlText

/-- Kinds of builder by verb in lower case. -/
structure Registry where
  kinds : Std.TreeMap String Builder.Kind

namespace Registry

/-- The registry with this kind under a verb. -/
def register (r : Registry) (verb : String) (kind : Builder.Kind) : Registry :=
  ⟨r.kinds.insert (Text.lower verb) kind⟩

/-- The registry of the standard kinds. -/
def standard : Registry :=
  Verb.all.foldl (fun r verb => r.register verb.name (.standard verb)) ⟨∅⟩

/-- The verbs that have a builder, in order. -/
def verbs (r : Registry) : List String :=
  r.kinds.keys

/-- The kind under a verb. -/
def kind? (r : Registry) (verb : String) : Option Builder.Kind :=
  r.kinds[Text.lower verb]?

/-- A builder of the verb's kind for a target. -/
def create (r : Registry) (verb : String) (target : Target) : Except Fault Builder :=
  match r.kind? verb with
  | some kind => .ok (.new kind target)
  | none => .error (.unregisteredVerb verb r.verbs)

-- ── Operations ────────────────────────────────────────────────────────────────

/-- A use of the registry. -/
inductive Operation where
  /-- Registers a kind where it is defined. -/
  | decorate (verb : String) (kind : Builder.Kind)
  | register (verb : String) (kind : Builder.Kind)
  | create (verb : String) (target : Target)

/-- What a use of the registry yields. -/
inductive Answer where
  /-- The kind that was registered, so that its definition stands. -/
  | decorated (kind : Builder.Kind)
  | registered
  | created (b : Except Fault Builder)

/-- Carries out an operation. -/
def perform (r : Registry) : Operation → Registry × Answer
  | .decorate verb kind => (r.register verb kind, .decorated kind)
  | .register verb kind => (r.register verb kind, .registered)
  | .create verb target => (r, .created (r.create verb target))

/-- The registry after operations, one after another. -/
def run (r : Registry) (operations : List Operation) : Registry :=
  operations.foldl (fun r operation => (r.perform operation).1) r

-- ── Laws ──────────────────────────────────────────────────────────────────────

variable {r : Registry} {verb other : String} {kind : Builder.Kind}

/-- The last registration under a verb, in whatever case, is the one that counts. -/
theorem kind?_register_of_eq (h : Text.lower verb = Text.lower other) :
    (r.register verb kind).kind? other = some kind := by
  rw [kind?, register, ← h, Std.TreeMap.getElem?_insert_self]

/-- A registration under one verb does not touch another. -/
theorem kind?_register_of_ne (h : Text.lower verb ≠ Text.lower other) :
    (r.register verb kind).kind? other = r.kind? other := by
  rw [kind?, register, Std.TreeMap.getElem?_insert, if_neg (by simpa using h)]
  rfl

end Registry

end SqlText
