/-!
# Traces — what can be seen of a run from outside

While something runs it leaves two kinds of marks: *events*, the calls that reach a
database or what stands in for it, and *log entries*, which say what was built and
done. A trace holds both, each in order. Log entries keep what they are about; their
wording is `Entry.message`.
-/

namespace SqlText

/-- A call that reaches a database. -/
inductive Event where
  /-- A statement was handed over for reading. -/
  | read (statement : String)
  /-- A statement was handed over for writing. -/
  | write (statement : String)
  /-- A connection was asked for. -/
  | connect
  /-- A connection was given back. -/
  | close
  /-- A transaction was asked for. -/
  | begin
  | commit
  | rollback
  /-- A statement was run on a connection. -/
  | execute (statement : String)
deriving DecidableEq, Repr

/-- An entry of the log. -/
inductive Entry where
  /-- A statement was built by the builder of a verb. -/
  | built (verb statement : String)
  /-- A selection on a table was empty. -/
  | emptySelect (table : String)
  /-- A change of a table was empty. -/
  | emptyWrite (table : String)
  | opening (url : String)
  | reading (statement : String)
  | writing (statement : String)
  | rowsRetrieved (count : Nat)
  | rowsAffected (count : Int)
  | readFailed (reason statement : String)
  | writeFailed (reason statement : String)
deriving DecidableEq, Repr

namespace Entry

/-- How grave an entry is. -/
inductive Level where
  | debug
  | error
deriving DecidableEq, Repr

/-- The activity that an entry comes from. -/
inductive Channel where
  | compile
  | access
  | execute
deriving DecidableEq, Repr

/-- Only failures of a database are errors. -/
def level : Entry → Level
  | readFailed .. | writeFailed .. => .error
  | _ => .debug

/-- Builders compile, accessors access, and all else is execution. -/
def channel : Entry → Channel
  | built .. => .compile
  | emptySelect .. | emptyWrite .. => .access
  | _ => .execute

/-- The entry in words. -/
def message : Entry → String
  | built verb statement => "Built " ++ verb ++ " statement: " ++ statement
  | emptySelect table => "Empty select on " ++ table ++ "; nothing executed"
  | emptyWrite table => "Empty write on " ++ table ++ "; nothing executed"
  | opening url => "Opening connection to " ++ url
  | reading statement => "Executing reader: " ++ statement
  | writing statement => "Executing command: " ++ statement
  | rowsRetrieved count => "Rows retrieved: " ++ toString count
  | rowsAffected count => "Rows affected: " ++ toString count
  | readFailed reason statement => "Read failed: " ++ reason ++ " [" ++ statement ++ "]"
  | writeFailed reason statement => "Write failed: " ++ reason ++ " [" ++ statement ++ "]"

end Entry

/-- What was seen of a run. -/
@[ext] structure Trace where
  events : List Event
  log : List Entry
deriving DecidableEq, Repr

namespace Trace

instance : EmptyCollection Trace := ⟨⟨[], []⟩⟩

instance : Append Trace := ⟨fun s t => ⟨s.events ++ t.events, s.log ++ t.log⟩⟩

variable {r s t : Trace}

@[simp] theorem events_empty : (∅ : Trace).events = [] := rfl
@[simp] theorem log_empty : (∅ : Trace).log = [] := rfl
@[simp] theorem events_append : (s ++ t).events = s.events ++ t.events := rfl
@[simp] theorem log_append : (s ++ t).log = s.log ++ t.log := rfl

@[simp] theorem empty_append : ∅ ++ t = t := rfl

@[simp] theorem append_empty : t ++ ∅ = t := by
  ext1 <;> simp

theorem append_assoc : r ++ s ++ t = r ++ (s ++ t) := by
  ext1 <;> simp

end Trace

end SqlText
