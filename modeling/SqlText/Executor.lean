import SqlText.Outcome
import SqlText.Row

/-!
# Executors — what runs finished statements

A statement is run by an executor. A *recorder* only notes what it was handed. An
*engine* opens a connection for each statement and gives it back, and runs writes in a
transaction of their own.

How the other side answers is data (`Behaviour`): the rows it has, the number of
records it touches, and possibly a failure at one point of the way. A failure has its
effect only if the run gets to that point; it then ends the way, so that one is enough.
Failures of the database come out as a fault that carries the statement, and are logged;
failures of anything else come out as they are. The brackets hold on every path: a
connection that was opened is closed, and a transaction that was begun is committed or
rolled back.

Two things are assumed of the other side. Its failures are its own: a database, a driver
or a network fails, and none of them with one of the faults by which a table, a model or
a mode refuses something (`Failure`). And its brackets do what they are documented to do
on every way out of them (`connected`, `transacted`).
-/

namespace SqlText

namespace Executor

/-- A point of a run at which the other side may fail. -/
inductive Point where
  /-- While a connection or a transaction is opened. -/
  | connect
  /-- While the statement runs. -/
  | execute
  /-- After the last row was fetched. -/
  | fetch
  /-- While the transaction is committed. -/
  | commit
deriving DecidableEq, Repr

/-- A failure of the other side. It has no room for a fault of a configuration or of a
    capability: that what runs statements never fails with one of these is assumed. -/
structure Failure where
  point : Point
  /-- The database is to blame, and nothing else. -/
  ofDatabase : Bool
  reason : String
deriving DecidableEq, Repr

/-- The fault that a failure is before anybody puts it in context. -/
def Failure.fault (failure : Failure) : Fault :=
  if failure.ofDatabase then .database failure.reason else .foreign failure.reason

/-- How the other side answers one statement. -/
structure Behaviour where
  rows : List Row := []
  affected : Int := 1
  failure : Option Failure := none

/-- The fault at a point, if the other side fails there. -/
def Behaviour.faultAt (b : Behaviour) (point : Point) : Option Fault :=
  b.failure.bind fun failure => if failure.point = point then some failure.fault else none

/-- Gets past a point unless the other side fails there. -/
def Behaviour.pass (b : Behaviour) (point : Point) : Outcome Unit :=
  match b.faultAt point with
  | some fault => .fail fault
  | none => pure ()

end Executor

/-- What statements are run by. -/
inductive Executor where
  /-- Notes statements and answers them. -/
  | recorder
  /-- Runs statements on connections to the database at `url`. -/
  | engine (url : String)
deriving DecidableEq, Repr

namespace Executor

-- ── Brackets ──────────────────────────────────────────────────────────────────

variable {α : Type}

/-- Runs `body` on a connection, which is closed whatever becomes of `body`. Assumed of
    connections: one that cannot be opened leaves nothing to close, leaving the bracket
    closes the connection on every way out, and the closing itself does not fail. -/
def connected (b : Behaviour) (body : Outcome α) : Outcome α := do
  Outcome.emit .connect
  b.pass .connect
  body.resume fun result => do
    Outcome.emit .close
    Outcome.ofExcept result

/-- Runs `body` in a transaction, which is committed if `body` succeeds and rolled back
    if it fails or cannot be committed. Assumed of transactions: one that cannot be begun
    leaves nothing to end, each other one is ended once in one of these two ways, and the
    rolling back does not fail. -/
def transacted (b : Behaviour) (body : Outcome α) : Outcome α := do
  Outcome.emit .begin
  b.pass .connect
  body.resume fun result =>
    match result, b.faultAt .commit with
    | .ok a, none => do
      Outcome.emit .commit
      pure a
    | .ok _, some fault => do
      Outcome.emit .rollback
      Outcome.fail fault
    | .error fault, _ => do
      Outcome.emit .rollback
      Outcome.fail fault

/-- Logs a failure of the database and puts it in context. -/
def inContext (entry : String → Entry) (fault : String → Fault) (body : Outcome α) : Outcome α :=
  body.resume fun
    | .error (.database reason) => do
      Outcome.note (entry reason)
      Outcome.fail (fault reason)
    | result => .ofExcept result

/-- A bracket with its log: that it is opened, and then a failure of the database in it or
    what it yields. -/
def reported (url : String) (failed : String → Entry) (context : String → Fault)
    (done : α → Entry) (bracket : Outcome α) : Outcome α := do
  Outcome.note (.opening url)
  let a ← inContext failed context bracket
  Outcome.note (done a)
  pure a

-- ── Running ───────────────────────────────────────────────────────────────────

/-- Runs a statement on an open connection and fetches its rows. -/
def fetchRows (b : Behaviour) (statement : String) : Outcome (List Row) := do
  Outcome.note (.reading statement)
  Outcome.emit (.execute statement)
  b.pass .execute
  b.pass .fetch
  pure b.rows

/-- Runs a statement in an open transaction and counts the records it touched. -/
def countRecords (b : Behaviour) (statement : String) : Outcome Int := do
  Outcome.note (.writing statement)
  Outcome.emit (.execute statement)
  b.pass .execute
  pure b.affected

/-- Runs a statement for its rows. -/
def read (e : Executor) (b : Behaviour) (statement : String) : Outcome (List Row) :=
  match e with
  | recorder => do
    Outcome.emit (.read statement)
    b.pass .execute
    pure b.rows
  | engine url =>
    reported url (.readFailed · statement) (.readFailed · statement)
      (fun rows => .rowsRetrieved rows.length) (connected b (fetchRows b statement))

/-- Runs a statement for its effect and counts the records it touched. -/
def write (e : Executor) (b : Behaviour) (statement : String) : Outcome Int :=
  match e with
  | recorder => do
    Outcome.emit (.write statement)
    b.pass .execute
    pure b.affected
  | engine url =>
    reported url (.writeFailed · statement) (.writeFailed · statement) .rowsAffected
      (transacted b (countRecords b statement))

-- ── Calls ─────────────────────────────────────────────────────────────────────

/-- A statement handed over for its rows or for its effect. -/
inductive Call where
  | read (statement : String)
  | write (statement : String)
deriving DecidableEq, Repr

/-- The statement that is handed over. -/
def Call.statement : Call → String
  | read statement | write statement => statement

/-- What a call yields. -/
inductive Answer where
  | rows (rows : List Row)
  | count (affected : Int)

/-- Makes a call while the other side answers by `b`. -/
def perform (e : Executor) (b : Behaviour) : Call → Outcome Answer
  | .read statement => .rows <$> e.read b statement
  | .write statement => .count <$> e.write b statement

/-- Makes calls one after another, each whatever became of the others. -/
def run (e : Executor) (calls : List (Behaviour × Call)) : List (Outcome Answer) :=
  calls.map fun (b, call) => e.perform b call

-- ── Conformance ───────────────────────────────────────────────────────────────

/-- The methods that make something an executor. -/
def methods : List String :=
  ["execute_read", "execute_write"]

/-- Whether something with these methods can serve as an executor. -/
def conforms (available : List String) : Bool :=
  methods.all (· ∈ available)

end Executor

end SqlText
