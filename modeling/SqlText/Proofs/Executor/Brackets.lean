import Mathlib.Data.List.Forall2
import SqlText.Executor

/-!
# Brackets — what an engine opens it closes, and what it begins it ends

An engine runs each statement between an opening and an ending, and the other side may fail
at any point in between or at either end. Here the two brackets are described for whatever
stands in them: a connection that was opened is closed (`connected_eq`), and a transaction
that was begun is committed if its result stands and rolled back if not (`transacted_eq`).

A call passes its points in order, and the first one that fails ends the way
(`through_cons`). What a call leaves — its result, its events and its log — is therefore
known from the failure it reaches, if any (`bracketed_perform`), and a run of calls leaves
balanced books: one closing for each connection that was opened, one ending for each
transaction that was begun, one commit for each count that was returned
(`run_engine_bracketed`). A recorder has no brackets; it notes each call
(`perform_recorder`).
-/

namespace SqlText.Executor

variable {α β : Type} {b : Behaviour} {statement url : String}

-- ── Failures on the way ───────────────────────────────────────────────────────

/-- The failure of the other side, if a way through these points gets to it. -/
def Behaviour.reached (b : Behaviour) (points : List Point) : Option Failure :=
  b.failure.filter (·.point ∈ points)

/-- The fault for a failure, with those of the database put in context. -/
def Failure.inWords (context : String → Fault) (failure : Failure) : Fault :=
  if failure.ofDatabase then context failure.reason else .foreign failure.reason

/-- What comes of a way through these points: `a`, unless a failure is reached. -/
def Behaviour.through (b : Behaviour) (points : List Point) (context : String → Fault) (a : α) :
    Except Fault α :=
  match b.reached points with
  | none => .ok a
  | some failure => .error (failure.inWords context)

@[simp] theorem through_nil {context : String → Fault} {a : α} :
    b.through [] context a = .ok a := by
  rw [Behaviour.through, Behaviour.reached]
  cases b.failure <;> rfl

/-- The points are passed in order, and a failure at one of them ends the way. -/
theorem through_cons (point : Point) (points : List Point) (a : α) :
    b.through (point :: points) .database a =
      match b.faultAt point with
      | some fault => .error fault
      | none => b.through points .database a := by
  simp only [Behaviour.through, Behaviour.reached, Behaviour.faultAt]
  cases b.failure with
  | none => rfl
  | some failure =>
      by_cases h : failure.point = point
      · simp [Option.filter_some, h, Failure.inWords, Failure.fault]
      · simp [Option.filter_some, h]

theorem through_eq_ok_iff {points : List Point} {context : String → Fault} {a c : α} :
    b.through points context a = .ok c ↔ b.reached points = none ∧ a = c := by
  rw [Behaviour.through]
  cases b.reached points <;> simp

theorem pass_bind {point : Point} (f : Unit → Outcome α) : b.pass point >>= f =
    match b.faultAt point with
    | some fault => .fail fault
    | none => f () := by
  rw [Behaviour.pass]
  cases b.faultAt point <;> rfl

-- ── Inside the brackets ───────────────────────────────────────────────────────

/-- The statement is run once, whether or not its rows can be fetched. -/
theorem fetchRows_eq : fetchRows b statement =
    ⟨b.through [.execute, .fetch] .database b.rows,
      ⟨[.execute statement], [.reading statement]⟩⟩ := by
  simp only [fetchRows, pass_bind, through_cons, through_nil]
  cases b.faultAt .execute with
  | some fault => rfl
  | none => cases b.faultAt .fetch <;> rfl

theorem countRecords_eq : countRecords b statement =
    ⟨b.through [.execute] .database b.affected,
      ⟨[.execute statement], [.writing statement]⟩⟩ := by
  simp only [countRecords, pass_bind, through_cons, through_nil]
  cases b.faultAt .execute <;> rfl

-- ── The brackets ──────────────────────────────────────────────────────────────

/-- **A CONNECTION IS CLOSED**: if it can be opened, it is closed behind whatever the body
    leaves, and the result is the body's. -/
theorem connected_eq (body : Outcome α) : connected b body =
    match b.faultAt .connect with
    | some fault => ⟨.error fault, ⟨[.connect], []⟩⟩
    | none => ⟨body.result, ⟨.connect :: (body.trace.events ++ [.close]), body.trace.log⟩⟩ := by
  rw [connected, pass_bind]
  cases b.faultAt .connect with
  | some fault => rfl
  | none => exact Outcome.ext rfl (Trace.ext rfl (List.append_nil _))

/-- A result, if it can be committed. -/
def Behaviour.committed (b : Behaviour) (result : Except Fault α) : Except Fault α :=
  result.bind (b.through [.commit] .database)

/-- How a transaction with this result ends. -/
def settling : Except Fault α → Event
  | .ok _ => .commit
  | .error _ => .rollback

/-- **A TRANSACTION IS ENDED**: if it can be begun, it is ended once behind whatever the body
    leaves, and it is committed exactly if there is a result. -/
theorem transacted_eq (body : Outcome α) : transacted b body =
    match b.faultAt .connect with
    | some fault => ⟨.error fault, ⟨[.begin], []⟩⟩
    | none =>
      ⟨b.committed body.result,
        ⟨.begin :: (body.trace.events ++ [settling (b.committed body.result)]),
          body.trace.log⟩⟩ := by
  rw [transacted, pass_bind]
  cases b.faultAt .connect with
  | some fault => rfl
  | none =>
      obtain ⟨result, trace⟩ := body
      cases result with
      | error fault => exact Outcome.ext rfl (Trace.ext rfl (List.append_nil _))
      | ok a =>
          simp only [Behaviour.committed, Except.bind, through_cons, through_nil, Outcome.resume]
          cases b.faultAt .commit <;>
            exact Outcome.ext rfl (Trace.ext rfl (List.append_nil _))

-- ── The log around a bracket ──────────────────────────────────────────────────

/-- The entry that a failure leaves if it is of the database. -/
def Failure.entries (failed : String → Entry) (failure : Failure) : List Entry :=
  if failure.ofDatabase then [failed failure.reason] else []

/-- The entries behind a way through these points. -/
def Behaviour.conclusion (b : Behaviour) (points : List Point) (failed : String → Entry)
    (success : Entry) : List Entry :=
  match b.reached points with
  | none => [success]
  | some failure => failure.entries failed

/-- The events are those of the bracket. A failure of the database comes out in context, and
    the log goes on with what became of the bracket. -/
theorem reported_eq {bracket : Outcome α} {points : List Point} {a : α} (failed : String → Entry)
    (context : String → Fault) (done : α → Entry)
    (h : bracket.result = b.through points .database a) :
    reported url failed context done bracket =
      ⟨b.through points context a,
        ⟨bracket.trace.events,
          .opening url :: (bracket.trace.log ++ b.conclusion points failed (done a))⟩⟩ := by
  obtain ⟨result, trace⟩ := bracket
  obtain rfl : result = b.through points .database a := h
  have hevents : trace.events ++ [] ++ [] = trace.events := by
    rw [List.append_nil, List.append_nil]
  rw [Behaviour.through, Behaviour.through, Behaviour.conclusion]
  cases b.reached points with
  | none =>
      refine Outcome.ext rfl (Trace.ext hevents ?_)
      show .opening url :: (trace.log ++ [] ++ [done a]) = _
      rw [List.append_nil]
  | some failure =>
      obtain ⟨point, ofDatabase, reason⟩ := failure
      cases ofDatabase with
      | true =>
          refine Outcome.ext rfl (Trace.ext hevents ?_)
          show .opening url :: (trace.log ++ [failed reason] ++ []) = _
          rw [List.append_nil]
          rfl
      | false =>
          refine Outcome.ext rfl (Trace.ext hevents ?_)
          show .opening url :: (trace.log ++ [] ++ []) = _
          rw [List.append_nil]
          rfl

-- ── One call ──────────────────────────────────────────────────────────────────

namespace Call

/-- The points that a call passes, in order. -/
def points : Call → List Point
  | read _ => [.connect, .execute, .fetch]
  | write _ => [.connect, .execute, .commit]

/-- What a call yields if nothing fails: all rows in order, or the count. -/
def answer (b : Behaviour) : Call → Answer
  | read _ => .rows b.rows
  | write _ => .count b.affected

/-- The fault for a failure of the database. It carries the statement. -/
def fault : Call → String → Fault
  | read statement, reason => .readFailed reason statement
  | write statement, reason => .writeFailed reason statement

/-- The event that asks for a connection or a transaction. -/
def opening : Call → Event
  | read _ => .connect
  | write _ => .begin

/-- The event that ends it, by the result of the call. -/
def ending (result : Except Fault Answer) : Call → Event
  | read _ => .close
  | write _ => settling result

/-- The entry that announces the statement. -/
def announcement : Call → Entry
  | read statement => .reading statement
  | write statement => .writing statement

/-- The entry for what the call yields. -/
def success (b : Behaviour) : Call → Entry
  | read _ => .rowsRetrieved b.rows.length
  | write _ => .rowsAffected b.affected

/-- The entry for a failure of the database. -/
def complaint : Call → String → Entry
  | read statement, reason => .readFailed reason statement
  | write statement, reason => .writeFailed reason statement

end Call

/-- The connection or the transaction that is asked for is opened. -/
def Behaviour.opens (b : Behaviour) : Bool :=
  (b.faultAt .connect).isNone

/-- What a call on an engine leaves. -/
structure Bracketed (url : String) (b : Behaviour) (call : Call) (o : Outcome Answer) : Prop where
  /-- The result is that of the way through the points of the call. -/
  result : o.result = b.through call.points call.fault (call.answer b)
  /-- One connection or transaction is asked for. If it is opened, the statement is run once
      in it, and it is ended once. -/
  events : o.trace.events =
    call.opening :: if b.opens then [.execute call.statement, call.ending o.result] else []
  /-- The log tells the way and how it ended. -/
  log : o.trace.log =
    .opening url :: ((if b.opens then [call.announcement] else [])
      ++ b.conclusion call.points call.complaint (call.success b))

theorem connected_fetchRows : connected b (fetchRows b statement) =
    ⟨b.through [.connect, .execute, .fetch] .database b.rows,
      ⟨.connect :: (if b.opens then [.execute statement, .close] else []),
        if b.opens then [.reading statement] else []⟩⟩ := by
  rw [connected_eq, fetchRows_eq, Behaviour.opens, through_cons .connect]
  cases b.faultAt .connect <;> rfl

theorem transacted_countRecords : transacted b (countRecords b statement) =
    ⟨b.through [.connect, .execute, .commit] .database b.affected,
      ⟨.begin :: (if b.opens then
          [.execute statement,
            settling (b.through [.connect, .execute, .commit] .database b.affected)]
        else []),
        if b.opens then [.writing statement] else []⟩⟩ := by
  have hcommit : b.committed (b.through [.execute] .database b.affected) =
      b.through [.execute, .commit] .database b.affected := by
    rw [through_cons, through_cons .execute, through_nil]
    cases b.faultAt .execute <;> rfl
  rw [transacted_eq, countRecords_eq, hcommit, Behaviour.opens, through_cons .connect]
  cases b.faultAt .connect <;> rfl

theorem map_through {points : List Point} {context : String → Fault} (f : α → β) (a : α) :
    (b.through points context a).map f = b.through points context (f a) := by
  rw [Behaviour.through, Behaviour.through]
  cases b.reached points <;> rfl

/-- How a transaction ends is known from the points it gets to. -/
theorem settling_through {points : List Point} (context context' : String → Fault) (a : α)
    (c : β) :
    settling (b.through points context a) = settling (b.through points context' c) := by
  rw [Behaviour.through, Behaviour.through]
  cases b.reached points <;> rfl

/-- The statement is run once in a transaction, which is ended by what comes out. -/
theorem write_engine (url : String) (b : Behaviour) (statement : String) :
    (engine url).write b statement =
      let result := b.through [.connect, .execute, .commit] (.writeFailed · statement) b.affected
      ⟨result,
        ⟨.begin :: (if b.opens then [.execute statement, settling result] else []),
          .opening url :: ((if b.opens then [.writing statement] else [])
            ++ b.conclusion [.connect, .execute, .commit] (.writeFailed · statement)
              (.rowsAffected b.affected))⟩⟩ := by
  rw [write, transacted_countRecords, reported_eq _ _ _ rfl,
    settling_through .database (.writeFailed · statement) _ b.affected]

theorem bracketed_perform (url : String) (b : Behaviour) (call : Call) :
    Bracketed url b call ((engine url).perform b call) := by
  cases call with
  | read statement =>
      rw [perform, read, connected_fetchRows, Outcome.map_eq, reported_eq _ _ _ rfl, map_through]
      exact ⟨rfl, rfl, rfl⟩
  | write statement =>
      simp only [perform, write_engine, Outcome.map_eq, map_through]
      rw [settling_through (.writeFailed · statement) (Call.write statement).fault _
        (Answer.count b.affected)]
      exact ⟨rfl, rfl, rfl⟩

/-- The call is for rows. -/
def Call.reads : Call → Bool
  | read _ => true
  | write _ => false

/-- A count was returned. -/
def counted (o : Outcome Answer) : Bool :=
  match o.result with
  | .ok (.count _) => true
  | _ => false

theorem counted_iff {o : Outcome Answer} :
    counted o ↔ ∃ affected, o.result = .ok (.count affected) := by
  rw [counted]
  constructor
  · intro h
    split at h
    case h_1 affected ho => exact ⟨affected, ho⟩
    case h_2 => cases h
  · rintro ⟨affected, ho⟩
    rw [ho]

namespace Bracketed

variable {call : Call} {o : Outcome Answer}

theorem ok_iff {answer : Answer} (h : Bracketed url b call o) :
    o.result = .ok answer ↔ b.reached call.points = none ∧ call.answer b = answer := by
  rw [h.result, through_eq_ok_iff]

theorem result_of_reached {failure : Failure} (h : Bracketed url b call o)
    (hr : b.reached call.points = some failure) :
    o.result = .error (failure.inWords call.fault) := by
  rw [h.result, Behaviour.through, hr]

/-- What fails to open has no result. -/
theorem opens_of_ok {answer : Answer} (h : Bracketed url b call o) (ho : o.result = .ok answer) :
    b.opens = true := by
  obtain ⟨hreached, -⟩ := h.ok_iff.mp ho
  have hconnect : .connect ∈ call.points := by cases call <;> simp [Call.points]
  rw [Behaviour.opens, Behaviour.faultAt]
  cases hb : b.failure with
  | none => rfl
  | some failure =>
      have hpoint : failure.point ≠ .connect := by
        rintro hp
        simp [Behaviour.reached, hb, Option.filter_some, hp, hconnect] at hreached
      simp [hpoint]

/-- A transaction is committed exactly if a count is returned. -/
theorem commit_mem_iff (h : Bracketed url b call o) :
    .commit ∈ o.trace.events ↔ counted o := by
  rw [counted_iff]
  constructor
  · intro hmem
    rw [h.events] at hmem
    cases call with
    | read statement => cases b.opens <;> simp [Call.opening, Call.ending] at hmem
    | write statement =>
        cases ho : o.result with
        | ok answer =>
            obtain ⟨-, hanswer⟩ := h.ok_iff.mp ho
            exact ⟨b.affected, by rw [← hanswer]; rfl⟩
        | error fault =>
            rw [ho] at hmem
            cases b.opens <;> simp [Call.opening, Call.ending, settling] at hmem
  · rintro ⟨affected, ho⟩
    obtain ⟨-, hanswer⟩ := h.ok_iff.mp ho
    rw [h.events, h.opens_of_ok ho, ho]
    cases call with
    | read statement => cases hanswer
    | write statement => simp [Call.ending, settling]

theorem count_close (h : Bracketed url b call o) :
    o.trace.events.count .close = if call.reads && b.opens then 1 else 0 := by
  rw [h.events]
  cases call with
  | read statement => cases b.opens <;> simp [Call.opening, Call.ending, Call.reads]
  | write statement =>
      cases b.opens <;> cases o.result <;> simp [Call.opening, Call.ending, Call.reads, settling]

theorem count_settled (h : Bracketed url b call o) :
    o.trace.events.count .commit + o.trace.events.count .rollback =
      if !call.reads && b.opens then 1 else 0 := by
  rw [h.events]
  cases call with
  | read statement => cases b.opens <;> simp [Call.opening, Call.ending, Call.reads]
  | write statement =>
      cases b.opens <;> cases o.result <;> simp [Call.opening, Call.ending, Call.reads, settling]

theorem count_commit (h : Bracketed url b call o) :
    o.trace.events.count .commit = if counted o then 1 else 0 := by
  by_cases hcounted : counted o
  · have hpos := List.count_pos_iff.2 (h.commit_mem_iff.2 hcounted)
    have hsettled := h.count_settled
    rw [if_pos hcounted]
    split at hsettled <;> omega
  · rw [if_neg hcounted]
    exact List.count_eq_zero.2 fun hmem => hcounted (h.commit_mem_iff.1 hmem)

/-- An error is logged exactly for a failure of the database that is reached, and once. -/
theorem countP_error (h : Bracketed url b call o) :
    o.trace.log.countP (·.level = .error) =
      if (b.reached call.points).any (·.ofDatabase) then 1 else 0 := by
  have hcomplaint (reason) : (call.complaint reason).level = .error := by cases call <;> rfl
  have hannounced : call.announcement.level = .debug := by cases call <;> rfl
  have hsuccess : (call.success b).level = .debug := by cases call <;> rfl
  have hopening : Entry.level (.opening url) = .debug := rfl
  have hconclusion : (b.conclusion call.points call.complaint (call.success b)).countP
      (·.level = .error) = if (b.reached call.points).any (·.ofDatabase) then 1 else 0 := by
    rw [Behaviour.conclusion]
    cases b.reached call.points with
    | none => simp [hsuccess]
    | some failure =>
        cases hd : failure.ofDatabase <;> simp [Failure.entries, hd, hcomplaint]
  rw [h.log, List.countP_cons, List.countP_append, hconclusion]
  cases b.opens <;> simp [hopening, hannounced]

end Bracketed

-- ── A recorder ────────────────────────────────────────────────────────────────

/-- A call as a recorder notes it. -/
def Call.event : Call → Event
  | read statement => .read statement
  | write statement => .write statement

/-- A recorder opens nothing. It notes the call and answers it. -/
theorem perform_recorder (b : Behaviour) (call : Call) : recorder.perform b call =
    ⟨b.through [.execute] .database (call.answer b), ⟨[call.event], []⟩⟩ := by
  cases call <;>
    simp only [perform, read, write, pass_bind, Outcome.map_eq, through_cons, through_nil] <;>
    cases b.faultAt .execute <;> rfl

theorem write_recorder (b : Behaviour) (statement : String) : recorder.write b statement =
    ⟨b.through [.execute] .database b.affected, ⟨[.write statement], []⟩⟩ := by
  simp only [write, pass_bind, through_cons, through_nil]
  cases b.faultAt .execute <;> rfl

theorem events_run_recorder (calls : List (Behaviour × Call)) :
    (recorder.run calls).flatMap (·.trace.events) = calls.map (·.2.event) := by
  induction calls with
  | nil => rfl
  | cons call calls ih =>
      show (recorder.perform call.1 call.2).trace.events
        ++ (recorder.run calls).flatMap (·.trace.events) = _
      rw [perform_recorder, ih]
      rfl

-- ── Runs of calls ─────────────────────────────────────────────────────────────

/-- What can be told of a call from its outcome alone. -/
structure Accounted (b : Behaviour) (call : Call) (o : Outcome Answer) : Prop where
  /-- All rows, or the count, are returned exactly if no failure is reached. -/
  answered : o.result = .ok (call.answer b) ↔ b.reached call.points = none
  /-- A count is returned exactly if the transaction was committed. -/
  committed : (∃ affected, o.result = .ok (.count affected)) ↔ .commit ∈ o.trace.events
  /-- A failure of the database that is reached comes out with the statement. -/
  explained : ∀ failure, b.reached call.points = some failure → failure.ofDatabase →
    o.result = .error (call.fault failure.reason)
      ∧ (call.fault failure.reason).message =
        (if call.reads then "Read failed: " else "Write failed: ") ++ failure.reason
  /-- Any other failure that is reached comes out as it is. -/
  unchanged : ∀ failure, b.reached call.points = some failure → ¬failure.ofDatabase →
    o.result = .error (.foreign failure.reason)
  /-- A failure of the database is the only thing that is logged as an error. -/
  complained : o.trace.log.countP (·.level = .error) =
    if (b.reached call.points).any (·.ofDatabase) then 1 else 0

theorem Bracketed.accounted {call : Call} {o : Outcome Answer} (h : Bracketed url b call o) :
    Accounted b call o where
  answered := h.ok_iff.trans (and_iff_left rfl)
  committed := counted_iff.symm.trans h.commit_mem_iff.symm
  explained failure hr hd := by
    refine ⟨?_, by cases call <;> rfl⟩
    rw [h.result_of_reached hr, Failure.inWords, if_pos hd]
  unchanged failure hr hd := by
    rw [h.result_of_reached hr, Failure.inWords, if_neg hd]
  complained := h.countP_error

/-- The books of a run: what was opened against what was closed, and what was begun against
    what was ended. -/
structure Balanced (calls : List (Behaviour × Call)) (outcomes : List (Outcome Answer)) :
    Prop where
  closed : (outcomes.flatMap (·.trace.events)).count .close =
    calls.countP fun call => call.2.reads && call.1.opens
  settled : (outcomes.flatMap (·.trace.events)).count .commit
      + (outcomes.flatMap (·.trace.events)).count .rollback =
    calls.countP fun call => !call.2.reads && call.1.opens
  committed : (outcomes.flatMap (·.trace.events)).count .commit = outcomes.countP counted

/-- One more bracketed call keeps the books balanced. -/
theorem Balanced.cons {calls : List (Behaviour × Call)} {outcomes : List (Outcome Answer)}
    {call : Call} {o : Outcome Answer} (h : Bracketed url b call o)
    (hs : Balanced calls outcomes) : Balanced ((b, call) :: calls) (o :: outcomes) := by
  have hclose := h.count_close
  have hsettled := h.count_settled
  have hcommit := h.count_commit
  have hcloses := hs.closed
  have hends := hs.settled
  have hcommits := hs.committed
  constructor <;> simp only [List.flatMap_cons, List.count_append, List.countP_cons] <;> omega

/-- **A RUN OF CALLS LEAVES NOTHING OPEN**: each call opens one connection or transaction at
    most and runs no statement but its own in it, whatever fails on the way, and over the
    whole run there is one closing for each connection that was opened, one ending for each
    transaction that was begun and one commit for each count that was returned. -/
theorem run_engine_bracketed (url : String) (calls : List (Behaviour × Call)) :
    List.Forall₂ (fun call o => Bracketed url call.1 call.2 o ∧ Accounted call.1 call.2 o)
        calls ((engine url).run calls)
      ∧ Balanced calls ((engine url).run calls) := by
  induction calls with
  | nil => exact ⟨.nil, ⟨rfl, rfl, rfl⟩⟩
  | cons call calls ih =>
      obtain ⟨b, call⟩ := call
      have h := bracketed_perform url b call
      exact ⟨.cons ⟨h, h.accounted⟩ ih.1, ih.2.cons h⟩

end SqlText.Executor
