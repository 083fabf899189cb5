import SqlText.Access.Accessor
import SqlText.Proofs.Executor.Brackets
import SqlText.Proofs.Statement.Guards

/-!
# The contract of an accessor — refused, idle, or one call

The operations of an accessor differ in their action, in the request they make and in what
they make of the answer, and in nothing else: each of them asks for permission, builds the
statement for its request and passes it on (`perform_eq`). There are three ends. A forbidden
operation leaves a fault and no trace (`perform_of_forbidden`). One that asks for nothing
leaves an entry in the log. Any other hands over one statement, which begins with its verb
(`Request.opening_of_statement?`), and yields what comes back.

`Fulfils` holds the three ends with all that is seen of them. Whatever the operations of a
run are, each of them fulfils the contract, and the executor is reached by the calls of those
that are permitted and ask for something (`run_fulfils`).
-/

namespace SqlText

open Executor (Behaviour Call)

-- ── Verbs ─────────────────────────────────────────────────────────────────────

namespace Verb

/-- What a statement of the verb begins with. -/
def opening : Verb → String
  | select => "SELECT "
  | update => "UPDATE "
  | insert => "INSERT INTO "
  | delete => "DELETE FROM "

/-- How a statement of the verb is handed over: only a selection is read. -/
def call (statement : String) : Verb → Call
  | select => .read statement
  | update | insert | delete => .write statement

/-- What there is without a statement of the verb. -/
def nothing : Verb → Executor.Answer
  | select => .rows []
  | update | insert | delete => .count 0

/-- The entry that says that there was no statement of the verb for a table. -/
def idleEntry (table : String) : Verb → Entry
  | select => .emptySelect table
  | update | insert | delete => .emptyWrite table

end Verb

/-- A statement begins with its verb. -/
theorem Request.opening_of_statement? {v : Verb} {request : Request v} {table statement : String}
    (h : request.statement? table = some statement) : ∃ rest, statement = v.opening ++ rest := by
  cases request with
  | select criteria modifiers =>
      rw [statement?, Statement.select?_eq] at h
      obtain ⟨-, htext⟩ := Option.ite_none_left_eq_some.mp h
      -- the table is always named: something stands behind the verb, and a blank before it
      rw [List.append_assoc, List.append_assoc, List.append_assoc, List.append_assoc,
        List.singleton_append, String.intercalate_cons_of_ne_nil (by simp)] at htext
      exact ⟨_, (Option.some.inj htext).symm⟩
  | update assignments criteria =>
      rw [statement?, Statement.update?_eq] at h
      obtain ⟨-, htext⟩ := Option.ite_none_left_eq_some.mp h
      simp only [String.append_assoc] at htext
      exact ⟨_, (Option.some.inj htext).symm⟩
  | insert assignments =>
      rw [statement?, Statement.insert?_eq] at h
      obtain ⟨-, htext⟩ := Option.ite_none_left_eq_some.mp h
      simp only [String.append_assoc] at htext
      exact ⟨_, (Option.some.inj htext).symm⟩
  | delete criteria =>
      rw [statement?, Statement.delete?_eq] at h
      obtain ⟨-, htext⟩ := Option.ite_none_left_eq_some.mp h
      simp only [String.append_assoc] at htext
      exact ⟨_, (Option.some.inj htext).symm⟩

namespace Accessor

variable {a : Accessor} {b : Behaviour}

-- ── Operations as requests ────────────────────────────────────────────────────

/-- The row, if there is exactly one. -/
def only? : List Row → Option Row
  | [row] => some row
  | _ => none

namespace Operation

/-- The verb of the statement for an operation. -/
def verb : Operation → Verb
  | select .. | selectOne .. => .select
  | update .. | updateWhere .. => .update
  | insert .. => .insert
  | delete .. | deleteWhere .. => .delete

/-- What only looks at records selects them. -/
theorem verb_eq_select_iff (op : Operation) : op.verb = .select ↔ op.action.reads := by
  cases op <;> simp [verb, action, Access.Action.reads]

/-- What an operation asks of the records of a table. A key stands for one criterion. -/
def request (table : Table) : (op : Operation) → Request op.verb
  | select criteria modifiers => .select criteria modifiers
  | selectOne key => .select [.of table.primaryKey .equal key] ∅
  | update key assignments => .update assignments [.of table.primaryKey .equal key]
  | updateWhere assignments criteria => .update assignments criteria
  | insert assignments => .insert assignments
  | delete key => .delete [.of table.primaryKey .equal key]
  | deleteWhere criteria => .delete criteria

/-- The statement for an operation, unless it asks for nothing. -/
def statement? (table : Table) (op : Operation) : Option String :=
  (op.request table).statement? table.name

/-- What an operation yields for what the executor yields. -/
def receive (op : Operation) : Executor.Answer → Answer
  | .count affected => .count affected
  | .rows rows =>
    match op with
    | selectOne _ => .row (only? rows)
    | _ => .rows rows

end Operation

/-- What becomes of a statement of a verb that was built or not. -/
def settle (a : Accessor) (b : Behaviour) (v : Verb) : Option String → Outcome Executor.Answer
  | some statement => a.executor.perform b (v.call statement)
  | none => ⟨.ok v.nothing, ⟨[], [v.idleEntry a.table.name]⟩⟩

theorem settle_of_eq_select {v : Verb} (h : v = .select) :
    a.settle b v = fun statement? => .rows <$> a.readRows b statement? := by
  subst h
  funext statement?
  cases statement? <;> rfl

theorem settle_of_ne_select {v : Verb} (h : v ≠ .select) :
    a.settle b v = fun statement? => .count <$> a.writeRecords b statement? := by
  funext statement?
  cases v with
  | select => exact absurd rfl h
  | update | insert | delete => cases statement? <;> rfl

/-- An operation asks for permission, builds its statement, and passes it on. -/
def carry (a : Accessor) (b : Behaviour) (op : Operation) : Outcome Executor.Answer := do
  a.require op.action
  a.settle b op.verb (← a.build (op.request a.table))

theorem map_carry_of_reads (op : Operation) (h : op.action.reads = true) :
    op.receive <$> a.carry b op =
      a.require op.action >>= fun _ =>
        a.build (op.request a.table) >>= fun statement? =>
          a.readRows b statement? >>= fun rows => pure (op.receive (.rows rows)) := by
  have hverb : op.verb = .select := op.verb_eq_select_iff.mpr h
  simp only [carry, settle_of_eq_select hverb, map_bind, Functor.map_map, bind_pure_comp]

theorem map_carry_of_not_reads (op : Operation) (h : op.action.reads = false) :
    op.receive <$> a.carry b op =
      a.require op.action >>= fun _ =>
        a.build (op.request a.table) >>= fun statement? =>
          a.writeRecords b statement? >>= fun affected => pure (.count affected) := by
  have hverb : op.verb ≠ .select := by simp [op.verb_eq_select_iff, h]
  simp only [carry, settle_of_ne_select hverb, map_bind, Functor.map_map, bind_pure_comp]
  rfl

theorem perform_eq (op : Operation) : a.perform b op = op.receive <$> a.carry b op := by
  cases op with
  | select =>
      rw [map_carry_of_reads _ rfl, perform, select]
      simp only [map_bind, bind_pure_comp]
      rfl
  | selectOne key =>
      rw [map_carry_of_reads _ rfl, perform, selectOne]
      simp only [map_bind]
      refine bind_congr fun _ => bind_congr fun statement? => bind_congr fun rows => ?_
      match rows with
      | [] | [_] | _ :: _ :: _ => rfl
  | update | updateWhere | insert | delete | deleteWhere =>
      rw [map_carry_of_not_reads _ rfl]
      simp only [perform, update, updateWhere, insert, delete, deleteWhere, map_bind,
        bind_pure_comp]
      rfl

-- ── What an operation leaves ──────────────────────────────────────────────────

/-- A forbidden operation leaves no trace, whatever its arguments are. -/
theorem perform_of_forbidden (h : a.mode.permits op.action = false) :
    a.perform b op = .fail (.forbidden op.action a.mode) := by
  have hrequire : a.require op.action = .fail (.forbidden op.action a.mode) := by
    rw [require, h]
    rfl
  rw [perform_eq, carry, hrequire]
  rfl

/-- The report of a statement that was built. -/
def Operation.report (table : Table) (op : Operation) : List Entry :=
  (op.statement? table).toList.map (.built op.verb.name)

theorem build_request (op : Operation) : a.build (op.request a.table) =
    ⟨.ok (op.statement? a.table), ⟨[], op.report a.table⟩⟩ :=
  Outcome.ext (Builder.result_build _ _) (Builder.trace_build _ _)

theorem perform_of_permitted (h : a.mode.permits op.action = true) :
    a.perform b op =
      ⟨(a.settle b op.verb (op.statement? a.table)).result.map op.receive,
        ⟨[], op.report a.table⟩ ++ (a.settle b op.verb (op.statement? a.table)).trace⟩ := by
  have hrequire : a.require op.action = pure () := by
    rw [require, h]
    rfl
  rw [perform_eq, carry, hrequire, pure_bind, build_request, Outcome.bind_of_ok _ rfl,
    Outcome.map_eq]

/-- What an operation on an accessor leaves. -/
structure Fulfils (a : Accessor) (b : Behaviour) (op : Operation) (o : Outcome Answer) :
    Prop where
  /-- The two actions that look at records are permitted in the modes that read, the five
      others in the modes that write. -/
  permitted : a.mode.permits op.action = true ↔
    if op.action ∈ [.select, .selectOne] then a.mode ∈ [.read, .readWrite]
    else a.mode ∈ [.write, .readWrite]
  /-- A forbidden operation is refused, and nothing else happens. The fault shows the name of
      the action and the value of the mode. -/
  refused : a.mode.permits op.action = false →
    o = ⟨.error (.forbidden op.action a.mode), ⟨[], []⟩⟩
      ∧ (Fault.forbidden op.action a.mode).message =
        "Operation '" ++ op.action.name ++ "' is not supported by a '" ++ Named.name a.mode
          ++ "' accessor."
  /-- The statement is the one that the builder of the verb writes for the table. -/
  written : ((Builder.standard op.verb (.table a.table)).build (op.request a.table)).result =
    .ok (op.statement? a.table)
  /-- Without a statement no call is made, and the log says so. -/
  idle : a.mode.permits op.action = true → op.statement? a.table = none →
    o = ⟨.ok (op.receive op.verb.nothing), ⟨[], [op.verb.idleEntry a.table.name]⟩⟩
  /-- A statement begins with its verb and is handed over once, as the verb has it. What comes
      back is passed on, and the log of the call stands behind the report of the builder. -/
  executed : a.mode.permits op.action = true →
    ∀ statement, op.statement? a.table = some statement →
      (∃ rest, statement = op.verb.opening ++ rest) ∧
        o =
          let called := a.executor.perform b (op.verb.call statement)
          ⟨called.result.map op.receive,
            ⟨called.trace.events, .built op.verb.name statement :: called.trace.log⟩⟩

theorem perform_fulfils (a : Accessor) (b : Behaviour) (op : Operation) :
    Fulfils a b op (a.perform b op) where
  permitted := Access.Mode.permits_iff
  refused hforbidden := ⟨perform_of_forbidden hforbidden, rfl⟩
  written := Builder.result_build _ _
  idle hpermits hnone := by
    rw [perform_of_permitted hpermits, Operation.report, hnone]
    rfl
  executed hpermits statement hstatement := by
    refine ⟨Request.opening_of_statement? hstatement, ?_⟩
    rw [perform_of_permitted hpermits, Operation.report, hstatement]
    rfl

-- ── Runs of operations ────────────────────────────────────────────────────────

/-- The call that an operation makes, if it makes one. -/
def asked (a : Accessor) (op : Operation) : Option Call :=
  if a.mode.permits op.action then (op.statement? a.table).map (op.verb.call ·) else none

/-- An operation reaches the executor with the call it makes and with nothing else. -/
theorem Fulfils.events {o : Outcome Answer} (h : Fulfils a b op o) : o.trace.events =
    (a.executor.run ((a.asked op).map (b, ·)).toList).flatMap (·.trace.events) := by
  rw [asked]
  cases hpermits : a.mode.permits op.action with
  | false =>
      obtain ⟨ho, -⟩ := h.refused hpermits
      rw [ho]
      rfl
  | true =>
      cases hstatement : op.statement? a.table with
      | none =>
          rw [h.idle hpermits hstatement]
          rfl
      | some statement =>
          obtain ⟨-, ho⟩ := h.executed hpermits statement hstatement
          rw [ho]
          exact (List.append_nil _).symm

theorem forall₂_fulfils (a : Accessor) (steps : List (Behaviour × Operation)) :
    List.Forall₂ (fun step o => Fulfils a step.1 step.2 o) steps (a.run steps) := by
  induction steps with
  | nil => exact .nil
  | cons step steps ih => exact .cons (perform_fulfils a step.1 step.2) ih

/-- The calls that the operations of a run make, in order. -/
def calls (a : Accessor) (steps : List (Behaviour × Operation)) : List (Behaviour × Call) :=
  steps.filterMap fun step => (a.asked step.2).map (step.1, ·)

/-- A run reaches the executor as a run of its calls does. -/
theorem events_run (a : Accessor) (steps : List (Behaviour × Operation)) :
    (a.run steps).flatMap (·.trace.events) =
      (a.executor.run (a.calls steps)).flatMap (·.trace.events) := by
  induction steps with
  | nil => rfl
  | cons step steps ih =>
      have h := perform_fulfils a step.1 step.2
      show (a.perform step.1 step.2).trace.events ++ (a.run steps).flatMap (·.trace.events) = _
      rw [h.events, ih, calls, calls, List.filterMap_cons]
      cases a.asked step.2 with
      | none => rfl
      | some call => exact congrArg (· ++ _) (List.append_nil _)

/-- **REFUSED, IDLE OR ONE CALL**: whatever the operations of a run are and however the other
    side answers them, each leaves what its mode and its statement say, and the executor is
    reached by the calls of the permitted operations in order. A recorder in its place is
    handed those statements and no others. -/
theorem run_fulfils (a : Accessor) (steps : List (Behaviour × Operation)) :
    List.Forall₂ (fun step o => Fulfils a step.1 step.2 o) steps (a.run steps)
      ∧ (a.run steps).flatMap (·.trace.events) =
        (a.executor.run (a.calls steps)).flatMap (·.trace.events)
      ∧ (run { a with executor := .recorder } steps).flatMap (·.trace.events) =
        (a.calls steps).map (·.2.event) :=
  ⟨forall₂_fulfils a steps, events_run a steps,
    (events_run { a with executor := .recorder } steps).trans (Executor.events_run_recorder _)⟩

end Accessor

end SqlText
