import SqlText.Proofs.Executor.Brackets
import SqlText.Proofs.Record.Plans

/-!
# Confinement — a repository stays on its side and fails before it writes

An outcome is confined to a verb if it shows one call of the verb at most, no refusal by an
accessor, and no trace at all if tables and records turn out not to fit (`Confined`).

An executor fails by its statement or by something outside (`Executor.sort_of_perform`): that
it never fails with a fault of a configuration or of a capability is assumed of the other side
and built into `Executor.Failure`. So an accessor that permits an operation confines it to its
verb (`Accessor.confined_perform`). A repository adds checks in front, which leave no trace, and
readings behind, which fail for the data alone (`Confined.of_echoes`). So whatever follows its
plan is confined (`Follows.confined`), and with it every operation of a run (`run_confined`).
-/

namespace SqlText

open Executor (Behaviour)

variable {α β : Type} {e : Executor} {b : Behaviour} {v : Verb} {o : Outcome α}

-- ── Calls of one verb ─────────────────────────────────────────────────────────

namespace Event

/-- The event belongs to a reading. -/
def ofReading : Event → Bool
  | read _ | connect | execute _ | close => true
  | _ => false

/-- The event belongs to a writing. -/
def ofWriting : Event → Bool
  | write _ | begin | execute _ | commit | rollback => true
  | _ => false

end Event

/-- The event belongs to a call of the verb. -/
def Verb.admits (event : Event) : Verb → Bool
  | .select => event.ofReading
  | .update | .insert | .delete => event.ofWriting

namespace Executor

theorem sort_of_through {points : List Point} {context : String → Fault} {a : α} {fault : Fault}
    (hcontext : ∀ reason, (context reason).sort = .execution ∨ (context reason).sort = .outside)
    (h : b.through points context a = .error fault) :
    fault.sort = .execution ∨ fault.sort = .outside := by
  rw [Behaviour.through] at h
  cases hr : b.reached points with
  | none =>
      rw [hr] at h
      cases h
  | some failure =>
      rw [hr] at h
      obtain rfl : failure.inWords context = fault := Except.error.inj h
      rw [Failure.inWords]
      split
      · exact hcontext failure.reason
      · exact .inr rfl

/-- An executor fails by its statement or by something outside, never by a permission or by
    a table that does not fit. -/
theorem sort_of_perform {call : Call} {fault : Fault}
    (h : (e.perform b call).result = .error fault) :
    fault.sort = .execution ∨ fault.sort = .outside := by
  cases e with
  | recorder =>
      rw [perform_recorder] at h
      exact sort_of_through (fun _ => .inr rfl) h
  | engine url =>
      rw [(bracketed_perform url b call).result] at h
      refine sort_of_through ?_ h
      intro reason
      cases call <;> exact .inl rfl

theorem admits_of_mem_perform {statement : String} :
    ∀ event ∈ (e.perform b (v.call statement)).trace.events, v.admits event := by
  cases e with
  | recorder =>
      rw [perform_recorder]
      cases v <;> simp [Verb.call, Verb.admits, Call.event, Event.ofReading, Event.ofWriting]
  | engine url =>
      rw [(bracketed_perform url b (v.call statement)).events]
      generalize ((engine url).perform b (v.call statement)).result = result
      cases v <;> cases b.opens <;> cases result <;>
        simp [Verb.call, Verb.admits, Call.opening, Call.ending, settling, Event.ofReading,
          Event.ofWriting]

end Executor

/-- An outcome that shows one call of a verb at most. -/
structure Confined (e : Executor) (b : Behaviour) (v : Verb) (o : Outcome α) : Prop where
  /-- The executor was not reached, or by one call with a statement of the verb. -/
  called : o.trace.events = [] ∨ ∃ rest,
    o.trace.events = (e.perform b (v.call (v.opening ++ rest))).trace.events
  /-- No event is of the other side. -/
  admitted : ∀ event ∈ o.trace.events, v.admits event
  /-- Nothing was refused for want of permission. -/
  permitted : ∀ fault, o.result = .error fault → fault.sort ≠ .capability
  /-- What does not fit was found before anything was built or run. -/
  early : ∀ fault, o.result = .error fault → fault.sort = .configuration → o.trace = ∅

namespace Confined

theorem of_silent (htrace : o.trace = ∅)
    (h : ∀ fault, o.result = .error fault → fault.sort ≠ .capability) : Confined e b v o where
  called := .inl (by rw [htrace]; rfl)
  admitted := by simp [htrace]
  permitted := h
  early _ _ _ := htrace

/-- What is made of one call with a statement of the verb. -/
theorem of_call {statement : String} (hopening : ∃ rest, statement = v.opening ++ rest)
    (hevents : o.trace.events = (e.perform b (v.call statement)).trace.events)
    (herror : ∀ fault, o.result = .error fault →
      (e.perform b (v.call statement)).result = .error fault) : Confined e b v o where
  called := by
    obtain ⟨rest, rfl⟩ := hopening
    exact .inr ⟨rest, hevents⟩
  admitted := by
    rw [hevents]
    exact Executor.admits_of_mem_perform
  permitted fault hfault := by
    rcases Executor.sort_of_perform (herror fault hfault) with hsort | hsort <;> simp [hsort]
  early fault hfault hconfiguration := by
    rcases Executor.sort_of_perform (herror fault hfault) with hsort | hsort <;>
      simp [hsort] at hconfiguration

/-- A reading of what is confined is confined. -/
theorem of_echoes {x : Outcome β} (h : Confined e b v x) (hx : Echoes x o) :
    Confined e b v o where
  called := hx.trace ▸ h.called
  admitted := hx.trace ▸ h.admitted
  permitted fault hfault := by
    rcases hx.failed fault hfault with hresult | hsort
    · exact h.permitted fault hresult
    · simp [hsort]
  early fault hfault hconfiguration := by
    rcases hx.failed fault hfault with hresult | hsort
    · rw [hx.trace]
      exact h.early fault hresult hconfiguration
    · simp [hsort] at hconfiguration

end Confined

/-- An operation that its accessor permits is confined to its verb. -/
theorem Accessor.confined_perform {a : Accessor} {op : Accessor.Operation}
    (hpermits : a.mode.permits op.action = true) :
    Confined a.executor b op.verb (a.perform b op) := by
  have h := perform_fulfils a b op
  cases hstatement : op.statement? a.table with
  | none =>
      rw [h.idle hpermits hstatement]
      exact ⟨.inl rfl, nofun, nofun, nofun⟩
  | some statement =>
      obtain ⟨hopening, ho⟩ := h.executed hpermits statement hstatement
      rw [ho]
      refine Confined.of_call hopening rfl ?_
      intro fault hfault
      exact map_eq_error_iff.mp hfault

-- ── Repositories ──────────────────────────────────────────────────────────────

namespace Repository

variable {repo : Repository}

/-- What follows a plan is confined to the verb of the operation. -/
theorem Follows.confined {op : Operation repo.model} {o : Outcome (Answer repo.model)}
    (h : Follows repo b op o) : Confined repo.executor b op.verb o := by
  rw [Follows] at h
  cases hplan : repo.plan op with
  | error fault =>
      rw [hplan] at h
      obtain rfl : o = .fail fault := h
      refine .of_silent rfl ?_
      intro fault' hfault
      rw [← Except.error.inj hfault, repo.plan_failsBy op fault hplan]
      decide
  | ok asked? =>
      rw [hplan] at h
      cases asked? with
      | none =>
          obtain rfl : o = .ofExcept (.ok (.revision .kept)) := h
          refine .of_silent rfl ?_
          intro fault hfault
          cases hfault
      | some asked =>
          obtain ⟨hverb, hpermits⟩ := plan_permitted hplan
          have hdone : Confined (repo.accessor op.verb).executor b asked.verb
              ((repo.accessor op.verb).perform b asked) := Accessor.confined_perform hpermits
          rw [hverb, executor_accessor] at hdone
          exact hdone.of_echoes h

/-- **A REPOSITORY STAYS ON ITS SIDE**: in a run of operations, whatever their arguments are and
    whatever fails, each follows its plan. A `get` or `find` shows one selection at most and no
    event of a writing; an `insert`, `update` or `delete` shows one statement of its verb at
    most and no event of a reading. No accessor refuses what it is asked, and what does not
    fit together is found before anything is built or run. Both are about the faults of
    repositories and accessors; those of an executor are assumed to be of other sorts. -/
theorem run_confined (repo : Repository) (steps : List (Behaviour × Operation repo.model)) :
    List.Forall₂
      (fun step o => Follows repo step.1 step.2 o ∧ Confined repo.executor step.1 step.2.verb o)
      steps (repo.run steps) := by
  induction steps with
  | nil => exact .nil
  | cons step steps ih =>
      have h := perform_follows repo step.1 step.2
      exact .cons ⟨h, h.confined⟩ ih

end Repository

end SqlText
