import SqlText.Fault
import SqlText.Trace

/-!
# Outcomes — a result or a fault, and the trace that led to it

Whatever can fail and be seen from outside ends in an `Outcome`. Outcomes compose in
order: the traces are put behind one another, and a fault ends the composition but
keeps the trace so far. `resume` goes on whatever the result was; brackets around a
connection or a transaction are made of it.
-/

namespace SqlText

/-- A result or a fault, with what was seen on the way. -/
@[ext] structure Outcome (α : Type) where
  result : Except Fault α
  trace : Trace

namespace Outcome

variable {α β : Type}

/-- Goes on with the result of `x`, whatever it is. -/
def resume (x : Outcome α) (f : Except Fault α → Outcome β) : Outcome β :=
  let next := f x.result
  ⟨next.result, x.trace ++ next.trace⟩

/-- Nothing was seen. -/
def ofExcept (result : Except Fault α) : Outcome α :=
  ⟨result, ∅⟩

/-- The fault, with nothing seen. -/
def fail (fault : Fault) : Outcome α :=
  ofExcept (.error fault)

/-- One event. -/
def emit (event : Event) : Outcome Unit :=
  ⟨.ok (), ⟨[event], []⟩⟩

/-- One log entry. -/
def note (entry : Entry) : Outcome Unit :=
  ⟨.ok (), ⟨[], [entry]⟩⟩

instance : Monad Outcome where
  pure a := ofExcept (.ok a)
  bind x f := x.resume fun
    | .ok a => f a
    | .error fault => fail fault

@[simp] theorem result_pure (a : α) : (pure a : Outcome α).result = .ok a := rfl
@[simp] theorem trace_pure (a : α) : (pure a : Outcome α).trace = ∅ := rfl

@[simp] theorem result_ofExcept (result : Except Fault α) : (ofExcept result).result = result :=
  rfl

@[simp] theorem trace_ofExcept (result : Except Fault α) : (ofExcept result).trace = ∅ := rfl

@[simp] theorem result_fail (fault : Fault) : (fail fault : Outcome α).result = .error fault := rfl
@[simp] theorem trace_fail (fault : Fault) : (fail fault : Outcome α).trace = ∅ := rfl

theorem bind_of_ok {x : Outcome α} {a : α} (f : α → Outcome β) (h : x.result = .ok a) :
    x >>= f = ⟨(f a).result, x.trace ++ (f a).trace⟩ := by
  show x.resume _ = _
  rw [resume, h]

theorem bind_of_error {x : Outcome α} {fault : Fault} (f : α → Outcome β)
    (h : x.result = .error fault) : x >>= f = ⟨.error fault, x.trace⟩ := by
  show x.resume _ = _
  rw [resume, h]
  show (⟨.error fault, x.trace ++ ∅⟩ : Outcome β) = _
  rw [Trace.append_empty]

/-- Three outcomes in a row compose the same way whichever two are put together first. -/
theorem bind_bind {γ : Type} (x : Outcome α) (f : α → Outcome β) (g : β → Outcome γ) :
    x >>= f >>= g = x >>= fun a => f a >>= g := by
  cases hx : x.result with
  | ok a =>
      rw [bind_of_ok f hx, bind_of_ok _ hx]
      cases hf : (f a).result with
      | ok b =>
          rw [bind_of_ok g hf, bind_of_ok g (show Except.ok b = _ from rfl)]
          exact Outcome.ext rfl Trace.append_assoc
      | error fault =>
          rw [bind_of_error g hf, bind_of_error g (show Except.error fault = _ from rfl)]
  | error fault =>
      rw [bind_of_error f hx, bind_of_error _ hx,
        bind_of_error g (show Except.error fault = _ from rfl)]

/-- A result that does nothing more adds nothing. -/
theorem bind_pure_self (x : Outcome α) : x >>= pure = x := by
  cases hx : x.result with
  | ok a => rw [bind_of_ok pure hx]; exact Outcome.ext hx.symm Trace.append_empty
  | error fault => rw [bind_of_error pure hx]; exact Outcome.ext hx.symm rfl

instance : LawfulMonad Outcome :=
  LawfulMonad.mk' Outcome
    (fun x => bind_pure_self x)
    (fun a f => (bind_of_ok f (result_pure a)).trans rfl)
    bind_bind

theorem ofExcept_ok_bind (a : α) (f : α → Outcome β) : ofExcept (.ok a) >>= f = f a :=
  pure_bind a f

/-- What is made of a result leaves no trace. -/
theorem map_eq (f : α → β) (x : Outcome α) : f <$> x = ⟨x.result.map f, x.trace⟩ := by
  rw [map_eq_pure_bind]
  cases hx : x.result with
  | ok a => rw [bind_of_ok _ hx]; exact Outcome.ext rfl Trace.append_empty
  | error fault => rw [bind_of_error _ hx]; rfl

@[simp] theorem result_map (f : α → β) (x : Outcome α) : (f <$> x).result = x.result.map f := by
  rw [map_eq]

@[simp] theorem trace_map (f : α → β) (x : Outcome α) : (f <$> x).trace = x.trace := by
  rw [map_eq]

end Outcome

end SqlText
