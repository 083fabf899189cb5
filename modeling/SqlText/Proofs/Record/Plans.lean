import SqlText.Proofs.Access.Contract
import SqlText.Record.Repository

/-!
# Plans — what a repository asks its accessors for

A repository checks what it is given before it asks an accessor for anything. The checks
alone decide what is asked for, if anything is (`plan`), and what is made of the answer
leaves no trace of its own (`Echoes`). So an operation leaves the trace of the one accessor
operation that it plans, or none at all (`perform_follows`).

A check that fails is a fault of configuration (`plan_failsBy`), and what is planned
is permitted to the accessor that is asked (`plan_permitted`).
-/

namespace SqlText

open Executor (Behaviour)

variable {α β γ : Type} {b : Behaviour}

-- ── Faults of one sort ────────────────────────────────────────────────────────

theorem map_eq_error_iff {f : α → β} {x : Except Fault α} {fault : Fault} :
    x.map f = .error fault ↔ x = .error fault := by
  cases x <;> simp [Except.map]

theorem bind_eq_ok {x : Except Fault α} {f : α → Except Fault β} {c : β}
    (h : x >>= f = .ok c) : ∃ a, x = .ok a ∧ f a = .ok c := by
  cases x with
  | error fault => cases h
  | ok a => exact ⟨a, rfl, h⟩

/-- Whatever fault there may be is of this sort. -/
def FailsBy (sort : Fault.Sort) (x : Except Fault α) : Prop :=
  ∀ fault, x = .error fault → fault.sort = sort

namespace FailsBy

variable {sort : Fault.Sort}

theorem of_ok (a : α) : FailsBy sort (.ok a) := by
  intro fault h
  cases h

theorem of_error {fault : Fault} (h : fault.sort = sort) :
    FailsBy sort (.error fault : Except Fault α) := by
  intro fault' h'
  rw [← Except.error.inj h']
  exact h

theorem bind {x : Except Fault α} {f : α → Except Fault β} (hx : FailsBy sort x)
    (hf : ∀ a, FailsBy sort (f a)) : FailsBy sort (x >>= f) := by
  cases x with
  | error fault => exact of_error (hx fault rfl)
  | ok a => exact hf a

theorem map {x : Except Fault α} (hx : FailsBy sort x) (f : α → β) :
    FailsBy sort (x.map f) := by
  intro fault h
  exact hx fault (map_eq_error_iff.mp h)

theorem mapM {f : α → Except Fault β} (hf : ∀ a, FailsBy sort (f a)) (l : List α) :
    FailsBy sort (l.mapM f) := by
  induction l with
  | nil => exact of_ok []
  | cons a l ih =>
      rw [List.mapM_cons]
      refine (hf a).bind ?_
      intro c
      refine ih.bind ?_
      intro cs
      exact of_ok (c :: cs)

end FailsBy

-- ── Echoes ────────────────────────────────────────────────────────────────────

/-- `o` leaves the trace of `x` and fails as `x` does, or for the data that `x` yields. -/
structure Echoes (x : Outcome α) (o : Outcome β) : Prop where
  trace : o.trace = x.trace
  failed : ∀ fault, o.result = .error fault → x.result = .error fault ∨ fault.sort = .validation

namespace Echoes

theorem trans {x : Outcome α} {y : Outcome β} {z : Outcome γ} (hxy : Echoes x y)
    (hyz : Echoes y z) : Echoes x z := by
  refine ⟨hyz.trace.trans hxy.trace, ?_⟩
  intro fault hfault
  rcases hyz.failed fault hfault with hy | hsort
  · exact hxy.failed fault hy
  · exact .inr hsort

theorem of_map (f : α → β) (x : Outcome α) : Echoes x (f <$> x) := by
  refine ⟨Outcome.trace_map f x, ?_⟩
  intro fault hfault
  rw [Outcome.result_map] at hfault
  exact .inl (map_eq_error_iff.mp hfault)

theorem map_of (f : α → β) (x : Outcome α) : Echoes (f <$> x) x := by
  refine ⟨(Outcome.trace_map f x).symm, ?_⟩
  intro fault hfault
  rw [Outcome.result_map]
  exact .inl (map_eq_error_iff.mpr hfault)

/-- A reading of the result leaves no trace and fails for the data alone. -/
theorem of_reading {f : α → Outcome β} (x : Outcome α) (htrace : ∀ a, (f a).trace = ∅)
    (hread : ∀ a, FailsBy .validation (f a).result) : Echoes x (x >>= f) := by
  cases hx : x.result with
  | ok a =>
      rw [Outcome.bind_of_ok f hx, htrace, Trace.append_empty]
      refine ⟨rfl, ?_⟩
      intro fault hfault
      exact .inr (hread a fault hfault)
  | error fault' =>
      rw [Outcome.bind_of_error f hx]
      refine ⟨rfl, ?_⟩
      intro fault hfault
      exact .inl (by rw [hx, Except.error.inj hfault])

end Echoes

-- ── Checks and readings ───────────────────────────────────────────────────────

theorem Table.requireColumn_failsBy (t : Table) (column : String) :
    FailsBy .configuration (t.requireColumn column) := by
  rw [requireColumn]
  split
  · exact .of_ok _
  · exact .of_error rfl

theorem Model.read_failsBy (model : Model) (row : Row) : FailsBy .validation (model.read row) := by
  rw [read]
  split
  · exact .of_ok _
  · exact .of_error rfl

namespace Repository

variable {repo : Repository}

theorem columnOf_failsBy (repo : Repository) (field : String) :
    FailsBy .configuration (repo.columnOf field) := by
  rw [columnOf]
  split
  · exact repo.table.requireColumn_failsBy _
  · exact .of_error rfl

theorem primaryKeyValue_failsBy (repo : Repository) (r : Record repo.model) :
    FailsBy .configuration (repo.primaryKeyValue r) := by
  rw [primaryKeyValue]
  split
  · exact .of_ok _
  · exact .of_error rfl

theorem assignmentsOf_failsBy (repo : Repository) (r : Record repo.model) :
    FailsBy .configuration (repo.assignmentsOf r) := by
  refine .mapM ?_ _
  intro entry
  refine (repo.table.requireColumn_failsBy entry.1).bind ?_
  intro column
  exact .of_ok _

theorem assignmentsOfChanges_failsBy (repo : Repository) (changes : List (String × Value)) :
    FailsBy .configuration (repo.assignmentsOfChanges changes) := by
  refine .mapM ?_ _
  intro change
  refine (repo.columnOf_failsBy change.1).bind ?_
  intro column
  exact .of_ok _

-- ── Plans ─────────────────────────────────────────────────────────────────────

namespace Operation

variable {model : Model}

/-- The verb of an operation. -/
def verb : Operation model → Verb
  | get .. | find .. => .select
  | insert .. => .insert
  | update .. => .update
  | delete .. => .delete

end Operation

/-- The accessor for statements of a verb. -/
def accessor (repo : Repository) : Verb → Accessor
  | .select => repo.reader
  | .update | .insert | .delete => repo.writer

/-- What an operation asks its accessor for, if anything, or why it does not fit. -/
def plan (repo : Repository) : Operation repo.model → Except Fault (Option Accessor.Operation)
  | .get key => .ok (some (.selectOne key))
  | .find criteria modifiers => .ok (some (.select criteria modifiers))
  | .insert r => do
    pure (some (.insert (← repo.assignmentsOf r)))
  | .update r changes =>
    let changes := changes.filter fun change => !change.2.isNull
    if changes.isEmpty then
      pure none
    else do
      let assignments ← repo.assignmentsOfChanges changes
      pure (some (.update (← repo.primaryKeyValue r) assignments))
  | .delete r => do
    pure (some (.delete (← repo.primaryKeyValue r)))

/-- What an operation leaves by its plan: the fault of the plan, nothing if nothing is asked
    for, and otherwise a reading of what the accessor leaves for it. -/
def Follows (repo : Repository) (b : Behaviour) (op : Operation repo.model)
    (o : Outcome (Answer repo.model)) : Prop :=
  match repo.plan op with
  | .error fault => o = .fail fault
  | .ok none => o = .ofExcept (.ok (.revision .kept))
  | .ok (some asked) => Echoes ((repo.accessor op.verb).perform b asked) o

namespace Follows

variable {op : Operation repo.model} {o : Outcome (Answer repo.model)}

theorem of_error {fault : Fault} (h : repo.plan op = .error fault) (ho : o = .fail fault) :
    Follows repo b op o := by
  rw [Follows, h]
  exact ho

theorem of_idle (h : repo.plan op = .ok none) (ho : o = .ofExcept (.ok (.revision .kept))) :
    Follows repo b op o := by
  rw [Follows, h]
  exact ho

theorem of_asked {asked : Accessor.Operation} (h : repo.plan op = .ok (some asked))
    (ho : Echoes ((repo.accessor op.verb).perform b asked) o) : Follows repo b op o := by
  rw [Follows, h]
  exact ho

/-- One check stands in front of what is asked for. -/
theorem of_check {check : Except Fault α} {ask : α → Accessor.Operation} {f : α → Outcome β}
    {g : β → Answer repo.model} (h : repo.plan op = check.map fun a => some (ask a))
    (ho : o = g <$> (Outcome.ofExcept check >>= f))
    (hf : ∀ a, Echoes ((repo.accessor op.verb).perform b (ask a)) (g <$> f a)) :
    Follows repo b op o := by
  cases check with
  | error fault => exact of_error h ho
  | ok a =>
      rw [Outcome.ofExcept_ok_bind] at ho
      refine of_asked h ?_
      rw [ho]
      exact hf a

end Follows

theorem echoes_get (key : Value) :
    Echoes (repo.reader.perform b (.selectOne key)) (repo.perform b (.get key)) := by
  refine (Echoes.map_of Accessor.Answer.row (repo.reader.selectOne b key)).trans
    (Echoes.trans (Echoes.of_reading _ ?_ ?_) (Echoes.of_map Answer.found _))
  · intro row
    cases row <;> simp
  · intro row
    cases row with
    | none => exact .of_ok none
    | some row =>
        rw [Outcome.result_map]
        exact (repo.model.read_failsBy row).map some

theorem echoes_find (criteria : List Criterion) (modifiers : ModifierList) :
    Echoes (repo.reader.perform b (.select criteria modifiers))
      (repo.perform b (.find criteria modifiers)) := by
  refine (Echoes.map_of Accessor.Answer.rows (repo.reader.select b criteria modifiers)).trans
    (Echoes.trans (Echoes.of_reading _ ?_ ?_) (Echoes.of_map Answer.records _))
  · intro rows
    rfl
  · exact FailsBy.mapM repo.model.read_failsBy

theorem follows_insert (r : Record repo.model) :
    Follows repo b (.insert r) (repo.perform b (.insert r)) := by
  refine .of_check rfl rfl ?_
  intro assignments
  exact (Echoes.map_of Accessor.Answer.count _).trans (Echoes.of_map Answer.count _)

theorem follows_delete (r : Record repo.model) :
    Follows repo b (.delete r) (repo.perform b (.delete r)) := by
  refine .of_check rfl rfl ?_
  intro key
  exact (Echoes.map_of Accessor.Answer.count _).trans (Echoes.of_map Answer.count _)

theorem follows_update (r : Record repo.model) (changes : List (String × Value)) :
    Follows repo b (.update r changes) (repo.perform b (.update r changes)) := by
  by_cases hnone : (changes.filter fun change => !change.2.isNull).isEmpty = true
  · refine .of_idle ?_ ?_
    · rw [plan, if_pos hnone]
      rfl
    · rw [perform, update, if_pos hnone]
      rfl
  · -- of the two checks the first is taken here; behind it the second stands alone
    cases h : repo.assignmentsOfChanges (changes.filter fun change => !change.2.isNull) with
    | error fault =>
        have hplan : repo.plan (.update r changes) = .error fault := by
          rw [plan, if_neg hnone, h]
          rfl
        refine .of_error hplan ?_
        rw [perform, update, if_neg hnone, h]
        rfl
    | ok assignments =>
        have hplan : repo.plan (.update r changes) =
            (repo.primaryKeyValue r).map fun key => some (.update key assignments) := by
          rw [plan, if_neg hnone, h]
          rfl
        have hperform : repo.perform b (.update r changes) =
            .revision <$> (Outcome.ofExcept (repo.primaryKeyValue r) >>= fun key =>
              repo.writer.update b key assignments >>= fun affected =>
                pure (if 0 < affected then
                  .revised (r.update (changes.filter fun change => !change.2.isNull))
                else .kept)) := by
          rw [perform, update, if_neg hnone, h, Outcome.ofExcept_ok_bind]
        refine .of_check hplan hperform ?_
        intro key
        simp only [bind_pure_comp]
        exact ((Echoes.map_of Accessor.Answer.count _).trans (Echoes.of_map _ _)).trans
          (Echoes.of_map Answer.revision _)

theorem perform_follows (repo : Repository) (b : Behaviour) (op : Operation repo.model) :
    Follows repo b op (repo.perform b op) := by
  cases op with
  | get key => exact .of_asked rfl (echoes_get key)
  | find criteria modifiers => exact .of_asked rfl (echoes_find criteria modifiers)
  | insert r => exact follows_insert r
  | update r changes => exact follows_update r changes
  | delete r => exact follows_delete r

-- ── What a plan may be ────────────────────────────────────────────────────────

/-- A plan fails for the table and the model alone. -/
theorem plan_failsBy (repo : Repository) (op : Operation repo.model) :
    FailsBy .configuration (repo.plan op) := by
  cases op with
  | get key => exact .of_ok _
  | find criteria modifiers => exact .of_ok _
  | insert r =>
      refine (repo.assignmentsOf_failsBy r).bind ?_
      intro assignments
      exact .of_ok _
  | update r changes =>
      rw [plan]
      split
      · exact .of_ok _
      · refine (repo.assignmentsOfChanges_failsBy _).bind ?_
        intro assignments
        refine (repo.primaryKeyValue_failsBy r).bind ?_
        intro key
        exact .of_ok _
  | delete r =>
      refine (repo.primaryKeyValue_failsBy r).bind ?_
      intro key
      exact .of_ok _

/-- A plan is for the verb of the operation, and the accessor of that verb permits it. -/
theorem plan_permitted {op : Operation repo.model} {asked : Accessor.Operation}
    (h : repo.plan op = .ok (some asked)) :
    asked.verb = op.verb ∧ (repo.accessor op.verb).mode.permits asked.action = true := by
  cases op with
  | get key =>
      cases h
      exact ⟨rfl, rfl⟩
  | find criteria modifiers =>
      cases h
      exact ⟨rfl, rfl⟩
  | insert r =>
      obtain ⟨assignments, -, hasked⟩ := bind_eq_ok h
      cases hasked
      exact ⟨rfl, rfl⟩
  | update r changes =>
      rw [plan] at h
      split at h
      · cases h
      · obtain ⟨assignments, -, hrest⟩ := bind_eq_ok h
        obtain ⟨key, -, hasked⟩ := bind_eq_ok hrest
        cases hasked
        exact ⟨rfl, rfl⟩
  | delete r =>
      obtain ⟨key, -, hasked⟩ := bind_eq_ok h
      cases hasked
      exact ⟨rfl, rfl⟩

theorem executor_accessor (repo : Repository) (v : Verb) :
    (repo.accessor v).executor = repo.executor := by
  cases v <;> rfl

end Repository

end SqlText
