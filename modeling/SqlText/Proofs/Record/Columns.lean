import SqlText.Proofs.Record.Checks
import SqlText.Proofs.Statement.Bare

/-!
# Columns — a repository writes to declared columns

Three places drop brackets around the name of a column: the table when it is read, the
repository when it looks the column up, and an assignment or a criterion when it stores it.
The last of them must not turn a name that was found into another one. It does not, for a
name without its brackets has none left (`assign_eq_checked`), and the key of a table is kept
without brackets (`Table.stripBrackets_primaryKey`).

So what an operation plans to write is what it is given (`Operation.entries`) on columns to
which there is no objection (`assignmentsOf_eq_ok`, `assignmentsOfChanges_eq_ok`), and its
condition is on the key, which is declared as well (`names_of_plan`). What reaches a database
is the planned statement and no other one (`Executor.statement?_of_mem_perform`), in every
operation of a run (`run_names_declared`).
-/

namespace SqlText

open Executor (Behaviour Call)

variable {b : Behaviour}

/-- The statement that an event hands over or runs. -/
def Event.statement? : Event → Option String
  | read statement | write statement | execute statement => some statement
  | connect | close | begin | commit | rollback => none

/-- The only statement that is seen of a call is its own. -/
theorem Executor.statement?_of_mem_perform {e : Executor} {call : Call} {event : Event}
    {statement : String} (hevent : event ∈ (e.perform b call).trace.events)
    (hstatement : event.statement? = some statement) : statement = call.statement := by
  cases e with
  | recorder =>
      rw [perform_recorder] at hevent
      obtain rfl : event = call.event := List.mem_singleton.mp hevent
      cases call <;> exact (Option.some.inj hstatement).symm
  | engine url =>
      -- the statement is run once; what opens and ends its bracket carries none
      rw [(bracketed_perform url b call).events] at hevent
      rcases List.mem_cons.mp hevent with rfl | hevent
      · cases call <;> cases hstatement
      · split at hevent
        · rcases List.mem_cons.mp hevent with rfl | hevent
          · exact (Option.some.inj hstatement).symm
          · obtain rfl := List.mem_singleton.mp hevent
            generalize ((engine url).perform b call).result = result at hstatement
            cases call <;> cases result <;> cases hstatement
        · cases hevent

-- ── Columns that were found ───────────────────────────────────────────────────

theorem Table.stripBrackets_primaryKey (t : Table) :
    Text.stripBrackets t.primaryKey = t.primaryKey :=
  t.bare _ (List.mem_cons_of_mem _ List.mem_cons_self)

theorem Table.primaryKey_mem_columns {t : Table} (hd : t.columns ≠ []) :
    t.primaryKey ∈ t.columns :=
  t.primaryKey_declared.resolve_left hd

namespace Repository

variable {repo : Repository} {model : Model}

-- ── What a statement names ─────────────────────────────────────────────────────

/-- A statement that is written for an operation names these columns: in front of the values
    of an insertion, to the left of the values of an update, and in a condition. -/
inductive Names (t : Table) : Operation model → String → List String → Prop where
  | insert (r : Record model) :
      Names t (.insert r)
        ("INSERT INTO " ++ t.name ++ " "
          ++ ("(" ++ ", ".intercalate (Operation.insert r).columns
            ++ ") VALUES (" ++ ", ".intercalate (Operation.insert r).values ++ ")"))
        (Operation.insert r).columns
  | update (r : Record model) (changes : List (String × Value)) {key : Value}
      (found : r.toRow.lookup t.primaryKey = some key) :
      Names t (.update r changes)
        ("UPDATE " ++ t.name
          ++ " SET " ++ ", ".intercalate
            (List.zipWith (fun column value => column ++ "=" ++ value)
              (Operation.update r changes).columns (Operation.update r changes).values)
          ++ " WHERE " ++ (t.primaryKey ++ "=" ++ ("'" ++ key.stored ++ "'")))
        ((Operation.update r changes).columns ++ [t.primaryKey])
  | delete (r : Record model) {key : Value} (found : r.toRow.lookup t.primaryKey = some key) :
      Names t (.delete r)
        ("DELETE FROM " ++ t.name
          ++ " WHERE " ++ (t.primaryKey ++ "=" ++ ("'" ++ key.stored ++ "'")))
        [t.primaryKey]

/-- The columns and the values of an operation, side by side. -/
theorem Operation.zipWith_columns_values (op : Operation model) :
    List.zipWith (fun column value => column ++ "=" ++ value) op.columns op.values =
      op.entries.map fun entry => Statement.equation (Text.stripBrackets entry.1) entry.2 := by
  rw [columns, values, List.zipWith_map, List.zipWith_self]
  rfl

namespace Names

variable {t : Table} {r : Record model} {key : Value} {statement : String}

theorem of_insert? (h : Statement.insert? t.name (Operation.insert r).assignments =
      some statement) :
    Names t (.insert r) statement (Operation.insert r).columns := by
  have hne : (Operation.insert r).entries ≠ [] := by
    intro hnil
    rw [Operation.assignments, hnil] at h
    cases h
  obtain rfl := Option.some.inj ((Statement.insert?_assignments t.name hne).symm.trans h)
  exact .insert r

theorem of_update? {changes : List (String × Value)}
    (found : r.toRow.lookup t.primaryKey = some key)
    (h : Statement.update? t.name (Operation.update r changes).assignments
      [.of t.primaryKey .equal key] = some statement) :
    Names t (.update r changes) statement
      ((Operation.update r changes).columns ++ [t.primaryKey]) := by
  have hne : (Operation.update r changes).entries ≠ [] := by
    intro hnil
    rw [Operation.assignments, hnil] at h
    cases h
  have htext := Statement.update?_assignments t.name key hne t.stripBrackets_primaryKey
  rw [← Operation.zipWith_columns_values] at htext
  obtain rfl := Option.some.inj (htext.symm.trans h)
  exact .update r changes found

theorem of_delete? (found : r.toRow.lookup t.primaryKey = some key)
    (h : Statement.delete? t.name [.of t.primaryKey .equal key] = some statement) :
    Names t (.delete r) statement [t.primaryKey] := by
  rw [Statement.delete?_equal t.name key t.stripBrackets_primaryKey] at h
  obtain rfl := Option.some.inj h
  exact .delete r found

end Names

-- ── What an operation plans ───────────────────────────────────────────────────

theorem assignmentsOf_eq_ok {r : Record repo.model} {assignments : List Assignment}
    (hd : repo.table.columns ≠ []) (h : repo.assignmentsOf r = .ok assignments) :
    assignments = (Operation.insert r).assignments
      ∧ ∀ c ∈ (Operation.insert r).columns, c ∈ repo.table.columns := by
  rw [assignmentsOf_eq, checked_eq_ok_iff, List.findSome?_eq_none_iff] at h
  obtain ⟨hfit, rfl⟩ := h
  refine ⟨rfl, List.forall_mem_map.mpr ?_⟩
  intro entry hentry
  exact (Table.objection?_eq_none_iff.mp (hfit entry hentry)).resolve_left hd

theorem assignmentsOfChanges_eq_ok (r : Record repo.model) {changes : List (String × Value)}
    {assignments : List Assignment} (hd : repo.table.columns ≠ [])
    (h : repo.assignmentsOfChanges (changes.filter fun change => !change.2.isNull) =
      .ok assignments) :
    assignments = (Operation.update r changes).assignments
      ∧ ∀ c ∈ (Operation.update r changes).columns, c ∈ repo.table.columns := by
  rw [assignmentsOfChanges_eq repo r, checked_eq_ok_iff, List.findSome?_eq_none_iff] at h
  obtain ⟨hfit, rfl⟩ := h
  refine ⟨rfl, ?_⟩
  rw [Operation.columns, Operation.entries, List.map_map]
  refine List.forall_mem_map.mpr ?_
  intro change hchange
  obtain ⟨f, hf, hcolumn⟩ := objection?_eq_none_iff.mp (hfit change hchange)
  rw [Function.comp_apply, hf]
  exact hcolumn.resolve_left hd

/-- The statement of a write that is planned names declared columns. -/
theorem names_of_plan {op : Operation repo.model} {asked : Accessor.Operation} {statement : String}
    (hd : repo.table.columns ≠ []) (hwrites : op.verb ≠ .select)
    (hplan : repo.plan op = .ok (some asked))
    (hstatement : asked.statement? repo.table = some statement) :
    ∃ columns, Names repo.table op statement columns ∧ ∀ c ∈ columns, c ∈ repo.table.columns := by
  have hkey : ∀ c ∈ [repo.table.primaryKey], c ∈ repo.table.columns :=
    List.forall_mem_singleton.mpr (Table.primaryKey_mem_columns hd)
  cases op with
  | get key => exact absurd rfl hwrites
  | find criteria modifiers => exact absurd rfl hwrites
  | insert r =>
      obtain ⟨assignments, hassignments, hasked⟩ := bind_eq_ok hplan
      cases hasked
      obtain ⟨rfl, hmem⟩ := assignmentsOf_eq_ok hd hassignments
      exact ⟨_, .of_insert? hstatement, hmem⟩
  | update r changes =>
      rw [plan] at hplan
      split at hplan
      · cases hplan
      · obtain ⟨assignments, hassignments, hrest⟩ := bind_eq_ok hplan
        obtain ⟨key, hfound, hasked⟩ := bind_eq_ok hrest
        cases hasked
        obtain ⟨rfl, hmem⟩ := assignmentsOfChanges_eq_ok r hd hassignments
        refine ⟨_, .of_update? (primaryKeyValue_eq_ok_iff.mp hfound) hstatement, ?_⟩
        exact List.forall_mem_append.mpr ⟨hmem, hkey⟩
  | delete r =>
      obtain ⟨key, hfound, hasked⟩ := bind_eq_ok hplan
      cases hasked
      exact ⟨_, .of_delete? (primaryKeyValue_eq_ok_iff.mp hfound) hstatement, hkey⟩

-- ── Runs of operations ────────────────────────────────────────────────────────

theorem table_accessor (repo : Repository) (v : Verb) : (repo.accessor v).table = repo.table := by
  cases v <;> rfl

/-- A statement that is seen of an operation is the one that it plans. -/
theorem Follows.statement?_of_mem {op : Operation repo.model} {o : Outcome (Answer repo.model)}
    (h : Follows repo b op o) {event : Event} {statement : String}
    (hevent : event ∈ o.trace.events) (hstatement : event.statement? = some statement) :
    ∃ asked, repo.plan op = .ok (some asked) ∧ asked.statement? repo.table = some statement := by
  rw [Follows] at h
  cases hplan : repo.plan op with
  | error fault =>
      rw [hplan] at h
      obtain rfl : o = .fail fault := h
      cases hevent
  | ok asked? =>
      rw [hplan] at h
      cases asked? with
      | none =>
          obtain rfl : o = .ofExcept (.ok (.revision .kept)) := h
          cases hevent
      | some asked =>
          obtain ⟨-, hpermits⟩ := plan_permitted hplan
          have hdone := Accessor.perform_fulfils (repo.accessor op.verb) b asked
          rw [Echoes.trace h] at hevent
          refine ⟨asked, rfl, ?_⟩
          rw [← repo.table_accessor op.verb]
          cases hasked : asked.statement? (repo.accessor op.verb).table with
          | none =>
              rw [hdone.idle hpermits hasked] at hevent
              cases hevent
          | some written =>
              obtain ⟨-, ho⟩ := hdone.executed hpermits written hasked
              rw [ho] at hevent
              rw [Executor.statement?_of_mem_perform hevent hstatement]
              cases asked.verb <;> rfl

/-- **WRITES NAME DECLARED COLUMNS**: in a run of operations on a table that declares columns,
    whatever their arguments are and whatever fails, each statement that an `insert`, `update`
    or `delete` hands over or runs names what it is given by columns of the table, and so does
    its condition. -/
theorem run_names_declared (repo : Repository) (hdeclared : repo.table.columns ≠ [])
    (steps : List (Behaviour × Operation repo.model)) :
    List.Forall₂
      (fun step o => step.2.verb ≠ .select →
        ∀ event ∈ o.trace.events, ∀ statement, event.statement? = some statement →
          ∃ columns, Names repo.table step.2 statement columns
            ∧ ∀ c ∈ columns, c ∈ repo.table.columns)
      steps (repo.run steps) := by
  induction steps with
  | nil => exact .nil
  | cons step steps ih =>
      refine .cons ?_ ih
      intro hwrites event hevent statement hstatement
      have hfollows := perform_follows repo step.1 step.2
      obtain ⟨asked, hplan, hasked⟩ := hfollows.statement?_of_mem hevent hstatement
      exact names_of_plan hdeclared hwrites hplan hasked

/-- An alias in brackets is written as the column that the table declares. -/
theorem names_bracketed_alias :
    let id : Field := { name := "id", kind := .integer, alias? := some "ID" }
    let name : Field := { name := "name", kind := .text, alias? := some "[NAME]" }
    let pets : Table := { name := "PETS", primaryKey := "ID", columns := ["ID", "NAME"] }
    let rex : Record ⟨"Pet", [id, name]⟩ := ⟨[(id, .int 7), (name, .text "Rex")], rfl⟩
    ∃ columns, Names pets (.update rex [("name", .text "Max")])
        "UPDATE PETS SET NAME='Max' WHERE ID='7'" columns
      ∧ ∀ c ∈ columns, c ∈ pets.columns := by
  intro id name pets rex
  have hrun := run_names_declared ⟨pets, .engine "db", ⟨"Pet", [id, name]⟩⟩ (by decide)
    [({}, .update rex [("name", .text "Max")])]
  obtain ⟨hstep, -⟩ := List.forall₂_cons.mp hrun
  exact hstep (by decide) (.execute "UPDATE PETS SET NAME='Max' WHERE ID='7'")
    (by decide +kernel) _ rfl

end Repository

end SqlText
