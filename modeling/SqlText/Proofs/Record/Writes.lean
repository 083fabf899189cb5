import SqlText.Proofs.Record.Columns

/-!
# Writes — from a record to one statement and back

An insertion stores the row of a record, an update stores changes of fields, and both leave
out absent values. Nothing is asked of the executor for what does not fit: the first objection
in the order of the columns or of the changes is the fault, and an update looks for the key of
its record only behind the objections. What fits is handed over as one statement (`handOver`):
nothing else reaches the executor, and the count or the failure that comes back is passed on
(`OneWrite`).

The statements come from the texts of the clauses (`insert_of_fit`, `update_of_key`,
`delete_of_key`). A condition on a key always has a text, so an update or a deletion by a key
is never left out for want of one. What an update returns differs from the given record in the
fields of its changes and in no others (`Record.lookup_values_update`), and it returns the
given record itself unless some record was touched (`update_settled`, `insert_settled`).

A value is written out behind the check of its column and before the next one is looked at. So
what is said of the checks and of the statement is said of values that have a text
(`Value.hasText`), as far as they are written out by then.
-/

namespace SqlText

open Executor (Behaviour settling)

variable {b : Behaviour}

-- ── Records by field ──────────────────────────────────────────────────────────

namespace Record

variable {model : Model}

theorem lookup_values_update (r : Record model) (changes : List (String × Value)) (name : String) :
    (r.update changes).values.lookup name =
      (r.values.lookup name).map (changes.lookup name).getD := by
  show ((r.slots.map fun slot => (slot.1, (changes.lookup slot.1.name).getD slot.2)).map
    fun slot => (slot.1.name, slot.2)).lookup name = _
  rw [values]
  -- the slots keep their names, so the search stops at the same one
  induction r.slots with
  | nil => rfl
  | cons slot slots ih =>
      rw [List.map_cons, List.map_cons, List.map_cons, List.lookup_cons, List.lookup_cons]
      by_cases h : name = slot.1.name
      · subst h
        rw [beq_self_eq_true]
        rfl
      · rw [beq_false_of_ne h]
        exact ih

theorem lookup_values_eq_none_iff (r : Record model) (name : String) :
    r.values.lookup name = none ↔ model.field? name = none := by
  rw [Model.field?, ← r.fields_eq, values, List.lookup_eq_none_iff, List.find?_eq_none,
    List.forall_mem_map, List.forall_mem_map]
  refine forall₂_congr ?_
  intro slot _
  rw [bne_iff_ne, decide_eq_true_iff, ne_comm]

/-- If no two fields share a key, the row has the fields in their order. -/
theorem toRow_eq_map (r : Record model) (h : (model.fields.map Field.key).Nodup) :
    r.toRow = r.slots.map fun slot => (slot.1.key, slot.2) := by
  refine Row.ofEntries_eq_self ?_
  rw [← r.fields_eq, List.map_map] at h
  rw [Row.columns, List.map_map]
  exact h

end Record

namespace Repository

variable {repo : Repository} {r : Record repo.model} {changes : List (String × Value)}
  {statement : String}

-- ── One statement ─────────────────────────────────────────────────────────────

/-- A statement of a verb is reported and handed over for its effect. -/
def handOver (repo : Repository) (b : Behaviour) (v : Verb) (statement : String) :
    Outcome Int := do
  Outcome.note (.built v.name statement)
  repo.executor.write b statement

/-- One call is made, and its result is passed on. -/
theorem handOver_eq (v : Verb) : repo.handOver b v statement =
    ⟨(repo.executor.write b statement).result,
      ⟨(repo.executor.write b statement).trace.events,
        .built v.name statement :: (repo.executor.write b statement).trace.log⟩⟩ :=
  Outcome.bind_of_ok _ rfl

/-- What one write of a statement of a verb leaves: nothing else reaches the executor, and what
    comes back from it is the result. -/
structure OneWrite (repo : Repository) (b : Behaviour) (v : Verb) (statement : String)
    (o : Outcome Int) : Prop where
  /-- The count or the failure is that of the executor. -/
  passed : o.result = (repo.executor.write b statement).result
  /-- A recorder notes the statement and answers it, or fails at once. -/
  recorded : repo.executor = .recorder →
    o.trace = ⟨[.write statement], [.built v.name statement]⟩
      ∧ o.result = b.through [.execute] .database b.affected
  /-- An engine runs the statement in a transaction of its own, and the result is the count
      unless a failure is reached. -/
  executed : ∀ url, repo.executor = .engine url →
    o.trace.events = .begin :: (if b.opens then [.execute statement, settling o.result] else [])
      ∧ o.trace.log = .built v.name statement :: .opening url ::
        ((if b.opens then [.writing statement] else [])
          ++ b.conclusion [.connect, .execute, .commit] (.writeFailed · statement)
            (.rowsAffected b.affected))
      ∧ o.result =
        b.through [.connect, .execute, .commit] (.writeFailed · statement) b.affected

theorem oneWrite_handOver (repo : Repository) (b : Behaviour) (v : Verb) (statement : String) :
    OneWrite repo b v statement (repo.handOver b v statement) where
  passed := by rw [handOver_eq]
  recorded h := by
    rw [handOver_eq, h, Executor.write_recorder]
    exact ⟨rfl, rfl⟩
  executed url h := by
    rw [handOver_eq, h, Executor.write_engine]
    exact ⟨rfl, rfl, rfl⟩

/-- What becomes of a statement of a verb that was written or not. -/
def submit (repo : Repository) (b : Behaviour) (v : Verb) : Option String → Outcome Int
  | some statement => repo.handOver b v statement
  | none => ⟨.ok 0, ⟨[], [.emptyWrite repo.table.name]⟩⟩

theorem build_bind_writeRecords {v : Verb} (request : Request v) :
    repo.writer.build request >>= repo.writer.writeRecords b =
      repo.submit b v (request.statement? repo.table.name) := by
  have hbuild : repo.writer.build request =
      ((request.statement? repo.table.name).map (Builder.written v.name)).getD
        Builder.nothing :=
    Builder.build_eq (.standard v (.table repo.table)) request
  rw [hbuild]
  cases request.statement? repo.table.name <;> rfl

/-- The accessor that writes permits every write. -/
theorem require_writer {action : Access.Action} (h : action.reads = false) :
    repo.writer.require action = pure () := by
  have hpermits : repo.writer.mode.permits action = true := by
    rw [Access.Mode.permits, h]
    rfl
  rw [Accessor.require, if_pos hpermits]

theorem writer_insert (assignments : List Assignment) :
    repo.writer.insert b assignments =
      repo.submit b .insert (Statement.insert? repo.table.name assignments) := by
  rw [Accessor.insert, require_writer rfl, pure_bind, build_bind_writeRecords]
  rfl

theorem writer_update (key : Value) (assignments : List Assignment) :
    repo.writer.update b key assignments =
      repo.submit b .update (Statement.update? repo.table.name assignments
        [.of repo.table.primaryKey .equal key]) := by
  rw [Accessor.update, require_writer rfl, pure_bind, build_bind_writeRecords]
  rfl

theorem writer_delete (key : Value) :
    repo.writer.delete b key =
      repo.submit b .delete (Statement.delete? repo.table.name
        [.of repo.table.primaryKey .equal key]) := by
  rw [Accessor.delete, require_writer rfl, pure_bind, build_bind_writeRecords]
  rfl

-- ── What fits ─────────────────────────────────────────────────────────────────

namespace Operation

variable {model : Model}

theorem isNull_of_mem_entries (op : Operation model) :
    ∀ entry ∈ op.entries, entry.2.isNull = false := by
  intro entry hentry
  cases op with
  | insert r =>
      obtain ⟨-, hnull⟩ := List.mem_filter.mp hentry
      simpa using hnull
  | update r changes =>
      obtain ⟨change, hchange, rfl⟩ := List.mem_map.mp hentry
      obtain ⟨-, hnull⟩ := List.mem_filter.mp hchange
      simpa using hnull
  | get | find | delete => cases hentry

/-- Nothing absent is written, so every value is written by its text. -/
theorem map_stored (op : Operation model) {β : Type} (f : String → String → β) :
    (op.entries.map fun entry => f entry.1 entry.2.stored) =
      op.entries.map fun entry => f entry.1 entry.2.toText := by
  refine List.map_congr_left ?_
  intro entry hentry
  rw [Value.stored_eq_toText (op.isNull_of_mem_entries entry hentry)]

theorem values_eq (op : Operation model) :
    op.values = op.entries.map fun entry => "'" ++ entry.2.toText ++ "'" :=
  op.map_stored fun _ text => "'" ++ text ++ "'"

theorem equations_eq (op : Operation model) :
    (op.entries.map fun entry => Statement.equation (Text.stripBrackets entry.1) entry.2) =
      op.entries.map fun entry =>
        Text.stripBrackets entry.1 ++ "=" ++ ("'" ++ entry.2.toText ++ "'") :=
  op.map_stored fun column text => Text.stripBrackets column ++ "=" ++ ("'" ++ text ++ "'")

end Operation

theorem insert_of_objection {fault : Fault}
    (h : ((Operation.insert r).entries.findSome? fun entry => repo.table.objection? entry.1) =
      some fault) :
    repo.insert b r = .fail fault := by
  rw [insert, assignmentsOf_eq, h]
  rfl

theorem insert_of_idle (h : (Operation.insert r).entries = []) :
    repo.insert b r = ⟨.ok 0, ⟨[], [.emptyWrite repo.table.name]⟩⟩ := by
  rw [insert, assignmentsOf_eq, Operation.assignments, h, List.findSome?_nil, List.map_nil,
    checked, Outcome.ofExcept_ok_bind, writer_insert]
  rfl

theorem insert_of_fit (hne : (Operation.insert r).entries ≠ [])
    (h : ((Operation.insert r).entries.findSome? fun entry => repo.table.objection? entry.1) =
      none) :
    repo.insert b r = repo.handOver b .insert
      ("INSERT INTO " ++ repo.table.name ++ " "
        ++ ("(" ++ ", ".intercalate (Operation.insert r).columns
          ++ ") VALUES (" ++ ", ".intercalate (Operation.insert r).values ++ ")")) := by
  have hstatement : Statement.insert? repo.table.name (Operation.insert r).assignments = some _ :=
    Statement.insert?_assignments repo.table.name hne
  rw [insert, assignmentsOf_eq, h, checked, Outcome.ofExcept_ok_bind, writer_insert,
    hstatement]
  rfl

theorem delete_of_keyless (h : r.toRow.lookup repo.table.primaryKey = none) :
    repo.delete b r = .fail (.unmappedKey repo.model.name repo.table.primaryKey) := by
  rw [delete, primaryKeyValue_of_none h]
  rfl

theorem delete_of_key {key : Value} (h : r.toRow.lookup repo.table.primaryKey = some key) :
    repo.delete b r = repo.handOver b .delete
      ("DELETE FROM " ++ repo.table.name
        ++ " WHERE " ++ (repo.table.primaryKey ++ "=" ++ ("'" ++ key.stored ++ "'"))) := by
  have hdelete := Statement.delete?_equal repo.table.name key repo.table.stripBrackets_primaryKey
  rw [delete, primaryKeyValue_eq_ok_iff.mpr h, Outcome.ofExcept_ok_bind, writer_delete, hdelete]
  rfl

theorem update_of_idle (h : (changes.filter fun change => !change.2.isNull) = []) :
    repo.update b r changes = ⟨.ok .kept, ∅⟩ := by
  rw [update, h, if_pos List.isEmpty_nil]
  rfl

theorem update_of_objection {fault : Fault}
    (h : ((changes.filter fun change => !change.2.isNull).findSome? fun change =>
      repo.objection? change.1) = some fault) :
    repo.update b r changes = .fail fault := by
  have hne : ¬(changes.filter fun change => !change.2.isNull).isEmpty = true := by
    intro hempty
    rw [List.isEmpty_iff.mp hempty] at h
    cases h
  rw [update, if_neg hne, assignmentsOfChanges_eq repo r, h]
  rfl

section Accepted

-- there are changes, and they fit: the key decides what is left
variable (hne : (changes.filter fun change => !change.2.isNull) ≠ [])
  (hfit : ((changes.filter fun change => !change.2.isNull).findSome? fun change =>
    repo.objection? change.1) = none)
include hne hfit

theorem update_of_keyless (h : r.toRow.lookup repo.table.primaryKey = none) :
    repo.update b r changes = .fail (.unmappedKey repo.model.name repo.table.primaryKey) := by
  rw [update, if_neg (mt List.isEmpty_iff.mp hne), assignmentsOfChanges_eq repo r, hfit, checked,
    Outcome.ofExcept_ok_bind, primaryKeyValue_of_none h]
  rfl

theorem update_of_key {key : Value} (h : r.toRow.lookup repo.table.primaryKey = some key) :
    repo.update b r changes =
      (fun affected => if 0 < affected then
          .revised (r.update (changes.filter fun change => !change.2.isNull)) else .kept) <$>
        repo.handOver b .update
          ("UPDATE " ++ repo.table.name
            ++ " SET " ++ ", ".intercalate ((Operation.update r changes).entries.map fun entry =>
              Statement.equation (Text.stripBrackets entry.1) entry.2)
            ++ " WHERE " ++ Statement.equation repo.table.primaryKey key) := by
  have hentries : (Operation.update r changes).entries ≠ [] := by
    rw [Operation.entries, ne_eq, List.map_eq_nil_iff]
    exact hne
  have hstatement : Statement.update? repo.table.name (Operation.update r changes).assignments
      [.of repo.table.primaryKey .equal key] = some _ :=
    Statement.update?_assignments repo.table.name key hentries repo.table.stripBrackets_primaryKey
  rw [update, if_neg (mt List.isEmpty_iff.mp hne), assignmentsOfChanges_eq repo r, hfit, checked,
    Outcome.ofExcept_ok_bind, primaryKeyValue_eq_ok_iff.mpr h, Outcome.ofExcept_ok_bind,
    writer_update, hstatement, submit, bind_pure_comp]

end Accepted

-- ── What an insertion leaves ──────────────────────────────────────────────────

/-- What an insertion of these entries leaves. -/
structure Inserts (repo : Repository) (b : Behaviour) (stored : List (String × Value))
    (o : Outcome Int) : Prop where
  /-- The first column that the table does not accept is named, and nothing else happens. What
      stands before it is written out by then. -/
  refused : ∀ before entry after, stored = before ++ entry :: after →
    (∀ other ∈ before, repo.table.Accepts other.1 ∧ other.2.hasText) →
      ¬repo.table.Accepts entry.1 →
        o = .fail (.undeclaredColumn (Text.stripBrackets entry.1) repo.table.name)
  /-- Without entries no call is made, and the log says so. -/
  idle : stored = [] → o = ⟨.ok 0, ⟨[], [.emptyWrite repo.table.name]⟩⟩
  /-- Columns and values stand in the order of the entries. The statement is written once, and
      what comes back is passed on. -/
  written : stored ≠ [] →
    (∀ entry ∈ stored, repo.table.Accepts entry.1 ∧ entry.2.hasText) →
      let columns := stored.map fun entry => Text.stripBrackets entry.1
      let values := stored.map fun entry => "'" ++ entry.2.toText ++ "'"
      let statement := "INSERT INTO " ++ repo.table.name ++ " "
        ++ ("(" ++ ", ".intercalate columns ++ ") VALUES (" ++ ", ".intercalate values ++ ")")
      columns.length = stored.length ∧ values.length = stored.length
        ∧ o = repo.handOver b .insert statement ∧ OneWrite repo b .insert statement o

/-- **AN INSERTION IS REFUSED, IDLE OR ONE WRITE**: for every record, what is inserted is its
    row without the absent values; with a key for each field, the fields in their order. The
    first of the columns that is not declared is the fault, and a column of an absent value is
    none of them. -/
theorem insert_settled (repo : Repository) (b : Behaviour) (r : Record repo.model) :
    Inserts repo b (r.toRow.filter fun entry => !entry.2.isNull) (repo.insert b r)
      ∧ ((repo.model.fields.map Field.key).Nodup →
        r.toRow = r.slots.map fun slot => (slot.1.key, slot.2)) := by
  refine ⟨⟨?_, insert_of_idle, ?_⟩, r.toRow_eq_map⟩
  · intro before entry after hstored hbefore hentry
    have hfault : repo.table.objection? entry.1 =
        some (.undeclaredColumn (Text.stripBrackets entry.1) repo.table.name) :=
      if_neg hentry
    refine insert_of_objection ?_
    rw [Operation.entries, hstored]
    refine findSome?_of_first ?_ hfault
    intro other hother
    exact Table.objection?_eq_none_iff.mpr (hbefore other hother).1
  · intro hne hfit columns values statement
    have ho : repo.insert b r = repo.handOver b .insert statement := by
      have haccepts := Table.findSome?_of_accepts fun entry hentry => (hfit entry hentry).1
      rw [insert_of_fit hne haccepts, Operation.values_eq]
      rfl
    refine ⟨List.length_map _, List.length_map _, ho, ?_⟩
    rw [ho]
    exact oneWrite_handOver repo b .insert statement

/-- A field without a value is left out, though its column is not declared, and a text in a
    list is written by its code where it cannot be told. -/
theorem insert_settled_absent_owner :
    let id : Field := { name := "id", kind := .integer, alias? := some "ID" }
    let name : Field := { name := "name", kind := .text, alias? := some "[NAME]" }
    let owner : Field := { name := "owner", kind := .text, nullable := true }
    let tags : Field := { name := "tags", kind := .any, alias? := some "TAGS" }
    let pets : Table := { name := "PETS", primaryKey := "ID", columns := ["ID", "NAME", "TAGS"] }
    let repo : Repository := ⟨pets, .engine "db", ⟨"Pet", [id, name, owner, tags]⟩⟩
    let rex : Record repo.model := ⟨[(id, .int 7), (name, .text "Rex"), (owner, .null),
      (tags, .list [.text "a\u200b", .int (-1)])], rfl⟩
    let statement :=
      "INSERT INTO PETS (ID, NAME, TAGS) VALUES ('7', 'Rex', '['a\\u200b', -1]')"
    repo.insert { affected := 3 } rex =
      ⟨.ok 3, ⟨[.begin, .execute statement, .commit],
        [.built "insert" statement, .opening "db", .writing statement, .rowsAffected 3]⟩⟩ := by
  intro id name owner tags pets repo rex statement
  obtain ⟨⟨-, -, hwritten⟩, -⟩ := insert_settled repo { affected := 3 } rex
  obtain ⟨-, -, -, hone⟩ := hwritten (by decide +kernel) (by decide +kernel)
  obtain ⟨hevents, hlog, hresult⟩ := hone.executed "db" rfl
  rw [hresult] at hevents
  exact Outcome.ext hresult
    (Trace.ext (hevents.trans (by decide +kernel)) (hlog.trans (by decide +kernel)))

-- ── What an update leaves ─────────────────────────────────────────────────────

/-- A record with these changes and no others. -/
structure Revises {model : Model} (r : Record model) (asked : List (String × Value))
    (revised : Record model) : Prop where
  changed : ∀ name value, asked.lookup name = some value →
    revised.values.lookup name = some value
  kept : ∀ name, asked.lookup name = none → revised.values.lookup name = r.values.lookup name

/-- What an update of a record by these changes leaves. -/
structure Updates (repo : Repository) (b : Behaviour) (r : Record repo.model)
    (asked : List (String × Value)) (o : Outcome (Revision repo.model)) : Prop where
  /-- Without changes the record stands, and nothing is seen. -/
  idle : asked = [] → o = ⟨.ok .kept, ∅⟩
  /-- The first change that does not fit is the fault, and nothing else happens. What stands
      before it is written out by then. -/
  refused : ∀ before change after fault, asked = before ++ change :: after →
    (∀ other ∈ before, repo.objection? other.1 = none ∧ other.2.hasText) →
      repo.objection? change.1 = some fault → o = .fail fault ∧ fault.sort = .configuration
  /-- The key is looked for behind the changes, which are written out by then, and without one
      nothing else happens. -/
  keyless : asked ≠ [] →
    (∀ change ∈ asked, repo.objection? change.1 = none ∧ change.2.hasText) →
      r.toRow.lookup repo.table.primaryKey = none →
        o = .fail (.unmappedKey repo.model.name repo.table.primaryKey)
  /-- The changes stand in their order, under the condition on the key that the record has.
      The statement is written once; its failure is passed on, and its count decides about
      the record. -/
  written : asked ≠ [] →
    (∀ change ∈ asked, repo.objection? change.1 = none ∧ change.2.hasText) →
      ∀ key, r.toRow.lookup repo.table.primaryKey = some key → key.isNull = false →
        key.hasText →
          let statement := "UPDATE " ++ repo.table.name
            ++ " SET " ++ ", ".intercalate (asked.map fun change =>
              Text.stripBrackets ((repo.model.field? change.1).elim change.1 Field.column)
                ++ "=" ++ ("'" ++ change.2.toText ++ "'"))
            ++ " WHERE " ++ (repo.table.primaryKey ++ "=" ++ ("'" ++ key.toText ++ "'"))
          let called := repo.handOver b .update statement
          OneWrite repo b .update statement called
            ∧ o.trace = called.trace
            ∧ (∀ fault, called.result = .error fault → o.result = .error fault)
            ∧ ∀ affected, called.result = .ok affected →
              (affected ≤ 0 → o.result = .ok .kept)
                ∧ (0 < affected → ∃ revised, o.result = .ok (.revised revised)
                  ∧ Revises r asked revised)

/-- If each field that is changed is in the model, its value is in the record afterwards. -/
theorem revises_update (r : Record repo.model) {asked : List (String × Value)}
    (hfit : ∀ change ∈ asked, repo.objection? change.1 = none) :
    Revises r asked (r.update asked) where
  changed name value h := by
    obtain ⟨before, after, hasked, -⟩ := List.lookup_eq_some_iff.mp h
    have hmem : (name, value) ∈ asked := by
      rw [hasked]
      exact List.mem_append_right _ List.mem_cons_self
    obtain ⟨f, hf, -⟩ := objection?_eq_none_iff.mp (hfit _ hmem)
    have hfound : r.values.lookup name ≠ none := by
      rw [ne_eq, r.lookup_values_eq_none_iff, hf]
      exact Option.some_ne_none f
    obtain ⟨old, hold⟩ := Option.ne_none_iff_exists'.mp hfound
    rw [r.lookup_values_update, hold, h]
    rfl
  kept name h := by
    rw [r.lookup_values_update, h]
    cases r.values.lookup name <;> rfl

theorem sort_of_objection? {name : String} {fault : Fault} (h : repo.objection? name = some fault) :
    fault.sort = .configuration := by
  refine repo.columnOf_failsBy name fault ?_
  rw [columnOf_eq, h]
  rfl

/-- The columns of an update are those of the fields that are changed. -/
theorem equations_update (r : Record repo.model) (changes : List (String × Value)) :
    ((Operation.update r changes).entries.map fun entry =>
        Statement.equation (Text.stripBrackets entry.1) entry.2) =
      (changes.filter fun change => !change.2.isNull).map fun change =>
        Text.stripBrackets ((repo.model.field? change.1).elim change.1 Field.column)
          ++ "=" ++ ("'" ++ change.2.toText ++ "'") := by
  rw [Operation.equations_eq, Operation.entries, List.map_map]
  rfl

/-- **AN UPDATE IS IDLE, REFUSED OR ONE WRITE**: for every record and every list of changes,
    those that are not absent decide. The first one that does not fit is the fault, then a
    missing key, and otherwise one statement is written that sets each of them where the
    record has its key. Another record is returned only if some record was touched, and it
    differs from the given one in the changed fields alone. -/
theorem update_settled (repo : Repository) (b : Behaviour) (r : Record repo.model)
    (changes : List (String × Value)) :
    Updates repo b r (changes.filter fun change => !change.2.isNull)
      (repo.update b r changes) := by
  refine ⟨update_of_idle, ?_, ?_, ?_⟩
  · intro before change after fault hasked hbefore hfault
    refine ⟨update_of_objection ?_, sort_of_objection? hfault⟩
    rw [hasked]
    exact findSome?_of_first (fun other hother => (hbefore other hother).1) hfault
  · intro hne hfit hkey
    exact update_of_keyless hne
      (List.findSome?_eq_none_iff.mpr fun change hchange => (hfit change hchange).1) hkey
  · intro hne hwritable key hkey hnull _ statement called
    have hfit : ∀ change ∈ changes.filter fun change => !change.2.isNull,
        repo.objection? change.1 = none :=
      fun change hchange => (hwritable change hchange).1
    have ho := update_of_key (b := b) hne (List.findSome?_eq_none_iff.mpr hfit) hkey
    rw [equations_update, Statement.equation, Value.stored_eq_toText hnull] at ho
    refine ⟨oneWrite_handOver repo b .update statement, ?_, ?_, ?_⟩
    · rw [ho, Outcome.trace_map]
    · intro fault hfault
      rw [ho, Outcome.result_map]
      exact map_eq_error_iff.mpr hfault
    · intro affected haffected
      have hresult : (repo.update b r changes).result =
          .ok (if 0 < affected then
            .revised (r.update (changes.filter fun change => !change.2.isNull)) else .kept) := by
        rw [ho, Outcome.result_map]
        exact congrArg (Except.map _) haffected
      refine ⟨?_, ?_⟩
      · intro hnone
        rw [hresult, if_neg (by omega)]
      · intro hsome
        rw [if_pos hsome] at hresult
        exact ⟨_, hresult, revises_update r hfit⟩

/-- A change to the absent value is left out, a field that is not changed is kept, and what is
    written is what is returned. -/
theorem update_settled_absent_owner :
    let id : Field := { name := "id", kind := .integer, alias? := some "ID" }
    let name : Field := { name := "name", kind := .text, alias? := some "[NAME]" }
    let owner : Field := { name := "owner", kind := .text, nullable := true }
    let pets : Table := { name := "PETS", primaryKey := "ID", columns := ["ID", "NAME"] }
    let repo : Repository := ⟨pets, .recorder, ⟨"Pet", [id, name, owner]⟩⟩
    let rex : Record repo.model :=
      ⟨[(id, .int 7), (name, .text "Rex"), (owner, .text "Jane")], rfl⟩
    let statement := "UPDATE PETS SET NAME='Max', ID='8' WHERE ID='7'"
    let o := repo.update { affected := 2 } rex
      [("owner", .null), ("name", .text "Max"), ("id", .int 8)]
    o.trace = ⟨[.write statement], [.built "update" statement]⟩
      ∧ ∃ revised, o.result = .ok (.revised revised)
        ∧ revised.values.lookup "id" = some (.int 8)
        ∧ revised.values.lookup "name" = some (.text "Max")
        ∧ revised.values.lookup "owner" = some (.text "Jane") := by
  intro id name owner pets repo rex statement o
  obtain ⟨-, -, -, hwritten⟩ := update_settled repo { affected := 2 } rex
    [("owner", .null), ("name", .text "Max"), ("id", .int 8)]
  have hkey : rex.toRow.lookup pets.primaryKey = some (.int 7) := rfl
  obtain ⟨hone, htrace, -, hcounted⟩ :=
    hwritten (List.cons_ne_nil _ _) (by decide +kernel) (.int 7) hkey rfl (by decide +kernel)
  obtain ⟨hseen, hresult⟩ := hone.recorded rfl
  obtain ⟨-, hrevised⟩ := hcounted 2 hresult
  obtain ⟨revised, ho, hrevises⟩ := hrevised (by decide)
  exact ⟨(htrace.trans hseen).trans (by decide +kernel), revised, ho,
    hrevises.changed "id" _ rfl, hrevises.changed "name" _ rfl, hrevises.kept "owner" rfl⟩

end Repository

end SqlText
