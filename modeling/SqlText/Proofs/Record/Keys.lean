import Mathlib.Data.List.Nodup
import SqlText.Proofs.Record.Confinement
import SqlText.Proofs.Record.Writes

/-!
# Keys — which record an update or a deletion is for

An update or a deletion looks in the row of its record for an entry under the primary key, by
exactly that name. There are three cases. Without such an entry it is refused (`Rejects`), and
this depends on the model alone: no field has the key (`Record.lookup_toRow_eq_none_iff`). With
an entry it is for the records whose key is the text of the value (`Addresses`). And that text
is empty if the value is absent: a record without a key is not refused but written under the
empty key (`refused_iff_unmapped`).

An insertion drops the brackets around the key of a field, and the search for the primary key
does not. So they agree on the field exactly if its key is spelled without brackets; a record
under `[ID]` can be inserted, and then it can be neither changed nor deleted
(`primaryKeyValue_eq_iff`).
-/

namespace SqlText

open Executor (Behaviour)

variable {α β : Type} {b : Behaviour}

-- ── Refusals ──────────────────────────────────────────────────────────────────

/-- Something does not fit, and the executor is not reached. -/
structure Refused (o : Outcome α) : Prop where
  misfit : ∃ fault, o.result = .error fault ∧ fault.sort = .configuration
  silent : o.trace.events = []

theorem Refused.of_fail {fault : Fault} (h : fault.sort = .configuration) :
    Refused (.fail fault : Outcome α) :=
  ⟨⟨fault, rfl, h⟩, rfl⟩

theorem refused_map_iff (f : α → β) (o : Outcome α) : Refused (f <$> o) ↔ Refused o := by
  constructor
  · rintro ⟨⟨fault, hfault, hsort⟩, hsilent⟩
    rw [Outcome.result_map] at hfault
    rw [Outcome.trace_map] at hsilent
    exact ⟨⟨fault, map_eq_error_iff.mp hfault, hsort⟩, hsilent⟩
  · rintro ⟨⟨fault, hfault, hsort⟩, hsilent⟩
    refine ⟨⟨fault, ?_, hsort⟩, ?_⟩
    · rw [Outcome.result_map]
      exact map_eq_error_iff.mpr hfault
    · rw [Outcome.trace_map]
      exact hsilent

theorem Record.lookup_toRow_eq_none_iff {model : Model} (r : Record model) (column : String) :
    r.toRow.lookup column = none ↔ ∀ f ∈ model.fields, f.key ≠ column := by
  rw [toRow, Row.lookup_ofEntries_eq_none_iff, List.forall_mem_map, ← r.fields_eq,
    List.forall_mem_map]

namespace Repository

variable {repo : Repository} {r : Record repo.model} {changes : List (String × Value)}
  {key value : Value}

/-- What comes back from an executor never says that something does not fit. -/
theorem not_refused_handOver (v : Verb) (statement : String) :
    ¬Refused (repo.handOver b v statement) := by
  rintro ⟨⟨fault, hfault, hsort⟩, -⟩
  have hcall : (repo.executor.perform b (.write statement)).result = .error fault := by
    rw [Executor.perform, Outcome.result_map]
    rw [handOver_eq] at hfault
    exact map_eq_error_iff.mpr hfault
  rcases Executor.sort_of_perform hcall with h | h
  · rw [h] at hsort
    cases hsort
  · rw [h] at hsort
    cases hsort

theorem filter_ne_nil (hasked : ∃ change ∈ changes, change.2.isNull = false) :
    (changes.filter fun change => !change.2.isNull) ≠ [] := by
  obtain ⟨change, hchange, hnull⟩ := hasked
  have hmem : change ∈ changes.filter fun change => !change.2.isNull := by
    rw [List.mem_filter, hnull]
    exact ⟨hchange, rfl⟩
  exact List.ne_nil_of_mem hmem

/-- Changes that are not absent and fit raise no objection. -/
theorem findSome?_objection?_eq_none_iff :
    ((changes.filter fun change => !change.2.isNull).findSome? fun change =>
        repo.objection? change.1) = none ↔
      ∀ change ∈ changes, change.2.isNull = false → repo.objection? change.1 = none := by
  rw [List.findSome?_eq_none_iff]
  constructor
  · intro h change hchange hnull
    refine h change (List.mem_filter.mpr ⟨hchange, ?_⟩)
    rw [hnull]
    rfl
  · intro h change hchange
    obtain ⟨hchange, hnull⟩ := List.mem_filter.mp hchange
    exact h change hchange (by simpa using hnull)

-- ── The key of a record ───────────────────────────────────────────────────────

/-- The record can be neither deleted nor changed. -/
structure Rejects (repo : Repository) (r : Record repo.model) : Prop where
  delete : ∀ b, Refused (repo.delete b r)
  update : ∀ b changes, (∃ change ∈ changes, change.2.isNull = false) →
    Refused (repo.update b r changes)

/-- A deletion of the record, and each update by changes that fit, is for the records with
    this text under the primary key. -/
structure Addresses (repo : Repository) (r : Record repo.model) (text : String) : Prop where
  delete : ∀ b, repo.delete b r = repo.handOver b .delete
    ("DELETE FROM " ++ repo.table.name
      ++ " WHERE " ++ (repo.table.primaryKey ++ "=" ++ ("'" ++ text ++ "'")))
  update : ∀ b changes, (∃ change ∈ changes, change.2.isNull = false) →
    (∀ change ∈ changes, change.2.isNull = false → repo.objection? change.1 = none) →
      ∃ set, (repo.update b r changes).trace = (repo.handOver b .update
        ("UPDATE " ++ repo.table.name ++ " SET " ++ set
          ++ " WHERE " ++ (repo.table.primaryKey ++ "=" ++ ("'" ++ text ++ "'")))).trace

theorem refused_update_of_objection {fault : Fault}
    (h : ((changes.filter fun change => !change.2.isNull).findSome? fun change =>
      repo.objection? change.1) = some fault) : Refused (repo.update b r changes) := by
  obtain ⟨change, -, hfault⟩ := List.exists_of_findSome?_eq_some h
  rw [update_of_objection h]
  exact .of_fail (sort_of_objection? hfault)

theorem refused_update_of_keyless (hasked : ∃ change ∈ changes, change.2.isNull = false)
    (h : r.toRow.lookup repo.table.primaryKey = none) : Refused (repo.update b r changes) := by
  cases hfit : (changes.filter fun change => !change.2.isNull).findSome? fun change =>
      repo.objection? change.1 with
  | some fault => exact refused_update_of_objection hfit
  | none =>
      rw [update_of_keyless (filter_ne_nil hasked) hfit h]
      exact .of_fail rfl

theorem rejects_of_keyless (h : r.toRow.lookup repo.table.primaryKey = none) :
    Rejects repo r where
  delete b := by
    rw [delete_of_keyless h]
    exact .of_fail rfl
  update b changes hasked := refused_update_of_keyless hasked h

theorem addresses_of_key (h : r.toRow.lookup repo.table.primaryKey = some key) :
    Addresses repo r key.stored where
  delete b := delete_of_key h
  update b changes hasked hfit := by
    rw [update_of_key (filter_ne_nil hasked) (findSome?_objection?_eq_none_iff.mpr hfit) h,
      Outcome.trace_map]
    exact ⟨_, rfl⟩

theorem refused_delete_iff :
    Refused (repo.delete b r) ↔ r.toRow.lookup repo.table.primaryKey = none := by
  constructor
  · intro hrefused
    cases h : r.toRow.lookup repo.table.primaryKey with
    | none => rfl
    | some key =>
        rw [delete_of_key h] at hrefused
        exact absurd hrefused (not_refused_handOver _ _)
  · intro h
    exact (rejects_of_keyless h).delete b

theorem refused_update_iff (hasked : ∃ change ∈ changes, change.2.isNull = false) :
    Refused (repo.update b r changes) ↔ r.toRow.lookup repo.table.primaryKey = none
      ∨ ∃ change ∈ changes, change.2.isNull = false ∧ repo.objection? change.1 ≠ none := by
  constructor
  · intro hrefused
    cases h : r.toRow.lookup repo.table.primaryKey with
    | none => exact .inl rfl
    | some key =>
        refine .inr ?_
        by_contra hnone
        have hfit : ∀ change ∈ changes, change.2.isNull = false →
            repo.objection? change.1 = none := by
          intro change hchange hnull
          by_contra hfault
          exact hnone ⟨change, hchange, hnull, hfault⟩
        rw [update_of_key (filter_ne_nil hasked) (findSome?_objection?_eq_none_iff.mpr hfit) h,
          refused_map_iff] at hrefused
        exact not_refused_handOver _ _ hrefused
  · rintro (h | ⟨change, hchange, hnull, hfault⟩)
    · exact refused_update_of_keyless hasked h
    · cases hfit : (changes.filter fun change => !change.2.isNull).findSome? fun change =>
          repo.objection? change.1 with
      | none => exact absurd (findSome?_objection?_eq_none_iff.mp hfit change hchange hnull) hfault
      | some fault => exact refused_update_of_objection hfit

/-- **A KEY IS MISSED, NOT ITS VALUE**: a deletion is refused exactly if no field of the model is
    mapped to the primary key, and an update exactly in that case or for a change that does not
    fit. A record whose key is absent is not refused: it is written under the empty key. -/
theorem refused_iff_unmapped (repo : Repository) (b : Behaviour) (r : Record repo.model)
    {changes : List (String × Value)} (hasked : ∃ change ∈ changes, change.2.isNull = false) :
    (Refused (repo.delete b r) ↔ ∀ f ∈ repo.model.fields, f.key ≠ repo.table.primaryKey)
      ∧ (Refused (repo.update b r changes) ↔
        (∀ f ∈ repo.model.fields, f.key ≠ repo.table.primaryKey)
          ∨ ∃ change ∈ changes, change.2.isNull = false ∧ repo.objection? change.1 ≠ none)
      ∧ (r.toRow.lookup repo.table.primaryKey = some .null → Addresses repo r "") := by
  rw [← r.lookup_toRow_eq_none_iff]
  refine ⟨refused_delete_iff, refused_update_iff hasked, ?_⟩
  intro h
  exact addresses_of_key h

/-- A deletion of a record without a value for its key is for the records with the empty key. -/
theorem refused_iff_unmapped_absent_key :
    let id : Field := { name := "id", kind := .text, nullable := true, alias? := some "ID" }
    let name : Field := { name := "name", kind := .text, alias? := some "NAME" }
    let users : Table := { name := "Users", primaryKey := "ID", columns := [] }
    let repo : Repository := ⟨users, .recorder, ⟨"User", [id, name]⟩⟩
    let jane : Record repo.model := ⟨[(id, .null), (name, .text "Jane")], rfl⟩
    (∃ change ∈ [("name", Value.text "Joan")], change.2.isNull = false)
      ∧ ¬Refused (repo.delete {} jane) ∧ ¬Refused (repo.update {} jane [("name", .text "Joan")])
      ∧ repo.delete {} jane = repo.handOver {} .delete "DELETE FROM Users WHERE ID=''" := by
  intro id name users repo jane
  have hasked : ∃ change ∈ [("name", Value.text "Joan")], change.2.isNull = false :=
    ⟨_, List.mem_singleton_self _, rfl⟩
  have hmapped : ¬∀ f ∈ repo.model.fields, f.key ≠ repo.table.primaryKey := by
    decide
  have hfit : ¬∃ change ∈ [("name", Value.text "Joan")],
      change.2.isNull = false ∧ repo.objection? change.1 ≠ none := by
    rintro ⟨change, hchange, -, hfault⟩
    obtain rfl := List.mem_singleton.mp hchange
    exact hfault rfl
  obtain ⟨hdelete, hupdate, hnull⟩ := refused_iff_unmapped repo {} jane hasked
  refine ⟨hasked, ?_, ?_, ?_⟩
  · rw [hdelete]
    exact hmapped
  · rw [hupdate, not_or]
    exact ⟨hmapped, hfit⟩
  · exact (hnull rfl).delete {}

theorem not_forall_keyless_refused :
    ¬∀ (repo : Repository) (b : Behaviour) (r : Record repo.model)
      (changes : List (String × Value)), (∃ change ∈ changes, change.2.isNull = false) →
        (r.toRow.lookup repo.table.primaryKey = none
          ∨ r.toRow.lookup repo.table.primaryKey = some .null) →
        Refused (repo.update b r changes) ∧ Refused (repo.delete b r) := by
  intro h
  let id : Field := { name := "id", kind := .text, nullable := true, alias? := some "ID" }
  let repo : Repository :=
    ⟨{ name := "Users", primaryKey := "ID", columns := [] }, .recorder, ⟨"User", [id]⟩⟩
  obtain ⟨-, -, hsilent⟩ := h repo {} ⟨[(id, .null)], rfl⟩ [("id", .text "7")]
    ⟨_, List.mem_singleton_self _, rfl⟩ (.inr rfl)
  revert hsilent
  decide +kernel

-- ── The key of an insertion ───────────────────────────────────────────────────

/-- An insertion of the record is accepted and puts the value under the primary key. -/
structure Puts (repo : Repository) (r : Record repo.model) (value : Value) : Prop where
  accepted : ∀ entry ∈ (Operation.insert r).entries, repo.table.Accepts entry.1
  under : ∃ key, (key, value) ∈ (Operation.insert r).entries
    ∧ Text.stripBrackets key = repo.table.primaryKey

theorem Puts.insert_eq (h : Puts repo r value) (b : Behaviour) :
    ∃ statement, repo.insert b r = repo.handOver b .insert statement := by
  obtain ⟨key, hentry, -⟩ := h.under
  rw [insert_of_fit (List.ne_nil_of_mem hentry) (Table.findSome?_of_accepts h.accepted)]
  exact ⟨_, rfl⟩

/-- With a column for each field, the field that is spelled like the primary key is the one that
    an insertion puts under it. -/
theorem Puts.lookup_eq
    (hdistinct : (repo.model.fields.map fun f => Text.stripBrackets f.key).Nodup)
    (h : Puts repo r value) (hspelled : ∃ f ∈ repo.model.fields, f.key = repo.table.primaryKey) :
    r.toRow.lookup repo.table.primaryKey = some value := by
  have hstripped : ((repo.model.fields.map Field.key).map Text.stripBrackets).Nodup := by
    rw [List.map_map]
    exact hdistinct
  have hkeys : (repo.model.fields.map Field.key).Nodup := hstripped.of_map
  have hcolumns : Row.columns r.toRow = repo.model.fields.map Field.key := by
    rw [r.toRow_eq_map hkeys, Row.columns, List.map_map, ← r.fields_eq, List.map_map]
    rfl
  obtain ⟨key, hentry, hkey⟩ := h.under
  obtain ⟨hrow, -⟩ := List.mem_filter.mp hentry
  have hmem : key ∈ repo.model.fields.map Field.key := by
    rw [← hcolumns]
    exact List.mem_map.mpr ⟨_, hrow, rfl⟩
  obtain ⟨f, hf, hfkey⟩ := hspelled
  -- without brackets both keys are the primary key, so they are keys of one field
  have hsame : key = repo.table.primaryKey := by
    refine List.inj_on_of_nodup_map hstripped hmem ?_ ?_
    · rw [← hfkey]
      exact List.mem_map_of_mem hf
    · rw [hkey, repo.table.stripBrackets_primaryKey]
  rw [hsame] at hrow
  refine Row.lookup_eq_some_of_mem ?_ hrow
  rw [hcolumns]
  exact hkeys

/-- **ONE KEY UNLESS IN BRACKETS**: a value that an insertion puts under the primary key is the
    key of the record exactly if a field is mapped to the primary key as the table spells it.
    Then updates and deletions are for the record that was inserted, and otherwise, though
    the insertion is accepted, they are refused. -/
theorem primaryKeyValue_eq_iff (repo : Repository) (r : Record repo.model) {value : Value}
    (hdistinct : (repo.model.fields.map fun f => Text.stripBrackets f.key).Nodup)
    (hputs : Puts repo r value) :
    (repo.primaryKeyValue r = .ok value ↔
        ∃ f ∈ repo.model.fields, f.key = repo.table.primaryKey)
      ∧ ((∃ f ∈ repo.model.fields, f.key = repo.table.primaryKey) →
        Addresses repo r value.toText)
      ∧ ((∀ f ∈ repo.model.fields, f.key ≠ repo.table.primaryKey) →
        (∀ b, ∃ statement, repo.insert b r = repo.handOver b .insert statement)
          ∧ Rejects repo r) := by
  refine ⟨⟨?_, ?_⟩, ?_, ?_⟩
  · intro h
    rw [primaryKeyValue_eq_ok_iff] at h
    by_contra hspelled
    have hnone : r.toRow.lookup repo.table.primaryKey = none := by
      rw [r.lookup_toRow_eq_none_iff]
      intro f hf hkey
      exact hspelled ⟨f, hf, hkey⟩
    rw [hnone] at h
    cases h
  · intro hspelled
    exact primaryKeyValue_eq_ok_iff.mpr (hputs.lookup_eq hdistinct hspelled)
  · intro hspelled
    obtain ⟨key, hentry, -⟩ := hputs.under
    rw [← Value.stored_eq_toText ((Operation.insert r).isNull_of_mem_entries _ hentry)]
    exact addresses_of_key (hputs.lookup_eq hdistinct hspelled)
  · intro hunmapped
    exact ⟨hputs.insert_eq, rejects_of_keyless ((r.lookup_toRow_eq_none_iff _).mpr hunmapped)⟩

/-- A record under a key in brackets is inserted and cannot be deleted. -/
theorem primaryKeyValue_eq_iff_bracketed :
    let id : Field := { name := "id", kind := .text, alias? := some "[ID]" }
    let name : Field := { name := "name", kind := .text, alias? := some "NAME" }
    let users : Table := { name := "Users", primaryKey := "ID", columns := [] }
    let repo : Repository := ⟨users, .recorder, ⟨"User", [id, name]⟩⟩
    let jane : Record repo.model := ⟨[(id, .text "7"), (name, .text "Jane")], rfl⟩
    (repo.model.fields.map fun f => Text.stripBrackets f.key).Nodup
      ∧ Puts repo jane (.text "7") ∧ Refused (repo.delete {} jane) := by
  intro id name users repo jane
  have hdistinct : (repo.model.fields.map fun f => Text.stripBrackets f.key).Nodup := by
    decide
  have hputs : Puts repo jane (.text "7") :=
    ⟨fun _ _ => .inl rfl, "[ID]", List.mem_cons_self, by decide⟩
  obtain ⟨-, -, hrejects⟩ := primaryKeyValue_eq_iff repo jane hdistinct hputs
  exact ⟨hdistinct, hputs, (hrejects (by decide)).2.delete {}⟩

theorem not_forall_primaryKeyValue_eq :
    ¬∀ (repo : Repository) (r : Record repo.model) (value : Value),
      (repo.model.fields.map fun f => Text.stripBrackets f.key).Nodup → Puts repo r value →
        repo.primaryKeyValue r = .ok value := by
  intro h
  let id : Field := { name := "id", kind := .text, alias? := some "[ID]" }
  let repo : Repository :=
    ⟨{ name := "Users", primaryKey := "ID", columns := [] }, .recorder, ⟨"User", [id]⟩⟩
  have hputs : Puts repo ⟨[(id, .text "7")], rfl⟩ (.text "7") :=
    ⟨fun _ _ => .inl rfl, "[ID]", List.mem_cons_self, by decide⟩
  cases h repo ⟨[(id, .text "7")], rfl⟩ (.text "7") (by decide) hputs

end Repository

end SqlText
