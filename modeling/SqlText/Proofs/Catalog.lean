import SqlText.Catalog
import SqlText.Proofs.Table.Acceptance

/-!
# Catalogs — what is found and what becomes of it

A name is looked up among what is known of a schema. It is not there, or the entry that is
there has not one column as its key, or a table is made of the names in the entry. Nothing else
can go wrong with the key: it is among the columns in a database, so it is among them when it is
read (`Entry.toTable_of_key`).

But names of a database are read like names from a caller, without the blanks and brackets around
them. So an entry is described as it is exactly if there are none (`Entry.toTable_eq_iff`), and an
entry whose name or key is nothing else is refused. These are all outcomes of a lookup
(`Metadata.table_outcomes`).
-/

namespace SqlText.Catalog

open Table (identifier emptyIssues)

variable {metadata : Metadata} {schema? : Option String} {entry : Entry} {name key : String}
  {t : Table} {fault : Fault}

/-- The keys of all that is known are columns. -/
def Metadata.Keyed (metadata : Metadata) : Prop :=
  ∀ known ∈ metadata, ∀ column ∈ known.2.primaryKey, column ∈ known.2.columns

/-- So it is in what a database says about a schema. -/
theorem keyed_reflect (catalog : Catalog) (schema? : Option String) :
    (catalog.reflect schema?).Keyed := by
  intro known hknown column hcolumn
  unfold reflect at hknown
  dsimp only at hknown
  split at hknown
  · cases hknown
  · obtain ⟨definition, -, rfl⟩ := List.mem_map.mp hknown
    exact Definition.mem_columns_of_mem_primaryKey hcolumn

-- ── What an entry describes ───────────────────────────────────────────────────

namespace Entry

theorem toTable_of_key (h : entry.primaryKey = [key]) :
    entry.toTable = Table.ofNames entry.name key entry.columns := by
  rw [toTable, h]

theorem toTable_of_length (h : entry.primaryKey.length ≠ 1) :
    entry.toTable = .error (.keyCount entry.name entry.primaryKey.length) := by
  rw [toTable]
  split
  · next hkey => rw [hkey] at h; exact absurd rfl h
  · rfl

/-- An entry is refused because it has not one column as its key, or for what there is to say
    against its names. -/
theorem toTable_eq_error_cases (h : entry.toTable = .error fault) :
    (entry.primaryKey.length ≠ 1 ∧ fault = .keyCount entry.name entry.primaryKey.length)
      ∨ ∃ issues, fault = .invalid .table issues := by
  by_cases hlength : entry.primaryKey.length = 1
  · obtain ⟨key, hkey⟩ := List.length_eq_one_iff.mp hlength
    rw [toTable_of_key hkey, Table.ofNames_eq_error_iff] at h
    exact .inr ⟨_, h.2⟩
  · rw [toTable_of_length hlength] at h
    cases h
    exact .inl ⟨hlength, rfl⟩

theorem toTable_ne_tableNotFound (entry : Entry) {missing : String} :
    entry.toTable ≠ .error (.tableNotFound missing) := by
  intro h
  obtain ⟨-, hfault⟩ | ⟨_, hfault⟩ := toTable_eq_error_cases h <;> cases hfault

theorem toTable_eq_keyCount_iff {n : String} {count : Nat} :
    entry.toTable = .error (.keyCount n count) ↔
      entry.primaryKey.length ≠ 1 ∧ n = entry.name ∧ count = entry.primaryKey.length := by
  constructor
  · intro h
    obtain ⟨hlength, hfault⟩ | ⟨_, hfault⟩ := toTable_eq_error_cases h
    · cases hfault
      exact ⟨hlength, rfl, rfl⟩
    · cases hfault
  · rintro ⟨hlength, rfl, rfl⟩
    exact toTable_of_length hlength

/-- An entry is described as it is exactly if its names are identifiers as they are. -/
theorem toTable_eq_iff (hkey : entry.primaryKey = [key]) (hmem : key ∈ entry.columns) :
    (∃ t, entry.toTable = .ok t
        ∧ t.name = entry.name ∧ t.primaryKey = key ∧ t.columns = entry.columns) ↔
      (entry.name ≠ "" ∧ key ≠ "")
        ∧ ∀ n ∈ entry.name :: entry.columns, Text.stripBlanks n = n ∧ Text.stripBrackets n = n := by
  rw [toTable_of_key hkey]
  constructor
  · rintro ⟨t, ht, hname, hprimary, hcolumns⟩
    have hstored := Table.ofNames_eq_ok_iff.mp ht
    rw [hname, hprimary, hcolumns] at hstored
    refine ⟨⟨hname ▸ t.name_ne_empty, hprimary ▸ t.primaryKey_ne_empty⟩, ?_⟩
    intro n hn
    rw [← Table.identifier_eq_self_iff]
    rcases List.mem_cons.mp hn with rfl | hn
    · exact hstored.1.symm
    · exact (List.map_inj_left.mp ((List.map_id _).trans hstored.2.2) n hn).symm
  · rintro ⟨⟨hname, hprimary⟩, hkept⟩
    have hself {n : String} (hn : n ∈ entry.name :: entry.columns) : n = identifier n :=
      (Table.identifier_eq_self_iff.mpr (hkept n hn)).symm
    have hkeySelf : key = identifier key := hself (List.mem_cons_of_mem _ hmem)
    have hcolumns : entry.columns = entry.columns.map identifier := by
      conv => lhs; rw [← List.map_id entry.columns]
      exact List.map_congr_left fun n hn => hself (List.mem_cons_of_mem _ hn)
    obtain ⟨t, ht⟩ : ∃ t, Table.ofNames entry.name key entry.columns = .ok t := by
      rw [Table.exists_ofNames_iff, Table.objections_eq_nil_iff, ← hcolumns, ← hkeySelf,
        ← hself List.mem_cons_self]
      exact ⟨hname, hprimary, .inr hmem⟩
    obtain ⟨htname, htkey, htcolumns⟩ := Table.ofNames_eq_ok_iff.mp ht
    exact ⟨t, ht, htname.trans (hself List.mem_cons_self).symm, htkey.trans hkeySelf.symm,
      htcolumns.trans hcolumns.symm⟩

/-- What an entry with one key can be refused for is an empty name or an empty key. -/
theorem toTable_eq_error_iff (hkey : entry.primaryKey = [key]) (hmem : key ∈ entry.columns) :
    entry.toTable = .error fault ↔
      (identifier entry.name = "" ∨ identifier key = "")
        ∧ fault = .invalid .table (emptyIssues "name" entry.name ++ emptyIssues "primary_key" key)
      := by
  rw [toTable_of_key hkey, Table.ofNames_eq_error_iff, Table.objections_of_mem (.inr hmem), ne_eq,
    List.append_eq_nil_iff, Table.emptyIssues_eq_nil_iff, Table.emptyIssues_eq_nil_iff, ← not_or,
    not_not]

end Entry

-- ── What is found ─────────────────────────────────────────────────────────────

theorem Metadata.table_of_lookup (h : metadata.lookup (qualifiedName schema? name) = some entry) :
    metadata.table schema? name = entry.toTable := by
  rw [table, h]

/-- The key of an entry that is found is one of its columns. -/
theorem Metadata.Keyed.mem_columns (hkeyed : metadata.Keyed) {text : String}
    (h : metadata.lookup text = some entry) (hkey : entry.primaryKey = [key]) :
    key ∈ entry.columns := by
  obtain ⟨before, after, rfl, -⟩ := List.lookup_eq_some_iff.mp h
  refine hkeyed (text, entry) (List.mem_append_right _ List.mem_cons_self) key ?_
  rw [hkey]
  exact List.mem_cons_self

/-- A table is not found exactly if nothing is known under its qualified name. -/
theorem Metadata.table_eq_tableNotFound_iff {missing : String} :
    metadata.table schema? name = .error (.tableNotFound missing) ↔
      metadata.lookup (qualifiedName schema? name) = none ∧ missing = name := by
  cases h : metadata.lookup (qualifiedName schema? name) with
  | none =>
      rw [table, h, and_iff_right rfl, Except.error.injEq, Fault.tableNotFound.injEq]
      exact eq_comm
  | some entry =>
      rw [table_of_lookup h]
      refine iff_of_false entry.toTable_ne_tableNotFound ?_
      rintro ⟨hnone, -⟩
      cases hnone

/-- An entry is refused for its key exactly if it is found and does not have one. -/
theorem Metadata.table_eq_keyCount_iff {n : String} {count : Nat} :
    metadata.table schema? name = .error (.keyCount n count) ↔
      ∃ entry, metadata.lookup (qualifiedName schema? name) = some entry
        ∧ entry.primaryKey.length ≠ 1 ∧ n = entry.name ∧ count = entry.primaryKey.length := by
  cases h : metadata.lookup (qualifiedName schema? name) with
  | none =>
      rw [table, h]
      simp
  | some entry =>
      rw [table_of_lookup h, Entry.toTable_eq_keyCount_iff]
      simp only [Option.some.injEq, exists_eq_left']

/-- **WHAT BECOMES OF A TABLE**: it is not found exactly if nothing is known under its qualified
    name, and it is refused for its key exactly if what is found has not one column as its key.
    Otherwise it is described as it is exactly if there are no blanks and no brackets around its
    name and its columns, and its name and its key are not empty. If it is not, then its
    identifiers are described, or nothing is left of its name or its key, and for this and for
    nothing else it is refused. -/
theorem Metadata.table_outcomes (hkeyed : metadata.Keyed) (schema? : Option String)
    (name : String) :
    (∀ missing, metadata.table schema? name = .error (.tableNotFound missing) ↔
      metadata.lookup (qualifiedName schema? name) = none ∧ missing = name)
    ∧ (∀ n count, metadata.table schema? name = .error (.keyCount n count) ↔
      ∃ entry, metadata.lookup (qualifiedName schema? name) = some entry
        ∧ entry.primaryKey.length ≠ 1 ∧ n = entry.name ∧ count = entry.primaryKey.length)
    ∧ ∀ entry key, metadata.lookup (qualifiedName schema? name) = some entry →
      entry.primaryKey = [key] →
      ((∃ t, metadata.table schema? name = .ok t
          ∧ t.name = entry.name ∧ t.primaryKey = key ∧ t.columns = entry.columns) ↔
        (entry.name ≠ "" ∧ key ≠ "")
          ∧ ∀ n ∈ entry.name :: entry.columns, Text.stripBlanks n = n ∧ Text.stripBrackets n = n)
      ∧ (∀ t, metadata.table schema? name = .ok t ↔
        t.name = identifier entry.name ∧ t.primaryKey = identifier key
          ∧ t.columns = entry.columns.map identifier)
      ∧ ∀ fault, metadata.table schema? name = .error fault ↔
        (identifier entry.name = "" ∨ identifier key = "")
          ∧ fault =
            .invalid .table (emptyIssues "name" entry.name ++ emptyIssues "primary_key" key) := by
  refine ⟨fun _ => table_eq_tableNotFound_iff, fun _ _ => table_eq_keyCount_iff, ?_⟩
  intro entry key hfound hkey
  have hmem : key ∈ entry.columns := hkeyed.mem_columns hfound hkey
  rw [table_of_lookup hfound]
  refine ⟨entry.toTable_eq_iff hkey hmem, ?_, fun _ => entry.toTable_eq_error_iff hkey hmem⟩
  intro t
  rw [Entry.toTable_of_key hkey, Table.ofNames_eq_ok_iff]

/-- A schema of three tables: one is described as it is, one has no key, and of one there is
    nothing left. The table of no name that is known is not found. -/
theorem table_outcomes_of_schema :
    let catalog : Catalog := { schemas := [{ name := "app", tables :=
      [{ name := "Users", columns := ["NAME", "ID"], key := ["id"] },
        { name := "Logs", columns := ["TEXT"], key := [] },
        { name := "[]", columns := ["ID"], key := ["ID"] }] }] }
    let metadata := catalog.reflect (some "App")
    metadata.Keyed
    ∧ (∃ t, metadata.table (some "App") "Users" = .ok t
        ∧ t.name = "Users" ∧ t.primaryKey = "ID" ∧ t.columns = ["NAME", "ID"])
    ∧ metadata.table (some "App") "Logs" = .error (.keyCount "Logs" 0)
    ∧ metadata.table (some "App") "[]" = .error (.invalid .table [.at "name" .emptyIdentifier])
    ∧ metadata.table (some "App") "users" = .error (.tableNotFound "users") := by
  intro catalog metadata
  have hkeyed : metadata.Keyed := catalog.keyed_reflect (some "App")
  have houtcomes := Metadata.table_outcomes hkeyed (some "App")
  obtain ⟨-, -, husers⟩ := houtcomes "Users"
  obtain ⟨-, hlogs, -⟩ := houtcomes "Logs"
  obtain ⟨-, -, hempty⟩ := houtcomes "[]"
  obtain ⟨hmissing, -, -⟩ := houtcomes "users"
  refine ⟨hkeyed, ?_, ?_, ?_, ?_⟩
  · exact (husers ⟨"Users", ["NAME", "ID"], ["ID"]⟩ "ID" (by decide) rfl).1.mpr (by decide)
  · exact (hlogs "Logs" 0).mpr ⟨⟨"Logs", ["TEXT"], []⟩, by decide, by decide, rfl, rfl⟩
  · exact ((hempty ⟨"[]", ["ID"], ["ID"]⟩ "ID" (by decide) rfl).2.2 _).mpr
      ⟨by decide, rfl⟩
  · exact (hmissing "users").mpr (by decide)

/-- The key of this table is `[ID]`, and another column is described as its key. -/
theorem not_forall_table_described :
    ¬ ∀ (metadata : Metadata) (schema? : Option String) (name : String) (entry : Entry)
        (key : String), metadata.Keyed →
      metadata.lookup (qualifiedName schema? name) = some entry → entry.primaryKey = [key] →
      ∃ t, metadata.table schema? name = .ok t
        ∧ t.name = entry.name ∧ t.primaryKey = key ∧ t.columns = entry.columns := by
  intro h
  let catalog : Catalog := { schemas := [{ name := "main", tables :=
    [{ name := "Users", columns := ["[ID]", "ID"], key := ["[ID]"] }] }] }
  let entry : Entry := ⟨"Users", ["[ID]", "ID"], ["[ID]"]⟩
  have hfound : (catalog.reflect none).lookup (qualifiedName none "Users") = some entry := by decide
  obtain ⟨t, ht, -, hkey, -⟩ :=
    h (catalog.reflect none) none "Users" entry "[ID]" (catalog.keyed_reflect none) hfound rfl
  rw [Metadata.table_of_lookup hfound, Entry.toTable_of_key rfl, Table.ofNames_eq_ok_iff,
    hkey] at ht
  exact absurd ht.2.1 (by decide)

end SqlText.Catalog
