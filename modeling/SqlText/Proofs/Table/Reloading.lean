import SqlText.Proofs.Table.Acceptance

/-!
# Reloading — stored names are read again

The names of a table can be kept and read as a table again. Reading takes off the blanks around
a name and then its brackets, and does not look for blanks another time. So the blanks inside
of brackets are stored, and then they are around the name and are taken off when it is read
again. A table is read again as it is exactly if no name it stores has blanks around it
(`reload_eq_iff`); if it is not, other names take their place, or nothing is left of its name
or its key and it is refused.

It makes no difference whether one starts from a table or from the names it was made of: put
in brackets, the names of a table make this table (`exists_ofNames_eq`).
-/

namespace SqlText.Table

variable {n : String} {t u : Table}

/-- The table that is read from the names of a table. -/
def reload (t : Table) : Except Fault Table :=
  ofNames t.name t.primaryKey t.columns

/-- A name in brackets is stored without these and otherwise as it is: there are no blanks
    around the brackets. -/
theorem identifier_bracketed (h : Text.stripBrackets n = n) :
    identifier ("[" ++ n ++ "]") = n := by
  have hblanks : Text.stripBlanks ("[" ++ n ++ "]") = "[" ++ n ++ "]" := by
    rw [Text.stripBlanks, Text.strip, Text.stripList_eq_self, String.ofList_toList]
    · intro c hc
      rw [String.toList_append, String.toList_append] at hc
      obtain rfl : '[' = c := Option.some.inj hc
      decide
    · intro c hc
      rw [String.toList_append, List.getLast?_append] at hc
      obtain rfl : ']' = c := Option.some.inj hc
      decide
  have hfront : ∀ c ∈ "[".toList, Text.isBracket c = true := List.all_eq_true.mp rfl
  have hback : ∀ c ∈ "]".toList, Text.isBracket c = true := List.all_eq_true.mp rfl
  rw [identifier, hblanks, Text.stripBrackets, Text.strip_append hfront hback]
  exact h

theorem exists_ofNames_eq (t : Table) :
    ∃ name primaryKey columns, ofNames name primaryKey columns = .ok t := by
  have hbare {n : String} (hn : n ∈ t.names) : n = identifier ("[" ++ n ++ "]") :=
    (identifier_bracketed (t.bare n hn)).symm
  refine ⟨"[" ++ t.name ++ "]", "[" ++ t.primaryKey ++ "]",
    t.columns.map fun column => "[" ++ column ++ "]", ofNames_eq_ok_iff.mpr ⟨?_, ?_, ?_⟩⟩
  · exact hbare (by simp [names])
  · exact hbare (by simp [names])
  · rw [List.map_map]
    refine (List.map_id _).symm.trans ?_
    exact List.map_congr_left fun column hcolumn =>
      hbare (mem_names_of_mem_columns (List.mem_cons_of_mem _ hcolumn))

/-- What is read again has the identifiers of the names. -/
theorem reload_eq_ok_iff : t.reload = .ok u ↔ u.names = t.names.map identifier := by
  rw [reload, ofNames_eq_ok_iff, names, names, List.map_cons, List.map_cons, List.cons.injEq,
    List.cons.injEq]

/-- **READ AGAIN AS STORED**: every table is made of some names. It is read again as it is
    exactly if no name it stores has blanks around it. Otherwise it is another table, of the
    identifiers of its names, or it is refused, because nothing is left of its name or its key
    and for no other reason. -/
theorem reload_eq_iff (t : Table) :
    (∃ name primaryKey columns, ofNames name primaryKey columns = .ok t)
    ∧ (t.reload = .ok t ↔ ∀ n ∈ t.names, Text.stripBlanks n = n)
    ∧ (∀ u, t.reload = .ok u ↔ u.names = t.names.map identifier)
    ∧ ∀ fault, t.reload = .error fault ↔
        (identifier t.name = "" ∨ identifier t.primaryKey = "")
          ∧ fault = .invalid .table
            (emptyIssues "name" t.name ++ emptyIssues "primary_key" t.primaryKey) := by
  refine ⟨t.exists_ofNames_eq, ?_, fun u => reload_eq_ok_iff, ?_⟩
  · have hkept {n : String} (hn : n ∈ t.names) : identifier n = n ↔ Text.stripBlanks n = n := by
      rw [identifier_eq_self_iff, and_iff_left (t.bare n hn)]
    calc t.reload = .ok t
        ↔ t.names.map id = t.names.map identifier := by rw [reload_eq_ok_iff, List.map_id]
      _ ↔ ∀ n ∈ t.names, identifier n = n :=
          List.map_inj_left.trans (forall₂_congr fun _ _ => eq_comm)
      _ ↔ ∀ n ∈ t.names, Text.stripBlanks n = n := forall₂_congr fun _ => hkept
  · intro fault
    rw [reload, ofNames_eq_error_iff, objections_of_mem t.primaryKey_declared, ne_eq,
      List.append_eq_nil_iff, emptyIssues_eq_nil_iff, emptyIssues_eq_nil_iff, ← not_or, not_not]

/-- The table of `[ Users ]` stores the blanks, and they are taken off when it is read again. -/
theorem not_forall_reload_eq :
    ¬ ∀ (name primaryKey : String) (columns : List String) (t : Table),
      ofNames name primaryKey columns = .ok t → ofNames t.name t.primaryKey t.columns = .ok t := by
  intro h
  have hstored := h "[ Users ]" "ID" [] { name := " Users ", primaryKey := "ID", columns := [] }
    (ofNames_eq_ok_iff.mpr (by decide))
  exact absurd (ofNames_eq_ok_iff.mp hstored) (by decide)

end SqlText.Table
