import SqlText.Value

/-!
# Rows — values by column, in order

A row gives each of its columns a value and has the columns in an order. `put` keeps
that order: a column that is there already keeps its place and changes its value, a
new one goes to the end.
-/

namespace SqlText

/-- Values by column, in order. -/
abbrev Row := List (String × Value)

namespace Row

/-- The row with `value` for `column`. -/
def put (column : String) (value : Value) : Row → Row
  | [] => [(column, value)]
  | entry :: rest =>
    if entry.1 = column then (column, value) :: rest else entry :: put column value rest

/-- The columns in order. -/
def columns (row : Row) : List String :=
  row.map Prod.fst

/-- The row of some entries, put one after another. -/
def ofEntries (entries : List (String × Value)) : Row :=
  entries.foldl (fun row entry => put entry.1 entry.2 row) []

variable {row : Row} {column other : String} {value : Value}

/-- The value that was put is there. -/
theorem lookup_put_self : (put column value row).lookup column = some value := by
  induction row with
  | nil => simp [put]
  | cons entry rest ih =>
      by_cases h : entry.1 = column
      · simp [put, h]
      · have hne : (column == entry.1) = false := by simpa using Ne.symm h
        rw [put, if_neg h, List.lookup_cons, hne]
        exact ih

/-- Other columns keep their values. -/
theorem lookup_put_of_ne (h : other ≠ column) :
    (put column value row).lookup other = row.lookup other := by
  induction row with
  | nil => simp [put, List.lookup_cons, show (other == column) = false by simpa using h]
  | cons entry rest ih =>
      by_cases he : entry.1 = column
      · have hne : (other == column) = false := by simpa using h
        rw [put, if_pos he, List.lookup_cons, List.lookup_cons, he, hne]
      · rw [put, if_neg he, List.lookup_cons, List.lookup_cons, ih]

/-- A new column goes to the end. -/
theorem put_of_notMem (h : column ∉ columns row) :
    put column value row = row ++ [(column, value)] := by
  induction row with
  | nil => rfl
  | cons entry rest ih =>
      rw [columns, List.map_cons, List.mem_cons, not_or] at h
      obtain ⟨hne, hrest⟩ := h
      rw [put, if_neg (Ne.symm hne), ih hrest]
      rfl

theorem lookup_eq_some_of_mem (h : (columns row).Nodup) (hmem : (column, value) ∈ row) :
    row.lookup column = some value := by
  induction row with
  | nil => cases hmem
  | cons entry rest ih =>
      rw [columns, List.map_cons, List.nodup_cons] at h
      obtain ⟨hhead, hrest⟩ := h
      rcases List.mem_cons.mp hmem with rfl | hmem
      · exact List.lookup_cons_self
      · have hne : column ≠ entry.1 := by
          rintro rfl
          exact hhead (List.mem_map.mpr ⟨_, hmem, rfl⟩)
        rw [List.lookup_cons, beq_false_of_ne hne]
        exact ih hrest hmem

-- ── Rows of entries ───────────────────────────────────────────────────────────

variable {entries : List (String × Value)}

theorem foldl_put_eq_append (h : (columns row ++ columns entries).Nodup) :
    entries.foldl (fun row entry => put entry.1 entry.2 row) row = row ++ entries := by
  induction entries generalizing row with
  | nil => exact (List.append_nil row).symm
  | cons entry entries ih =>
      have hnew : entry.1 ∉ columns row := by
        intro hmem
        obtain ⟨-, -, hapart⟩ := List.nodup_append.mp h
        exact hapart _ hmem _ List.mem_cons_self rfl
      rw [List.foldl_cons, put_of_notMem hnew, ih, List.append_assoc]
      · rfl
      · rw [columns, List.map_append, List.append_assoc]
        exact h

/-- Entries of different columns are a row as they are. -/
theorem ofEntries_eq_self (h : (columns entries).Nodup) : ofEntries entries = entries :=
  foldl_put_eq_append h

theorem lookup_foldl_put_eq_none_iff :
    (entries.foldl (fun row entry => put entry.1 entry.2 row) row).lookup column = none ↔
      row.lookup column = none ∧ ∀ entry ∈ entries, entry.1 ≠ column := by
  induction entries generalizing row with
  | nil => exact (and_iff_left (List.forall_mem_nil _)).symm
  | cons entry entries ih =>
      rw [List.foldl_cons, ih, List.forall_mem_cons]
      by_cases h : entry.1 = column
      · subst h
        simp [lookup_put_self]
      · rw [lookup_put_of_ne (Ne.symm h)]
        simp [h]

/-- A row has a value for exactly the columns of the entries that it is made of. -/
theorem lookup_ofEntries_eq_none_iff :
    (ofEntries entries).lookup column = none ↔ ∀ entry ∈ entries, entry.1 ≠ column := by
  rw [ofEntries, lookup_foldl_put_eq_none_iff]
  exact and_iff_right rfl

end Row

end SqlText
