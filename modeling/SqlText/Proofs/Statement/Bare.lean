import SqlText.Proofs.Clause.Runs
import SqlText.Proofs.Statement.Guards

/-!
# Bare names — names without brackets are written as they are

Brackets are all that a criterion and an assignment take off the name of a column. So a name
that has no bracket at either end (`Text.ne_bracket_of_bare`) is kept (`Criterion.of_bare`,
`Assignment.of_bare`), and it is what a statement shows of the column: in a condition that it
equals a value (`Statement.build_equal`), and beside or above the values that are assigned
(`Statement.map_of_bare`). Any other name stands there without its brackets
(`Statement.update?_assignments`, `Statement.insert?_assignments`).

A condition that a column equals a value is never left out, so a request with this condition is
written unless it assigns nothing.
-/

namespace SqlText

-- ── Bare names ────────────────────────────────────────────────────────────────

/-- A name that loses nothing with its brackets has none at its ends. -/
theorem Text.ne_bracket_of_bare {name : String} (h : stripBrackets name = name) {c : Char}
    (hc : name.toList.head? = some c ∨ name.toList.getLast? = some c) : c ≠ '[' ∧ c ≠ ']' := by
  have hlist : stripList isBracket name.toList = name.toList := by
    rw [← toList_strip]
    exact congrArg String.toList h
  have hnot : isBracket c = false := by
    rcases hc with hhead | hlast
    · exact head?_stripList name.toList (by rwa [hlist])
    · exact getLast?_stripList name.toList (by rwa [hlist])
  rw [isBracket, Bool.or_eq_false_iff, beq_eq_false_iff_ne, beq_eq_false_iff_ne] at hnot
  exact hnot

theorem Criterion.of_bare {column : String} (h : Text.stripBrackets column = column)
    (relation : Relation) (value : Value) :
    of column relation value = ⟨column, relation, value.stored⟩ := by
  rw [of, h]

theorem Assignment.of_bare {column : String} (h : Text.stripBrackets column = column)
    (value : Value) : of column value = ⟨column, value.stored⟩ := by
  rw [of, h]

-- ── Statements with bare names ────────────────────────────────────────────────

namespace Statement

variable {column : String} {cells : List (String × Value)} (table : String) (value : Value)

/-- The assignments of values to columns. -/
def assignments (cells : List (String × Value)) : List Assignment :=
  cells.map fun cell => .of cell.1 cell.2

/-- A column and a value as they are written beside each other. -/
def equation (column : String) (value : Value) : String :=
  column ++ "=" ++ ("'" ++ value.stored ++ "'")

theorem build_equal (h : Text.stripBrackets column = column) :
    Clause.Where.build [.of column .equal value] = equation column value := by
  rw [Clause.Where.build_singleton, Criterion.of_bare h]
  rfl

theorem not_silent_equal : ¬Clause.Where.Silent [.of column .equal value] := by
  rintro ⟨hall, -⟩
  cases hall _ List.mem_cons_self

theorem select?_equal (h : Text.stripBrackets column = column) :
    select? table [.of column .equal value] ∅ =
      some ("SELECT * FROM " ++ table ++ " WHERE " ++ equation column value) := by
  have hfront : (∅ : ModifierList).front = "" := by decide
  have hback : (∅ : ModifierList).back = "" := by decide
  have hdistinct : (∅ : ModifierList).hasKind .distinct = false := by decide
  rw [select?_eq, if_neg (List.cons_ne_nil _ _), if_neg (not_silent_equal value),
    build_equal value h, hfront, hback, hdistinct]
  refine congrArg some (String.toList_injective ?_)
  simp [part]

theorem delete?_equal (h : Text.stripBrackets column = column) :
    delete? table [.of column .equal value] =
      some ("DELETE FROM " ++ table ++ " WHERE " ++ equation column value) := by
  rw [delete?_eq, if_neg (not_silent_equal value), build_equal value h]

theorem assignments_ne_nil (hne : cells ≠ []) : assignments cells ≠ [] :=
  mt List.map_eq_nil_iff.mp hne

/-- Values are written below their columns, which have lost their brackets. -/
theorem insert?_assignments (hne : cells ≠ []) :
    insert? table (assignments cells) =
      some ("INSERT INTO " ++ table ++ " "
        ++ ("(" ++ ", ".intercalate (cells.map fun cell => Text.stripBrackets cell.1)
          ++ ") VALUES ("
          ++ ", ".intercalate (cells.map fun cell => "'" ++ cell.2.stored ++ "'") ++ ")")) := by
  rw [insert?_eq, if_neg (assignments_ne_nil hne), Clause.Assignments.buildColumnsAndValues,
    assignments, List.map_map, List.map_map]
  rfl

/-- Values are written beside their columns, and the condition is never left out. -/
theorem update?_assignments (hne : cells ≠ []) (hcolumn : Text.stripBrackets column = column) :
    update? table (assignments cells) [.of column .equal value] =
      some ("UPDATE " ++ table
        ++ " SET " ++ ", ".intercalate
          (cells.map fun cell => equation (Text.stripBrackets cell.1) cell.2)
        ++ " WHERE " ++ equation column value) := by
  rw [update?_eq, if_neg (not_or.mpr ⟨assignments_ne_nil hne, not_silent_equal value⟩),
    Clause.Assignments.build_eq_intercalate, assignments, List.map_map,
    build_equal value hcolumn]
  rfl

/-- Bare columns are written as they are. -/
theorem map_of_bare (h : ∀ cell ∈ cells, Text.stripBrackets cell.1 = cell.1) {β : Type}
    (f : String → Value → β) :
    (cells.map fun cell => f (Text.stripBrackets cell.1) cell.2) =
      cells.map fun cell => f cell.1 cell.2 := by
  refine List.map_congr_left ?_
  intro cell hcell
  rw [h cell hcell]

end Statement

end SqlText
