import SqlText.Text.Strip
import SqlText.Value

/-!
# Assignments — one column and the value it is given

Updates and inserts are made of assignments. As in a criterion, the column is stored
without brackets and the value as text, and the value is quoted as it is.
-/

namespace SqlText

/-- A column and the value it is given. -/
structure Assignment where
  /-- The column, without brackets around it. -/
  column : String
  /-- The text of the value. -/
  value : String
deriving DecidableEq, Repr

namespace Assignment

/-- The assignment of a value to a column, however bracketed. -/
def of (column : String) (value : Value) : Assignment :=
  ⟨Text.stripBrackets column, value.stored⟩

/-- The value between quotes. -/
def quotedValue (a : Assignment) : String :=
  "'" ++ a.value ++ "'"

/-- The text of the assignment. -/
def render (a : Assignment) : String :=
  a.column ++ "=" ++ a.quotedValue

instance : ToString Assignment := ⟨render⟩

/-- Brackets around a column make no difference. -/
@[simp] theorem of_stripBrackets (column : String) (value : Value) :
    of (Text.stripBrackets column) value = of column value := by
  rw [of, Text.stripBrackets_stripBrackets]; rfl

end Assignment

end SqlText
