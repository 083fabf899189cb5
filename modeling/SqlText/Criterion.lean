import SqlText.Relation
import SqlText.Text.Strip

/-!
# Criteria — one condition on one column

A criterion relates a column to a value. Its column is stored without brackets, so
that both spellings of a name are the same column, and its value as text. The value
is put between single quotes as it is: a quote inside it is not escaped.

`Criterion.render` is the text of a criterion that stands alone. Among criteria on
the same column it may be written differently; that is the matter of the clause.
-/

namespace SqlText

/-- A condition on one column. -/
structure Criterion where
  /-- The column, without brackets around it. -/
  column : String
  relation : Relation
  /-- The text of the value. -/
  value : String
deriving DecidableEq, Repr

namespace Criterion

/-- The criterion that relates a column, however bracketed, to a value. -/
def of (column : String) (relation : Relation) (value : Value := .text "") : Criterion :=
  ⟨Text.stripBrackets column, relation, value.stored⟩

/-- The value between quotes; a pattern is open at both ends. -/
def quotedValue (c : Criterion) : String :=
  if c.relation.isPattern then "'%" ++ c.value ++ "%'" else "'" ++ c.value ++ "'"

/-- The text of a criterion that stands alone. -/
def render (c : Criterion) : String :=
  match c.relation with
  | .any => "(" ++ c.column ++ " IS NOT NULL AND " ++ c.column ++ "<>'')"
  | .all => ""
  | .isNull => c.column ++ " IS NULL"
  | .isNotNull => c.column ++ " IS NOT NULL"
  | .betweenStart => c.column ++ " BETWEEN (CAST(" ++ c.quotedValue ++ " AS DATE))"
  | .betweenEnd => "(CAST(" ++ c.quotedValue ++ " AS DATE))"
  | relation => c.column ++ relation.operator ++ c.quotedValue

instance : ToString Criterion := ⟨render⟩

/-- Brackets around a column make no difference. -/
@[simp] theorem of_stripBrackets (column : String) (relation : Relation) (value : Value) :
    of (Text.stripBrackets column) relation value = of column relation value := by
  rw [of, Text.stripBrackets_stripBrackets]; rfl

example : (of "[AGE]" .greaterOrEqual (.int 18)).render = "AGE>='18'" := by decide

end Criterion

end SqlText
