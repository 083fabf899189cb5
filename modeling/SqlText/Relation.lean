import SqlText.Fault

/-!
# Relations — how a column is compared with a value

Ten relations have an operator that stands between column and value. The two halves
of a range test, the relation that constrains nothing and the relation that asks for
any content are shaped by the clause as a whole and have none.
-/

namespace SqlText

/-- How a criterion relates its column to its value. -/
inductive Relation where
  | equal
  | notEqual
  | greater
  | less
  | greaterOrEqual
  | lessOrEqual
  | like
  | notLike
  | isNull
  | isNotNull
  /-- The first value of a range. -/
  | betweenStart
  /-- The second value of a range. -/
  | betweenEnd
  /-- No constraint. -/
  | all
  /-- Anything with content. -/
  | any
deriving DecidableEq, Repr

instance : Named Relation where
  family := "Relation"
  all := [.equal, .notEqual, .greater, .less, .greaterOrEqual, .lessOrEqual, .like, .notLike,
    .isNull, .isNotNull, .betweenStart, .betweenEnd, .all, .any]
  name
    | .equal => "EQUAL"
    | .notEqual => "NOT_EQUAL"
    | .greater => "GREATER"
    | .less => "LESS"
    | .greaterOrEqual => "GREATER_OR_EQUAL"
    | .lessOrEqual => "LESS_OR_EQUAL"
    | .like => "LIKE"
    | .notLike => "NOT_LIKE"
    | .isNull => "IS_NULL"
    | .isNotNull => "IS_NOT_NULL"
    | .betweenStart => "BETWEEN_START"
    | .betweenEnd => "BETWEEN_END"
    | .all => "ALL"
    | .any => "ANY"

namespace Relation

/-- The text between column and value; empty for a relation without an operator. -/
def operator : Relation → String
  | equal => "="
  | notEqual => "<>"
  | greater => ">"
  | less => "<"
  | greaterOrEqual => ">="
  | lessOrEqual => "<="
  | like => " LIKE "
  | notLike => " NOT LIKE "
  | isNull => " IS NULL "
  | isNotNull => " IS NOT NULL "
  | betweenStart | betweenEnd | all | any => ""

/-- The operator of the relation that a value names; empty if it names none. -/
def operatorNamed : Value → String
  | .text s => ((Named.ofName? s : Option Relation).map operator).getD ""
  | _ => ""

/-- A relation that looks for its value anywhere in the column's text. -/
def isPattern : Relation → Bool
  | like | notLike => true
  | _ => false

/-- A relation that does not look at its value. -/
def ignoresValue : Relation → Bool
  | isNull | isNotNull | all | any => true
  | _ => false

/-- Every relation is found under its name. -/
theorem ofName?_name (relation : Relation) :
    Named.ofName? (Named.name relation) = some relation := by
  cases relation <;> decide

end Relation

end SqlText
