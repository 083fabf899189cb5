import SqlText.Criterion

/-!
# The condition clause — criteria joined into one condition

Criteria are written in their order. What is written for one of them depends on its
neighbours: criteria next to each other on the same column form one `IN` group, and
the two halves of a range test are written side by side. A criterion therefore has a
*place* (`place`): it opens a group, continues it, closes it, or stands by itself.
Criteria on the same column that are not adjacent belong to different groups.

A criterion that closes a group or stands is followed by `AND`; one that stands and
writes nothing, because it constrains nothing, leaves no trace at all. The clause is
the accumulated text without the last joiner.
-/

namespace SqlText.Clause.Where

/-- The text between two conditions. -/
def joiner : String := " AND "

/-- The text between two values of a group. -/
def separator : String := ", "

/-- The part that a criterion plays next to its neighbours. -/
inductive Place where
  /-- The first of a group. -/
  | opens
  /-- A member of a group that is neither first nor last. -/
  | continues
  /-- The last of a group. -/
  | closes
  /-- No member of a group. -/
  | stands
deriving DecidableEq, Repr

/-- The neighbour is there and is on the same column. -/
def sharesColumn (c : Criterion) (neighbour : Option Criterion) : Bool :=
  neighbour.any (·.column = c.column)

/-- The place of a criterion between the one before and the one after it. The start of a
    range never opens or continues a group, and its end never closes one. -/
def place (before : Option Criterion) (c : Criterion) (after : Option Criterion) : Place :=
  if sharesColumn c after && c.relation ≠ .betweenStart then
    if sharesColumn c before then .continues else .opens
  else if sharesColumn c before && c.relation ≠ .betweenEnd then .closes
  else .stands

/-- What is written for a criterion at its place. -/
def Place.write (c : Criterion) : Place → String
  | .opens => c.column ++ " IN (" ++ c.quotedValue ++ separator
  | .continues => c.quotedValue ++ separator
  | .closes => c.quotedValue ++ ")" ++ joiner
  | .stands => if c.render = "" then "" else c.render ++ joiner

/-- What is written for the criteria of a list that follow `before`. -/
def accumulate (before : Option Criterion) : List Criterion → String
  | [] => ""
  | c :: rest => (place before c rest.head?).write c ++ accumulate (some c) rest

/-- The condition made of the criteria; empty if they constrain nothing. -/
def build (criteria : List Criterion) : String :=
  Text.trimSuffix (accumulate none criteria) joiner

example : build [.of "A" .equal (.int 1), .of "A" .equal (.int 2), .of "B" .isNull] =
    "A IN ('1', '2') AND B IS NULL" := by decide

end SqlText.Clause.Where
