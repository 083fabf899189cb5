import SqlText.Assignment

/-!
# The assignment clauses — columns and the values they are given

An update lists its assignments one by one. An insert lists the columns first and the
values after them; both lists follow the assignments, so they have one length and
one order.
-/

namespace SqlText.Clause.Assignments

/-- The text between two items. -/
def separator : String := ", "

/-- Each assignment with a separator behind it. -/
def accumulate : List Assignment → String
  | [] => ""
  | a :: rest => a.render ++ separator ++ accumulate rest

/-- The assignments of an update. -/
def build (assignments : List Assignment) : String :=
  Text.trimSuffix (accumulate assignments) separator

/-- The columns and the values of an insert. -/
def buildColumnsAndValues (assignments : List Assignment) : String :=
  "(" ++ separator.intercalate (assignments.map (·.column)) ++ ") VALUES ("
    ++ separator.intercalate (assignments.map (·.quotedValue)) ++ ")"

end SqlText.Clause.Assignments
