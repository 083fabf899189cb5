import SqlText.Assignment
import SqlText.Criterion
import SqlText.Modifier
import SqlText.Table

/-!
# Descriptors — the parts that statements are described by

Criteria, assignments, modifiers and tables are plain data: two of them are equal
exactly if they are of one sort and agree in everything they store. What they were
built from does not matter any more.
-/

namespace SqlText

/-- A part that a statement is described by. -/
inductive Descriptor where
  | criterion (c : Criterion)
  | assignment (a : Assignment)
  | modifier (m : Modifier)
  | table (t : Table)
deriving DecidableEq

/-- The spelling of a column does not tell two criteria apart. -/
example : Descriptor.criterion (.of "[A]" .equal (.int 1)) =
    .criterion (.of "A" .equal (.text "1")) := by decide

end SqlText
