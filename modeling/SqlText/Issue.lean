/-!
# Issues — what is wrong with one part of some data

Data that describes a table, or a row that is to become a record, is checked part
by part, and all that is wrong is reported at once. An issue names the part by a
path of keys and positions and says what is wrong there; issues about the data as
a whole have the empty path.
-/

namespace SqlText

/-- One step of the way to a part: an entry of a map or an item of a list. -/
inductive Step where
  | key (name : String)
  | index (position : Nat)
deriving DecidableEq, Repr

namespace Issue

/-- What can be wrong with a part. -/
inductive Cause where
  | missing
  | notText
  | notList
  | unexpected
  | emptyIdentifier
  /-- The primary key is not one of the columns that are declared. -/
  | keyNotAmongColumns (primaryKey table : String)
  | notInteger
  /-- A number that lies between two integers. -/
  | fractional
  /-- A float that is no number. -/
  | notFinite
  /-- A text that does not write an integer. -/
  | unparsable
  /-- An integer that is too large for the form it is given in. -/
  | oversized
deriving DecidableEq, Repr

/-- The cause in words. -/
def Cause.message : Cause → String
  | .missing => "Field required"
  | .notText => "Input should be a valid string"
  | .notList => "Input should be a valid list"
  | .unexpected => "Extra inputs are not permitted"
  | .emptyIdentifier => "Value error, identifier must not be empty"
  | .keyNotAmongColumns primaryKey table =>
    "Value error, primary key '" ++ primaryKey ++ "' is not among the columns of '" ++ table ++ "'"
  | .notInteger => "Input should be a valid integer"
  | .fractional => "Input should be a valid integer, got a number with a fractional part"
  | .notFinite => "Input should be a finite number"
  | .unparsable => "Input should be a valid integer, unable to parse string as an integer"
  | .oversized => "Unable to parse input string as an integer, exceeded maximum size"

end Issue

/-- Something wrong with the part at `path`. -/
structure Issue where
  path : List Step
  cause : Issue.Cause
deriving DecidableEq, Repr

/-- An issue with the entry `key`. -/
def Issue.at (key : String) (cause : Issue.Cause) : Issue :=
  ⟨[.key key], cause⟩

end SqlText
