import SqlText.Fault
import SqlText.Text.Casing

/-!
# Modifiers — one directive on the result of a selection

A modifier asks for an order, for distinct rows, for the least or greatest value of
a column, or for the first rows only. Its value is a column name or a count and is
written in upper case, whatever case it was given in.
-/

namespace SqlText

/-- What a modifier asks for. -/
inductive Modifier.Kind where
  /-- Rows by the column, ascending. -/
  | orderAsc
  /-- Rows by the column, descending. -/
  | orderDesc
  /-- Rows that differ in the column. -/
  | distinct
  /-- The greatest value of the column. -/
  | max
  /-- The least value of the column. -/
  | min
  /-- As many rows as the value says. -/
  | top
deriving DecidableEq, Repr

instance : Named Modifier.Kind where
  family := "ModifierKind"
  all := [.orderAsc, .orderDesc, .distinct, .max, .min, .top]
  name
    | .orderAsc => "ORDER_ASC"
    | .orderDesc => "ORDER_DESC"
    | .distinct => "DISTINCT"
    | .max => "MAX"
    | .min => "MIN"
    | .top => "TOP"

/-- Every kind is found under its name. -/
theorem Modifier.Kind.ofName?_name (kind : Modifier.Kind) :
    Named.ofName? (Named.name kind) = some kind := by
  cases kind <;> decide

/-- A kind that a list of modifiers holds at most once. -/
def Modifier.Kind.isSingle : Modifier.Kind → Bool
  | .max | .min | .top => true
  | .orderAsc | .orderDesc | .distinct => false

/-- A kind that asks for an order. -/
def Modifier.Kind.isOrder : Modifier.Kind → Bool
  | .orderAsc | .orderDesc => true
  | .distinct | .max | .min | .top => false

/-- One directive on the result of a selection. -/
structure Modifier where
  kind : Modifier.Kind
  /-- The value as it is written, in upper case. -/
  value : String
deriving DecidableEq, Repr

namespace Modifier

/-- The modifier of a kind with a value of any sort. -/
def of (kind : Kind) (value : Value) : Modifier :=
  ⟨kind, Text.upper value.toText⟩

/-- The text of the modifier. All but an order end in a blank. -/
def render (m : Modifier) : String :=
  match m.kind with
  | .orderAsc => m.value ++ " ASC"
  | .orderDesc => m.value ++ " DESC"
  | .distinct => "DISTINCT(" ++ m.value ++ ") "
  | .max => "MAX(" ++ m.value ++ ") "
  | .min => "MIN(" ++ m.value ++ ") "
  | .top => "TOP " ++ m.value ++ " "

instance : ToString Modifier := ⟨render⟩

/-- The modifier with its parts named, its value as a quoted literal. -/
def describe (m : Modifier) : String :=
  let kind := Named.name m.kind
  "Modifier(kind=<ModifierKind." ++ kind ++ ": " ++ Text.quoted kind ++ ">, value="
    ++ Text.quoted m.value ++ ")"

end Modifier

end SqlText
