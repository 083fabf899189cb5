import SqlText.Decimal.Layout
import SqlText.Text.Quoted

/-!
# Values — what callers put into statements and get out of rows

A statement is built from names and values. A value is whatever a caller may hand
over or a row may hold: nothing, a truth value, an integer of any size, a float, a
text, a list, or a map. In a statement a value is its text. `Value.text` gives a
text value as it is and everything else as its literal; inside a list or a map a
text is quoted, so that the items can be told apart.

Criteria and assignments store the text of their value, and there the absent value
is the empty text (`Value.stored`).

Integers are written with `Value.maxDigits` decimal digits at most, and a value with a
longer one in it has no text (`Value.hasText`): whoever asks for it gets an error of the
conversion instead. The functions here do not stop at that limit. What they give beyond
it stands for nothing, so a law that names the text of a value and what comes of it asks
that the value has one.
-/

namespace SqlText

/-- A value handed over by a caller or found in a row. -/
inductive Value where
  | null
  | bool (b : Bool)
  | int (n : Int)
  | float (x : Float)
  | text (s : String)
  | list (items : List Value)
  | map (entries : List (String × Value))

instance : Inhabited Value := ⟨.null⟩

namespace Value

/-- Floats are written positionally from `10^-4` to below `10^16`, and otherwise with a
    signed exponent of at least two digits. -/
def floatLayout : Decimal.Layout := ⟨-4, 16, 2⟩

mutual

/-- The literal of a value, in which texts are quoted. -/
def literal : Value → String
  | null => "None"
  | bool true => "True"
  | bool false => "False"
  | int n => toString n
  | float x => floatLayout.write x
  | text s => Text.quoted s
  | list items => "[" ++ ", ".intercalate (literals items) ++ "]"
  | map entries => "\x7b" ++ ", ".intercalate (entryLiterals entries) ++ "\x7d"

/-- The literals of the items of a list. -/
def literals : List Value → List String
  | [] => []
  | item :: items => literal item :: literals items

/-- The literals of the entries of a map. -/
def entryLiterals : List (String × Value) → List String
  | [] => []
  | (key, item) :: entries =>
    (Text.quoted key ++ ": " ++ literal item) :: entryLiterals entries

end

/-- The text of a value: itself if it is a text, otherwise its literal. -/
protected def toText : Value → String
  | text s => s
  | value => literal value

/-- The most decimal digits that an integer is written with. -/
def maxDigits : Nat := 4300

mutual

/-- The value can be written: the integers in it have at most `maxDigits` digits. -/
def hasText : Value → Bool
  | null | bool _ | float _ | text _ => true
  | int n => (Nat.toDigits 10 n.natAbs).length ≤ maxDigits
  | list items => haveTexts items
  | map entries => entriesHaveTexts entries

/-- The items of a list can be written. -/
def haveTexts : List Value → Bool
  | [] => true
  | item :: items => hasText item && haveTexts items

/-- The entries of a map can be written. -/
def entriesHaveTexts : List (String × Value) → Bool
  | [] => true
  | (_, item) :: entries => hasText item && entriesHaveTexts entries

end

example : (int (10 ^ maxDigits - 1)).hasText = true
    ∧ (list [int (10 ^ maxDigits)]).hasText = false := by
  decide +kernel

/-- The text kept of a value that goes into a statement; nothing is kept of the absent value. -/
def stored : Value → String
  | null => ""
  | value => value.toText

/-- The absent value. -/
def isNull : Value → Bool
  | null => true
  | _ => false

@[simp] theorem toText_text (s : String) : (text s).toText = s := rfl

/-- What is kept of a text is the text, so keeping a kept text changes nothing. -/
@[simp] theorem stored_text (s : String) : (text s).stored = s := rfl

@[simp] theorem stored_null : null.stored = "" := rfl

theorem stored_eq_toText {value : Value} (h : value.isNull = false) :
    value.stored = value.toText := by
  cases value with
  | null => exact absurd h (by decide)
  | _ => rfl

example : (list [text "a", int (-2), map [("k", null)]]).toText = "['a', -2, \x7b'k': None\x7d]" := by
  decide +kernel

end Value

end SqlText
