import SqlText.Text.Ranges
import SqlText.Text.Strip

/-!
# Blanks — the characters that count as white space

Identifiers lose the blanks around them, and a fragment of a statement loses those
at its end. The class has twenty-nine members: the ASCII blanks together with the
four information separators, the next-line control, the no-break space, and the
spaces and separators of the general category *Z*.

Around a number only the twenty-five blanks count that have the property *White_Space*
(`isWhiteSpace`); the information separators do not.
-/

namespace SqlText.Text

/-- The blanks by code point, as ranges with both ends included. -/
def blankRanges : List (Nat × Nat) :=
  [(0x09, 0x0D), (0x1C, 0x20), (0x85, 0x85), (0xA0, 0xA0), (0x1680, 0x1680),
   (0x2000, 0x200A), (0x2028, 0x2029), (0x202F, 0x202F), (0x205F, 0x205F), (0x3000, 0x3000)]

/-- A character that counts as white space. -/
def isBlank (c : Char) : Bool :=
  inRanges blankRanges c.toNat

/-- A character of the property *White_Space*: a blank that is no information separator. -/
def isWhiteSpace (c : Char) : Bool :=
  isBlank c && !(0x1C ≤ c.toNat && c.toNat ≤ 0x1F)

/-- The text without the blanks around it. -/
def stripBlanks (text : String) : String :=
  strip isBlank text

/-- The text without the blanks at its end. -/
def stripEndBlanks (text : String) : String :=
  stripEnd isBlank text

end SqlText.Text
