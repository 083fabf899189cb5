import SqlText.Text.Blank

/-!
# Numerals — the texts that write an integer

White space around a numeral does not matter. In front there may be a sign. Zeros at
the front of the digits count for nothing; single underscores may stand between digits;
a point with zeros, at least one, may stand behind them.

The parts are taken off from the outside: the white space, the sign (`splitSign`), the
zeros at the front (`dropZeros?`), the point with its zeros (`wholePart?`), the
underscores (`ungroup?`). What is left has to be digits (`readDigits?`). Two liberties
follow from this order: among the zeros at the front underscores may stand in any
number, and right behind those zeros a minus sign counts, unless there was one in front.
-/

namespace SqlText.Decimal

/-- An integer as it is written. -/
structure Numeral where
  /-- The minus sign is there. -/
  negative : Bool
  /-- The digits, the first of which is a zero only if it is the only one. -/
  digits : List Nat
deriving DecidableEq, Repr

namespace Numeral

/-- The integer that is written. -/
def toInt (n : Numeral) : Int :=
  let magnitude : Nat := n.digits.foldl (fun value digit => 10 * value + digit) 0
  if n.negative then -(magnitude : Int) else magnitude

-- ── Parts ─────────────────────────────────────────────────────────────────────

/-- Whether a minus sign is in front, and the text without a sign in front. -/
def splitSign : List Char → Bool × List Char
  | '-' :: rest => (true, rest)
  | '+' :: rest => (false, rest)
  | text => (false, text)

/-- The text without the zeros at its front, of which `last` was taken off last. One of
    them stays if nothing else is left in front of a point or of the end. -/
def skipZeros? (last : Char) : List Char → Option (List Char)
  | [] => some [last]
  | c :: rest =>
    if c = '0' || c = '_' then skipZeros? c rest
    else if c = '.' then some (last :: c :: rest)
    else if c.isDigit || c = '-' then some (c :: rest)
    else none

/-- The text without zeros at its front, if it starts with a digit. -/
def dropZeros? : List Char → Option (List Char)
  | [] => none
  | c :: rest =>
    if c = '0' then skipZeros? c rest
    else if c.isDigit then some (c :: rest)
    else none

/-- The text in front of a point that has only zeros behind it, or without a point all of it. -/
def wholePart? (text : List Char) : Option (List Char) :=
  match text.dropWhile (· ≠ '.') with
  | [] => some text
  | _ :: fraction =>
    if !fraction.isEmpty && fraction.all (· = '0') then some (text.takeWhile (· ≠ '.')) else none

/-- The text without its underscores, if each has something else on either side. -/
def ungroup? (text : List Char) : Option (List Char) :=
  if text.head? = some '_' || text.getLast? = some '_' || Text.occursInList ['_', '_'] text then
    none
  else
    some (text.filter (· ≠ '_'))

/-- The digits that the text consists of. -/
def readDigits? : List Char → Option (List Nat)
  | [] => none
  | '0' :: _ :: _ => none
  | text => text.mapM fun c => if c.isDigit then some (c.toNat - '0'.toNat) else none

-- ── Reading ───────────────────────────────────────────────────────────────────

/-- The numeral that a text is, if it is one. -/
def read? (text : String) : Option Numeral := do
  let (negative, unsigned) := splitSign (Text.strip Text.isWhiteSpace text).toList
  match ← ungroup? (← wholePart? (← dropZeros? unsigned)) with
  | '-' :: rest => if negative then none else pure ⟨true, ← readDigits? rest⟩
  | rest => pure ⟨negative, ← readDigits? rest⟩

example : (read? " -0_1_007.00\t").map toInt = some (-1007) ∧ (read? "00-7").map toInt = some (-7) := by
  decide +kernel

example : read? "7." = none ∧ read? "1__0" = none ∧ read? "+-7" = none ∧ read? "-00-7" = none := by
  decide +kernel

end Numeral

end SqlText.Decimal
