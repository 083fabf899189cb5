import SqlText.Text.Printable

/-!
# Quoted — a text as a literal that can be read in one line

Messages and descriptions show a text between quotes, and so do lists and maps of
values. Single quotes are used unless the text holds a single quote and no double
quote, so that a quote has to be escaped only where both kinds occur. Between the
quotes a backslash and the quote in use are written with a backslash before them,
and the three line controls as `\n`, `\r` and `\t`. Every other character that is
not printable is written by its code point in hexadecimal digits (`writeCode`): two
of them behind `\x`, four behind `\u` or eight behind `\U`, as few as it takes. All
else stands for itself.
-/

namespace SqlText.Text

/-- The quote put around a text: a double quote if that saves escaping single ones. -/
def quoteMark (text : List Char) : Char :=
  if text.contains '\'' && !text.contains '"' then '"' else '\''

/-- The last `width` hexadecimal digits of a number, zeros included. -/
def hexDigits : (width n : Nat) → List Char
  | 0, _ => []
  | width + 1, n => hexDigits width (n / 16) ++ [Nat.digitChar (n % 16)]

/-- A character by its code point, in the shortest form that has room for it. -/
def writeCode (c : Char) : List Char :=
  if c.toNat ≤ 0xFF then '\\' :: 'x' :: hexDigits 2 c.toNat
  else if c.toNat ≤ 0xFFFF then '\\' :: 'u' :: hexDigits 4 c.toNat
  else '\\' :: 'U' :: hexDigits 8 c.toNat

/-- The written form of one character inside quotes `mark`. -/
def escapeChar (mark c : Char) : List Char :=
  if c = '\\' || c = mark then ['\\', c]
  else if c = '\n' then ['\\', 'n']
  else if c = '\r' then ['\\', 'r']
  else if c = '\t' then ['\\', 't']
  else if isPrintable c then [c]
  else writeCode c

/-- The text as a quoted literal. -/
def quoted (text : String) : String :=
  let mark := quoteMark text.toList
  String.ofList (mark :: text.toList.flatMap (escapeChar mark) ++ [mark])

example : quoted "it's" = "\"it's\"" := by decide

example : quoted "a\n\x7f\u200b\u3000ü" = "'a\\n\\x7f\\u200b\\u3000ü'" := by decide +kernel

/-- The quoted literals of a list, between brackets and separated by commas. -/
def quotedList (texts : List String) : String :=
  "[" ++ ", ".intercalate (texts.map quoted) ++ "]"

end SqlText.Text
