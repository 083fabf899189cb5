import SqlText.Decimal.Shortest

/-!
# Layout — how chosen digits are written

The digits of a number and its power of ten do not yet say how it looks: where the
positional form ends, how an exponent is padded, what stands for an infinity. These
decisions are one record, `Layout`, and writing is a function of it.

In the positional form a number always shows a point and a digit behind it; in the
other form the point follows the first digit and is left out if there is no second,
and the exponent carries a sign.
-/

namespace SqlText.Decimal

/-- The decisions of a written form of numbers. -/
structure Layout where
  /-- The least power of ten of the first digit that is still written positionally. -/
  positionalFrom : Int
  /-- The power of ten of the first digit from which the exponent is written. -/
  positionalBelow : Int
  /-- The least number of digits of an exponent. -/
  exponentDigits : Nat
deriving DecidableEq, Repr

/-- `count` zeros. -/
def zeros (count : Nat) : List Char :=
  List.replicate count '0'

namespace Layout

/-- An exponent with its sign, padded to the least number of digits. -/
def writeExponent (layout : Layout) (e : Int) : List Char :=
  let digits := Nat.toDigits 10 e.natAbs
  (if e < 0 then '-' else '+') :: (zeros (layout.exponentDigits - digits.length) ++ digits)

/-- The positional form of digits whose first one counts `10^e`. -/
def writePositional (digits : List Char) (e : Int) : List Char :=
  if e < 0 then
    '0' :: '.' :: (zeros (-e - 1).toNat ++ digits)
  else
    let whole := e.toNat + 1
    if digits.length ≤ whole then
      digits ++ zeros (whole - digits.length) ++ ['.', '0']
    else
      digits.take whole ++ '.' :: digits.drop whole

/-- The form with an exponent of digits whose first one counts `10^e`. -/
def writeScientific (layout : Layout) (digits : List Char) (e : Int) : List Char :=
  match digits with
  | first :: second :: rest => first :: '.' :: second :: rest ++ 'e' :: layout.writeExponent e
  | _ => digits ++ 'e' :: layout.writeExponent e

/-- A decimal under a layout. -/
def writeDecimal (layout : Layout) (x : Scientific) : List Char :=
  let digits := Nat.toDigits 10 x.digits
  let e := x.exponent + (digits.length - 1 : Nat)
  if layout.positionalFrom ≤ e && e < layout.positionalBelow then
    writePositional digits e
  else
    layout.writeScientific digits e

/-- A float under a layout: the fewest digits that read back, or the name of what is no number. -/
def write (layout : Layout) (x : Float) : String :=
  match readFloat x with
  | .nan => "nan"
  | .infinite negative => if negative then "-inf" else "inf"
  | .finite negative magnitude =>
    String.ofList ((if negative then ['-'] else []) ++ layout.writeDecimal magnitude.shortest)

end Layout

end SqlText.Decimal
