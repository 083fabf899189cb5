/-!
# Binary numbers — what the sixty-four bits of a float stand for

A float is not-a-number, an infinity, or a sign with a magnitude `m · 2^q`. The
magnitude is kept as the pair of naturals and integers it is (`Binary`), together
with one fact about its neighbours: just above a power of two the gap below is
half the gap above. Everything that is said about floats later, the digits they
are written with and the integers they are equal to, is exact arithmetic on `Binary`.
-/

namespace SqlText.Decimal

/-- A finite magnitude `mantissa · 2^exponent`. -/
structure Binary where
  mantissa : Nat
  exponent : Int
  /-- The gap to the next smaller magnitude is half the gap to the next larger one. -/
  narrowBelow : Bool
deriving DecidableEq, Repr

/-- What the bits of a float stand for. -/
inductive Reading where
  | nan
  | infinite (negative : Bool)
  | finite (negative : Bool) (magnitude : Binary)
deriving DecidableEq, Repr

/-- The reading of a bit pattern: one bit of sign, eleven of exponent, fifty-two of fraction. -/
def readBits (bits : Nat) : Reading :=
  let negative := bits / Nat.pow 2 63 % 2 == 1
  let biased : Nat := bits / Nat.pow 2 52 % Nat.pow 2 11
  let fraction : Nat := bits % Nat.pow 2 52
  if biased = Nat.pow 2 11 - 1 then
    if fraction = 0 then .infinite negative else .nan
  else if biased = 0 then
    .finite negative ⟨fraction, -1074, false⟩
  else
    .finite negative
      ⟨Nat.pow 2 52 + fraction, (biased : Int) - 1075, fraction == 0 && biased != 1⟩

/-- The reading of a float. -/
def readFloat (x : Float) : Reading :=
  readBits x.toBits.toNat

/-- The natural number that the magnitude is, if it is one. -/
def Binary.toNat? (x : Binary) : Option Nat :=
  let scaled := x.mantissa * Nat.pow 2 x.exponent.toNat
  let divisor := Nat.pow 2 (-x.exponent).toNat
  if scaled % divisor = 0 then some (scaled / divisor) else none

/-- The reading is a number. -/
def Reading.isFinite : Reading → Bool
  | .finite .. => true
  | .infinite _ | .nan => false

/-- The integer that the reading is, if it is one. -/
def Reading.toInt? : Reading → Option Int
  | .finite negative magnitude =>
    magnitude.toNat?.map fun n => if negative then -(n : Int) else n
  | .infinite _ | .nan => none

end SqlText.Decimal
