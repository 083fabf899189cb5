import SqlText.Decimal.Binary

/-!
# Shortest decimals — the fewest digits that read back

A decimal `d · 10^k` reads back to a float exactly when it lies in the interval of
reals that round to it: from halfway to the neighbour below to halfway to the
neighbour above, ends included when the mantissa is even. `readsBack` is that test,
by cross-multiplication of naturals.

The decimals with a fixed `k` form a grid. A coarser grid means fewer digits, so
the shortest decimal lies on the coarsest grid that has a point in the interval;
if a grid has one at all, then one of the two grid points next to the value is one.
`shortest` walks down the grids and takes the closer of the two, on a tie the even
one.
-/

namespace SqlText.Decimal

/-- The number `digits · 10^exponent`. -/
structure Scientific where
  digits : Nat
  exponent : Int
deriving DecidableEq, Repr

namespace Binary

/-- The factor of a point's digits when points of the grid `10^k` and quarters of the
    last binary place are brought to one denominator. -/
def gridWeight (x : Binary) (k : Int) : Nat :=
  Nat.pow 10 k.toNat * Nat.pow 2 (2 - x.exponent).toNat

/-- The factor of a number of quarters of the last binary place, on the same footing. -/
def valueWeight (x : Binary) (k : Int) : Nat :=
  Nat.pow 2 (x.exponent - 2).toNat * Nat.pow 10 (-k).toNat

/-- Whether `d · 10^k` is among the reals that round to `x`. -/
def readsBack (x : Binary) (d : Nat) (k : Int) : Bool :=
  let low := (4 * x.mantissa - if x.narrowBelow then 1 else 2) * x.valueWeight k
  let high := (4 * x.mantissa + 2) * x.valueWeight k
  let point := d * x.gridWeight k
  if x.mantissa % 2 = 0 then low ≤ point && point ≤ high else low < point && point < high

/-- The point of the grid `10^k` that reads back to `x` and is closest to it, on a tie
    the even one; `none` if no point of the grid reads back. -/
def pointOn? (x : Binary) (k : Int) : Option Nat :=
  let value := 4 * x.mantissa * x.valueWeight k
  let below := value / x.gridWeight k
  match x.readsBack below k, x.readsBack (below + 1) k with
  | true, true =>
    match compare (2 * value) ((2 * below + 1) * x.gridWeight k) with
    | .lt => some below
    | .gt => some (below + 1)
    | .eq => some (if below % 2 = 0 then below else below + 1)
  | true, false => some below
  | false, true => some (below + 1)
  | false, false => none

/-- The exponents of the grids, coarsest first: every finite float lies below `10^309`
    and above `10^-324`. -/
def gridExponents : List Int :=
  (List.range 634).map fun (n : Nat) => 309 - (n : Int)

/-- The value written out in full. -/
def exact (x : Binary) : Scientific :=
  ⟨x.mantissa * Nat.pow 2 x.exponent.toNat * Nat.pow 5 (-x.exponent).toNat, min x.exponent 0⟩

/-- The decimal of fewest digits that reads back to `x`, of those the closest. -/
def shortest (x : Binary) : Scientific :=
  if x.mantissa = 0 then ⟨0, 0⟩
  else
    (gridExponents.findSome? fun k => (x.pointOn? k).map (⟨·, k⟩)).getD x.exact

end Binary

example : (Binary.mk (2 ^ 52 + 2702159776422298) (-56) false).shortest = ⟨1, -1⟩ := by
  decide +kernel

end SqlText.Decimal
