import TapScript.Number.Binary

/-!
# Shortest decimals

The decimal with the fewest digits that lies nearer to a given double than to any other. The
doubles are spaced unevenly, so the question is asked of the interval of reals that round to the
double: on the grids of one, two, three … digits its two neighbours are tried, and the first grid
with a neighbour in the interval gives the answer.

* `Exact.shortest` is that decimal, `Decimal.render` writes it without an exponent.
-/

namespace TapScript

open Power

/-- A decimal `digits · 10 ^ exponent`. -/
structure Decimal where
  digits : Nat
  exponent : Int
deriving DecidableEq, Repr

namespace Decimal

/-- The same decimal with no trailing zero among its digits, looking at `fuel` digits at most. -/
def strip : (fuel : Nat) → Decimal → Decimal
  | 0, d => d
  | fuel + 1, d =>
    if d.digits ≠ 0 ∧ d.digits % 10 = 0 then strip fuel ⟨d.digits / 10, d.exponent + 1⟩ else d

/-- The decimal in positional notation, without a point when nothing stands behind it. -/
def render (d : Decimal) : List Char :=
  let digits := Nat.toDigits 10 d.digits
  if 0 ≤ d.exponent then digits ++ List.replicate d.exponent.toNat '0'
  else
    let places := (-d.exponent).toNat
    let padded := List.replicate (places + 1 - digits.length) '0' ++ digits
    padded.take (padded.length - places) ++ '.' :: padded.drop (padded.length - places)

end Decimal

namespace Exact

/-- The interval of reals that round to a double, scaled by `unit`: the value and the two ends are
whole numbers of `unit`ths, and the ends belong to the interval if `closed`. -/
structure Interval where
  low : Nat
  value : Nat
  high : Nat
  unit : Nat
  closed : Bool

/-- The reals that round to the magnitude of a non-zero double. The lower end is only half as far
away where the spacing of the doubles changes; ties round to an even significand. -/
def interval (e : Exact) : Interval :=
  let narrow := e.significand == 2 ^ (52 : Nat) && e.exponent != -1074
  let (low, value, high) :=
    if narrow then (4 * e.significand - 1, 4 * e.significand, 4 * e.significand + 2)
    else (4 * e.significand - 2, 4 * e.significand, 4 * e.significand + 2)
  let shift := e.exponent - 2
  let closed := e.significand % 2 == 0
  if 0 ≤ shift then
    let scale := 2 ^ shift.toNat
    ⟨low * scale, value * scale, high * scale, 1, closed⟩
  else ⟨low, value, high, 2 ^ (-shift).toNat, closed⟩

namespace Interval

/-- The power of ten just above the value: `10 ^ (k - 1) ≤ value < 10 ^ k`. -/
def magnitude (i : Interval) : Int :=
  ((Nat.toDigits 10 (i.value * 10 ^ (400 : Nat) / i.unit)).length : Int) - 400

/-- Whether `num / den` lies in the interval. -/
def contains (i : Interval) (num den : Nat) : Bool :=
  if i.closed then i.low * den ≤ num * i.unit && num * i.unit ≤ i.high * den
  else i.low * den < num * i.unit && num * i.unit < i.high * den

/-- The neighbour of the value on the grid `10 ^ exponent` that lies in the interval: of two the
nearer one, and the upper one if both are equally near. -/
def neighbour? (i : Interval) (exponent : Int) : Option Decimal :=
  let up := 10 ^ exponent.toNat
  let down := 10 ^ (-exponent).toNat
  let floor := i.value * down / (i.unit * up)
  let below := i.contains (floor * up) down
  let above := i.contains ((floor + 1) * up) down
  let rest := i.value * down - floor * (i.unit * up)
  if below && above then
    some ⟨if 2 * rest < i.unit * up then floor else floor + 1, exponent⟩
  else if below then some ⟨floor, exponent⟩
  else if above then some ⟨floor + 1, exponent⟩
  else none

/-- The first grid of at most `count` more digits, from `exponent` downward, with a neighbour in
the interval. -/
def search (i : Interval) : (count : Nat) → (exponent : Int) → Decimal
  | 0, exponent => ⟨i.value * 10 ^ (-exponent).toNat / (i.unit * 10 ^ exponent.toNat), exponent⟩
  | count + 1, exponent => (i.neighbour? exponent).getD (search i count (exponent - 1))

end Interval

/-- The decimal with the fewest digits that rounds to the magnitude of the double. -/
def shortest (e : Exact) : Decimal :=
  if e.significand = 0 then ⟨0, 0⟩
  else
    let i := e.interval
    (i.search 17 (i.magnitude - 1)).strip 20

end Exact

namespace Number

/-- The double in decimal notation: the fewest digits that read back as it, never an exponent. -/
def render (x : Float) : List Char :=
  match Exact.ofFloat? x with
  | some e => (if e.negative then ['-'] else []) ++ e.shortest.render
  | none => if x.isNaN then "NaN".toList else if x < 0.0 then "-inf".toList else "inf".toList

end Number

end TapScript
