/-!
# Exact values of doubles

A finite double is a whole number times a power of two. `Exact` holds that number, so that
truncation, the remainder of a division and decimal notation can be computed without rounding.

* `Exact.ofFloat?` decodes a double, `Exact.truncate` drops its fraction.
* `Number.clampTo` turns a double into an integer of a range, `Number.remainder` divides with rest.
-/

namespace TapScript

namespace Power

/-- Powers of numbers that are computed with, whatever other powers are at hand. -/
scoped instance (priority := 2000) power {α : Type} [NatPow α] : Pow α Nat := instPowNat

end Power

open Power

/-- A finite double, as sign, significand and binary exponent: `±significand · 2 ^ exponent`. -/
structure Exact where
  negative : Bool
  significand : Nat
  exponent : Int
deriving DecidableEq, Repr

namespace Exact

/-- The exact value of a double, unless it is infinite or not a number. -/
def ofFloat? (x : Float) : Option Exact :=
  let bits : Nat := x.toBits.toNat
  let fraction : Nat := bits % 2 ^ (52 : Nat)
  let biased : Nat := bits / 2 ^ (52 : Nat) % 2 ^ (11 : Nat)
  let negative := 2 ^ (63 : Nat) ≤ bits
  if biased = 2047 then none
  else if biased = 0 then some ⟨negative, fraction, -1074⟩
  else some ⟨negative, fraction + 2 ^ (52 : Nat), (biased : Int) - 1075⟩

/-- The whole part of the magnitude. -/
def wholePart (e : Exact) : Nat :=
  if 0 ≤ e.exponent then e.significand * 2 ^ e.exponent.toNat
  else e.significand / 2 ^ (-e.exponent).toNat

/-- Whether nothing stands behind the point. -/
def isWhole (e : Exact) : Bool :=
  0 ≤ e.exponent || e.significand % 2 ^ (-e.exponent).toNat == 0

/-- The value without its fraction, which goes toward zero. -/
def truncate (e : Exact) : Int := if e.negative then -(e.wholePart : Int) else e.wholePart

/-- The double with the given sign, significand below `2 ^ 53` and exponent, all of which a double
can hold. -/
def toFloat (e : Exact) : Float :=
  let magnitude := (Float.ofNat e.significand).scaleB e.exponent
  if e.negative then -magnitude else magnitude

/-- The remainder of `a` by a non-zero `b`, with the sign of `a`. -/
def remainder (a b : Exact) : Exact :=
  if b.exponent ≤ a.exponent then
    let scaled := a.significand * 2 ^ (a.exponent - b.exponent).toNat
    ⟨a.negative, scaled % b.significand, b.exponent⟩
  else
    let scaled := b.significand * 2 ^ (b.exponent - a.exponent).toNat
    ⟨a.negative, a.significand % scaled, a.exponent⟩

end Exact

namespace Number

/-- The double as an integer from `lo` to `hi`: its fraction is dropped, what lies outside the
range goes to the nearer end, and what is not a number goes to zero. -/
def clampTo (lo hi : Int) (x : Float) : Int :=
  match Exact.ofFloat? x with
  | some e => max lo (min hi e.truncate)
  | none => if x.isNaN then 0 else if x < 0.0 then lo else hi

/-- The largest signed integer of 64 bits. -/
def maxInt64 : Int := 0x7FFFFFFFFFFFFFFF

/-- The smallest signed integer of 64 bits. -/
def minInt64 : Int := -0x8000000000000000

/-- The remainder of `x` by `y`, with the sign of `x`: what is left of `x` after taking away a
whole number of times `y`. -/
def remainder (x y : Float) : Float :=
  match Exact.ofFloat? x, Exact.ofFloat? y with
  | some a, some b => if b.significand = 0 then 0.0 / 0.0 else (a.remainder b).toFloat
  | some _, none => if y.isNaN then y else x
  | none, _ => 0.0 / 0.0

end Number

end TapScript
