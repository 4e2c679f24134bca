import TapScript.Text.Blank
import TapScript.Number.Shortest

/-!
# Numbers in text

Decimal notation as scripts and devices write it, read into doubles and integers.

* `Number.read?` reads a double: an optional sign, digits with an optional point among or around
  them, an optional power of ten; or an infinity, or the word for what is not a number.
* `Integer.read?` reads an optional sign and decimal digits, `Integer.render` writes them.
-/

namespace TapScript

namespace Integer

/-- The number that the digits of a base spell, if all are digits of it. -/
def digits? (digit? : Char → Option Nat) (base : Nat) (t : Text) : Option Nat :=
  t.foldl (fun acc c => acc.bind fun n => (digit? c).map fun d => n * base + d) (some 0)

/-- The value of a decimal digit. -/
def decimalDigit? (c : Char) : Option Nat := if c.isDigit then some (c.toNat - '0'.toNat) else none

/-- The value of a hexadecimal digit of either case. -/
def hexDigit? (c : Char) : Option Nat :=
  if c.isDigit then some (c.toNat - '0'.toNat)
  else if 'a' ≤ c ∧ c ≤ 'f' then some (c.toNat - 'a'.toNat + 10)
  else if 'A' ≤ c ∧ c ≤ 'F' then some (c.toNat - 'A'.toNat + 10)
  else none

/-- The natural number that a non-empty run of digits spells. -/
def natural? (digit? : Char → Option Nat) (base : Nat) (t : Text) : Option Nat :=
  if t.isEmpty then none else digits? digit? base t

/-- The integer that an optional sign and decimal digits spell. -/
def read? (t : Text) : Option Int :=
  match t with
  | '-' :: r => (natural? decimalDigit? 10 r).map fun n => -(n : Int)
  | '+' :: r => (natural? decimalDigit? 10 r).map Int.ofNat
  | _ => (natural? decimalDigit? 10 t).map Int.ofNat

/-- The integer that the text spells, if it lies from `lo` to `hi`. -/
def readWithin? (lo hi : Int) (t : Text) : Option Int :=
  (read? t).filter fun n => lo ≤ n && n ≤ hi

/-- The integer in decimal digits. -/
def render (n : Int) : Text :=
  if n < 0 then '-' :: Nat.toDigits 10 n.natAbs else Nat.toDigits 10 n.natAbs

end Integer

namespace Number

/-- The double nearest to `digits · 10 ^ exponent`, where `count` is the number of digits from the
first that is not zero. Powers far outside the range of doubles are not computed. -/
def nearest (digits count : Nat) (exponent : Int) : Float :=
  if digits = 0 then 0.0
  else if 400 < count + exponent then 1.0 / 0.0
  else if count + exponent < -400 then 0.0
  else Float.ofScientific digits (exponent < 0) exponent.natAbs

/-- The power of ten behind the digits: nothing, or `e` and a signed whole number. -/
def exponent? (t : Text) : Option Int :=
  match t with
  | [] => some 0
  | 'e' :: r => Integer.read? r
  | 'E' :: r => Integer.read? r
  | _ => none

/-- A magnitude in digits: at least one digit before or behind an optional point, and an optional
power of ten. -/
def magnitude? (t : Text) : Option Float :=
  let whole := t.takeWhile Char.isDigit
  let rest := t.dropWhile Char.isDigit
  let (fraction, rest) :=
    match rest with
    | '.' :: r => (r.takeWhile Char.isDigit, r.dropWhile Char.isDigit)
    | _ => ([], rest)
  let all := whole ++ fraction
  if all.isEmpty then none
  else do
    let digits ← Integer.digits? Integer.decimalDigit? 10 all
    let exponent ← exponent? rest
    some (nearest digits (all.dropWhile (· == '0')).length (exponent - fraction.length))

/-- A magnitude in words, in letters of either case. -/
def word? (t : Text) : Option Float :=
  let small := t.map Char.toLower
  if small = "inf".toList ∨ small = "infinity".toList then some (1.0 / 0.0)
  else if small = "nan".toList then some (0.0 / 0.0)
  else none

/-- The double that an optional sign and a magnitude spell. -/
def read? (t : Text) : Option Float :=
  let unsigned? (r : Text) := (magnitude? r).or (word? r)
  match t with
  | '-' :: r => (unsigned? r).map fun x => -x
  | '+' :: r => unsigned? r
  | _ => unsigned? t

/-- A number as scripts print it: a whole number below `10 ^ 15` as its digits, with no sign on
zero, any other double as `render` writes it. -/
def text (x : Float) : Text :=
  match Exact.ofFloat? x with
  | some e =>
    if e.isWhole && e.wholePart < 1000000000000000 then Integer.render e.truncate else render x
  | none => render x

end Number

end TapScript
