import TapScript.Number.Decimal

/-!
# Colors

A color packs alpha, red, green and blue into thirty-two bits. Scripts write it as `#RRGGBB` for an
opaque color, as `#AARRGGBB`, or as the packed number, signed or unsigned.

* `Color.read` reads all of these, `Color.text` writes the shorter of the two hexadecimal forms.
* `Color.agrees` compares two colors within a tolerance.
-/

namespace TapScript

open Power

/-- A packed color, eight bits each for alpha, red, green and blue. -/
structure Color where
  argb : UInt32
deriving DecidableEq, Repr

/-- Why a text is no color. -/
inductive ColorError where
  /-- It starts with `#` but what follows is not six or eight hexadecimal digits. -/
  | hex (text : Text)
  /-- It does not start with `#` and is no packed number. -/
  | packed (text : Text)
deriving DecidableEq, Repr

/-- The reason in words. -/
def ColorError.message : ColorError → String
  | hex t => "Invalid hex color '" ++ String.ofList t ++ "' (expected #RRGGBB or #AARRGGBB)"
  | packed t => "Invalid color '" ++ String.ofList t ++ "'"

namespace Color

/-- The opaque color of three channels. -/
def ofChannels (r g b : UInt8) : Color :=
  ⟨(0xFF000000 : UInt32) ||| (r.toUInt32 <<< 16) ||| (g.toUInt32 <<< 8) ||| b.toUInt32⟩

/-- The red channel. -/
def red (c : Color) : UInt8 := (c.argb >>> 16).toUInt8

/-- The green channel. -/
def green (c : Color) : UInt8 := (c.argb >>> 8).toUInt8

/-- The blue channel. -/
def blue (c : Color) : UInt8 := c.argb.toUInt8

/-- Whether two channels differ by at most the tolerance. -/
def near (tolerance a b : UInt8) : Bool := (max a b).toNat - (min a b).toNat ≤ tolerance.toNat

/-- Whether two colors agree: exactly without a tolerance, else in each of red, green and blue by
at most the tolerance. -/
def agrees (c d : Color) (tolerance : UInt8) : Bool :=
  if tolerance == 0 then c == d
  else near tolerance c.red d.red && near tolerance c.green d.green && near tolerance c.blue d.blue

/-- The number that the hexadecimal digits behind the `#` spell, if thirty-two bits hold it. One
plus sign may stand in front of the digits. -/
def hexValue? (t : Text) : Option Nat :=
  let digits := match t with
    | '+' :: r => r
    | _ => t
  (Integer.natural? Integer.hexDigit? 16 digits).filter (· < 2 ^ (32 : Nat))

/-- The color that the text spells, blanks around it apart. -/
def read (t : Text) : Except ColorError Color :=
  let t := Text.trim t
  match t with
  | '#' :: hex =>
    match hexValue? hex with
    | some n =>
      if hex.length = 6 then .ok ⟨0xFF000000 ||| UInt32.ofNat n⟩
      else if hex.length = 8 then .ok ⟨UInt32.ofNat n⟩
      else .error (.hex t)
    | none => .error (.hex t)
  | _ =>
    match Integer.readWithin? (-2 ^ (31 : Nat)) (2 ^ (32 : Nat) - 1) t with
    | some n => .ok ⟨UInt32.ofNat (n % 2 ^ (32 : Nat)).toNat⟩
    | none => .error (.packed t)

/-- The upper-case hexadecimal digits of `n`, filled up with zeros to `width`. -/
def hexText (width n : Nat) : Text :=
  let digits := (Nat.toDigits 16 n).map Char.toUpper
  List.replicate (width - digits.length) '0' ++ digits

/-- `#RRGGBB` for an opaque color, `#AARRGGBB` for any other. -/
def text (c : Color) : Text :=
  if c.argb >>> 24 == 0xFF then '#' :: hexText 6 (c.argb &&& 0xFFFFFF).toNat
  else '#' :: hexText 8 c.argb.toNat

end Color

end TapScript
