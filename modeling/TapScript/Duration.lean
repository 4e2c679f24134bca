import TapScript.Text.Blank

/-!
# Durations

Lengths of time in nanoseconds, and their text in the largest unit that leaves a whole part.
-/

namespace TapScript

/-- A length of time in nanoseconds. -/
abbrev Duration := Nat

namespace Duration

/-- A number of milliseconds. -/
def ofMillis (ms : Nat) : Duration := ms * 1000000

/-- The whole milliseconds of the duration. -/
def millis (d : Duration) : Nat := d / 1000000

/-- The part `part / whole` of one, as a point and digits without trailing zeros; nothing for
zero. `places` is the number of digits that `whole` allows. -/
def fraction (part places : Nat) : Text :=
  if part = 0 then []
  else
    let digits := Nat.toDigits 10 part
    let padded := List.replicate (places - digits.length) '0' ++ digits
    '.' :: (padded.reverse.dropWhile (· == '0')).reverse

/-- The duration in seconds if it has a whole one, else in milli-, micro- or nanoseconds. -/
def text (d : Duration) : Text :=
  let inUnit (size places : Nat) (unit : String) : Text :=
    Nat.toDigits 10 (d / size) ++ fraction (d % size) places ++ unit.toList
  if 1000000000 ≤ d then inUnit 1000000000 9 "s"
  else if 1000000 ≤ d then inUnit 1000000 6 "ms"
  else if 1000 ≤ d then inUnit 1000 3 "µs"
  else inUnit 1 0 "ns"

end Duration

end TapScript
