import TapScript.Text.Literal
import TapScript.Geometry

/-!
# Script values

What a variable holds. Scripts compare values by their text and calculate with the numbers that
the texts spell, so every value has a `text`, and some have a `number?`.
-/

namespace TapScript

/-- A value of the script language. -/
inductive Value where
  | text (t : Text)
  | number (x : Float)
  | bool (b : Bool)
  /-- A place on the screen that a search has found. -/
  | point (p : Point)
  /-- The answer of a search that found nothing. -/
  | null

namespace Value

/-- The value in words. -/
def toText : Value → Text
  | text t => t
  | number x => Number.text x
  | bool b => if b then "true".toList else "false".toList
  | point p => p.text
  | null => "null".toList

/-- The number that the value is or spells. -/
def number? : Value → Option Float
  | text t => Number.read? (Text.trim t)
  | number x => some x
  | bool b => some (if b then 1.0 else 0.0)
  | point _ => none
  | null => none

/-- Whether the value, standing alone as a condition, holds: its text has to read `true` in letters
of either case. -/
def isTrue : Value → Bool
  | bool b => b
  | v => Text.eqIgnoringCase (Text.trim v.toText) "true".toList

/-- The value as it is written in a script. -/
def literal : Value → Text
  | text t => Text.Literal.encode t
  | point p => '"' :: (p.text ++ ['"'])
  | v => v.toText

/-- The name of the value's kind. -/
def kind : Value → String
  | text _ => "string"
  | number _ => "number"
  | bool _ => "bool"
  | point _ => "point"
  | null => "null"

/-- A search's answer as a value. -/
def ofPoint? : Option Point → Value
  | some p => point p
  | none => null

/-- A text is printed as it is. -/
@[simp] theorem toText_text (t : Text) : (text t).toText = t := rfl

/-- As an operand, a text is written as a literal. -/
@[simp] theorem literal_text (t : Text) : (text t).literal = Text.Literal.encode t := rfl

end Value

end TapScript
