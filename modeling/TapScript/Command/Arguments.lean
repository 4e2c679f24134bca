import TapScript.Command.Basic
import TapScript.Expression.Resolve
import TapScript.Station

/-!
# Arguments of commands

The arguments of a call are texts. Each is resolved and checked in turn, and the first one that
fails decides what is reported. Nothing of this touches the device.

* `Builtin.read` turns the text between the parentheses of a call into a `Command`.
-/

namespace TapScript

/-- Checking arguments: draws may be made, and a mishap ends it. -/
abbrev Reading := ExceptT Mishap (StateM Dice)

/-- The raw arguments of a call, with what they are read against. -/
structure Arguments where
  builtin : Builtin
  raw : List Text
  env : Environment
  config : Config

namespace Arguments

/-- The mishap of an argument. -/
def invalid {α : Type} (args : Arguments) (reason : Invalid) : Reading α :=
  throw (.invalid args.builtin.name reason)

/-- The value of an argument. -/
def value (args : Arguments) (i : Nat) : StateM Dice Value :=
  match args.raw[i]? with
  | some t => args.env.resolve t
  | none => pure .null

/-- The text of an argument. -/
def text (args : Arguments) (i : Nat) : StateM Dice String := do
  return String.ofList (← args.value i).toText

/-- The text of an argument with its references filled in. -/
def message (args : Arguments) (i : Nat) : StateM Dice String := do
  return String.ofList (args.env.interpolate (← args.value i).toText)

/-- The name of a variable that outlives the run. -/
def name (args : Arguments) (i : Nat) : Reading String := do
  let t := (← args.value i).toText
  if (Text.trim t).isEmpty then args.invalid .emptyName else return String.ofList t

/-- A finite number. -/
def number (args : Arguments) (i : Nat) (what : String) : Reading Float := do
  match (← args.value i).number? with
  | some x => if x.isFinite then return x else args.invalid (.notNumber what (args.raw.getD i []))
  | none => args.invalid (.notNumber what (args.raw.getD i []))

/-- A coordinate from zero to the largest allowed one. -/
def coordinate (args : Arguments) (i : Nat) : Reading Int := do
  let x ← args.number i "coordinate"
  let max := args.config.maxCoordinate
  if x < 0.0 || x > Float.ofInt max then args.invalid (.coordinate x max)
  else return Number.clampTo (-0x80000000) 0x7FFFFFFF x

/-- A point in two arguments. -/
def point (args : Arguments) (i : Nat) : Reading Point := do
  let x ← args.coordinate i
  let y ← args.coordinate (i + 1)
  return ⟨x, y⟩

/-- A rectangle in four arguments. -/
def region (args : Arguments) (i : Nat) : Reading Region := do
  let x₁ ← args.coordinate i
  let y₁ ← args.coordinate (i + 1)
  let x₂ ← args.coordinate (i + 2)
  let y₂ ← args.coordinate (i + 3)
  return Region.ofCorners x₁ y₁ x₂ y₂

/-- A number of milliseconds. -/
def duration (args : Arguments) (i : Nat) (what : String) : Reading Duration := do
  let x ← args.number i what
  if x < 0.0 then args.invalid (.negative what x)
  else return Duration.ofMillis (Number.clampTo 0 0xFFFFFFFFFFFFFFFF x).toNat

/-- A number of milliseconds that may be left out. -/
def durationOr (args : Arguments) (i : Nat) (what : String) (millis : Nat) : Reading Duration :=
  if i < args.raw.length then args.duration i what else return Duration.ofMillis millis

/-- A number of clicks. -/
def count (args : Arguments) (i : Nat) : Reading Nat := do
  let x ← args.number i "count"
  if x < 1.0 || x > 4294967295.0 then args.invalid (.count x)
  else return (Number.clampTo 0 0xFFFFFFFF x).toNat

/-- A color. -/
def color (args : Arguments) (i : Nat) : Reading Color := do
  match Color.read (← args.value i).toText with
  | .ok c => return c
  | .error e => args.invalid (.color e)

/-- How far two colors may differ in a channel; nothing if it is left out. -/
def tolerance (args : Arguments) (i : Nat) : Reading UInt8 := do
  if i < args.raw.length then
    let x ← args.number i "tolerance"
    if x < 0.0 || x > 255.0 then args.invalid (.tolerance x)
    else return UInt8.ofNat (Number.clampTo 0 255 x).toNat
  else return 0

/-- How well an image has to match. -/
def threshold (args : Arguments) (i : Nat) : Reading Float := do
  if i < args.raw.length then
    let x ← args.number i "threshold"
    if x ≤ 0.0 || x > 1.0 then args.invalid (.threshold x) else return x
  else return args.config.imageThreshold

/-- The command that the arguments make of the built-in. -/
def command (args : Arguments) : Reading Command :=
  match args.builtin with
  | .click => do return .act (.click (← args.point 0))
  | .longClick => do
    let p ← args.point 0
    return .act (.longClick p (← args.durationOr 2 "duration" 500))
  | .swipe => do
    let start ← args.point 0
    let finish ← args.point 2
    return .act (.swipe start finish (← args.durationOr 4 "duration" 300))
  | .tap => do
    let p ← args.point 0
    let n ← args.count 2
    return .tap p n (← args.durationOr 3 "delay" 100)
  | .sleep => do return .sleep (← args.duration 0 "duration")
  | .log => do return .log (← args.message 0)
  | .toast => do return .act (.toast (← args.message 0))
  | .sendTelegram => do return .act (.message (← args.message 0))
  | .vibrate => do return .act (.vibrate (← args.duration 0 "duration"))
  | .back => return .act (.key .back)
  | .home => return .act (.key .home)
  | .recents => return .act (.key .recents)
  | .setVar => do
    let name ← args.name 0
    return .setVar name (← args.text 1)
  | .getVar => do return .getVar (← args.name 0)
  | .incVar => do return .stepVar .incVar (← args.name 0) 1
  | .decVar => do return .stepVar .decVar (← args.name 0) (-1)
  | .waitForColor => do
    let p ← args.point 0
    let c ← args.color 2
    return .waitForColor p c (← args.duration 3 "timeout")
  | .waitForText => do
    let area ← args.region 0
    let t ← args.text 4
    return .waitForText area t (← args.duration 5 "timeout")
  | .compareColor => do
    let p ← args.point 0
    let c ← args.color 2
    return .compareColor p c (← args.tolerance 3)
  | .getColor => do return .getColor (← args.point 0)
  | .getText => do return .getText (← args.region 0)
  | .pushToCb => do return .act (.clipboard (← args.message 0))
  | .random => do
    let a ← args.number 0 "min"
    let b ← args.number 1 "max"
    let lo := Number.clampTo Number.minInt64 Number.maxInt64 a
    let hi := Number.clampTo Number.minInt64 Number.maxInt64 b
    return .random (min lo hi) (max lo hi)
  | .findText => do
    let timeout ←
      if args.raw.length = 1 then pure args.config.findTextBudget else args.duration 1 "timeout"
    return .findText (← args.text 0) timeout
  | .findImage => do
    let path ← args.text 0
    return .findImage path (← args.threshold 1)

end Arguments

/-- The command that a call of the built-in with the given argument text is. -/
def Builtin.read (b : Builtin) (args : Text) (env : Environment) (config : Config) :
    Reading Command :=
  let raw := Text.arguments args
  if b.arities.contains raw.length then Arguments.command ⟨b, raw, env, config⟩
  else throw (.arity b raw.length)

end TapScript
