import TapScript.Gateway.Basic
import TapScript.Value

/-!
# Built-in commands

The commands of the script language, and what can be wrong with a statement.

* `Builtin` lists the commands by name, with the numbers of arguments they take.
* `Command` is a call of one of them with its arguments checked.
* `Mishap` is the reason why a statement was not carried out.
-/

namespace TapScript

/-- The commands of the language. -/
inductive Builtin where
  | click
  | longClick
  | swipe
  | tap
  | sleep
  | log
  | toast
  | sendTelegram
  | vibrate
  | back
  | home
  | recents
  | setVar
  | getVar
  | incVar
  | decVar
  | waitForColor
  | waitForText
  | compareColor
  | getColor
  | getText
  | pushToCb
  | random
  | findText
  | findImage
deriving DecidableEq, Repr

namespace Builtin

/-- All commands. -/
def all : List Builtin :=
  [click, longClick, swipe, tap, sleep, log, toast, sendTelegram, vibrate, back, home, recents,
    setVar, getVar, incVar, decVar, waitForColor, waitForText, compareColor, getColor, getText,
    pushToCb, random, findText, findImage]

/-- The name of the command in scripts. -/
def name : Builtin → String
  | click => "click"
  | longClick => "longClick"
  | swipe => "swipe"
  | tap => "tap"
  | sleep => "sleep"
  | log => "log"
  | toast => "toast"
  | sendTelegram => "sendTelegram"
  | vibrate => "vibrate"
  | back => "back"
  | home => "home"
  | recents => "recents"
  | setVar => "setVar"
  | getVar => "getVar"
  | incVar => "incVar"
  | decVar => "decVar"
  | waitForColor => "waitForColor"
  | waitForText => "waitForText"
  | compareColor => "compareColor"
  | getColor => "getColor"
  | getText => "getText"
  | pushToCb => "pushToCb"
  | random => "random"
  | findText => "findText"
  | findImage => "findImage"

/-- The numbers of arguments that the command takes. -/
def arities : Builtin → List Nat
  | click => [2]
  | longClick => [2, 3]
  | swipe => [4, 5]
  | tap => [3, 4]
  | back | home | recents => [0]
  | sleep | log | toast | sendTelegram | vibrate | pushToCb => [1]
  | getVar | incVar | decVar => [1]
  | setVar | getColor | random => [2]
  | waitForColor | getText => [4]
  | waitForText => [6]
  | compareColor => [3, 4]
  | findText | findImage => [1, 2]

/-- Whether the command asks something of the device and can stand inside an expression. -/
def isQuery : Builtin → Bool
  | getVar | waitForColor | waitForText | compareColor | getColor | getText | findText
  | findImage => true
  | _ => false

/-- The command with the given name. -/
def ofName? (t : Text) : Option Builtin := all.find? fun b => b.name.toList == t

/-- Whether a command has the name. -/
def isNameOf (t : Text) : Bool := (ofName? t).isSome

end Builtin

/-- A call of a command with its arguments checked. -/
inductive Command where
  /-- One action, with a line of the log behind it. -/
  | act (a : Action)
  /-- Some clicks at one place with a pause between them. -/
  | tap (p : Point) (count : Nat) (delay : Duration)
  | sleep (duration : Duration)
  | log (text : String)
  | setVar (name value : String)
  | getVar (name : String)
  /-- Adding to a variable that outlives the run. -/
  | stepVar (builtin : Builtin) (name : String) (step : Int)
  | waitForColor (p : Point) (color : Color) (timeout : Duration)
  | waitForText (area : Region) (text : String) (timeout : Duration)
  | compareColor (p : Point) (color : Color) (tolerance : UInt8)
  | getColor (p : Point)
  | getText (area : Region)
  | random (lo hi : Int)
  | findText (text : String) (timeout : Duration)
  | findImage (path : String) (threshold : Float)

/-- What is wrong with an argument. -/
inductive Invalid where
  | emptyName
  | notNumber (what : String) (raw : Text)
  | coordinate (x : Float) (max : Int)
  | negative (what : String) (x : Float)
  | count (x : Float)
  | tolerance (x : Float)
  | threshold (x : Float)
  | color (e : ColorError)
  | overflow (name : String) (current : Int)
  | divisionByZero
  | notNumeric (left right : String)

namespace Invalid

/-- The reason in words. -/
def message : Invalid → String
  | emptyName => "variable name must not be empty"
  | notNumber what raw => what ++ " must be a number, got " ++ String.ofList raw
  | coordinate x max => "coordinate " ++ number x ++ " outside 0..=" ++ toString max
  | negative what x => what ++ " must not be negative, got " ++ number x
  | count x => "count must be positive, got " ++ number x
  | tolerance x => "tolerance " ++ number x ++ " outside 0..=255"
  | threshold x => "threshold " ++ number x ++ " outside (0, 1]"
  | color e => e.message
  | overflow name current => name ++ " = " ++ toString current ++ " would overflow"
  | divisionByZero => "division by zero"
  | notNumeric left right => "cannot apply arithmetic to " ++ left ++ " and " ++ right
where
  /-- The number in full. -/
  number (x : Float) : String := String.ofList (Number.render x)

end Invalid

/-- Why a statement was not carried out. -/
inductive Mishap where
  | invalid (what : String) (reason : Invalid)
  | arity (builtin : Builtin) (got : Nat)
  | undefined (name : Text)
  | tooDeep (limit : Nat)
  | unrecognized (text : Text)
  | gateway (fault : Fault)

namespace Mishap

/-- The reason in words. -/
def message : Mishap → String
  | invalid what reason => what ++ ": " ++ reason.message
  | arity builtin got =>
    builtin.name ++ " expects " ++ " or ".intercalate (builtin.arities.map toString)
      ++ " arguments, got " ++ toString got
  | undefined name => "Undefined function: " ++ String.ofList name
  | tooDeep limit => "Maximum call depth " ++ toString limit ++ " exceeded"
  | unrecognized text => "Unrecognized statement: " ++ String.ofList text
  | gateway fault => "Gateway error: " ++ fault.message

/-- Whether the script is to blame, and not the device or its surroundings. -/
def isWarning : Mishap → Bool
  | invalid .. => true
  | arity .. => true
  | _ => false

end Mishap

end TapScript
