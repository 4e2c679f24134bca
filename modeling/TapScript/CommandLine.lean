import TapScript.Engine
import TapScript.Gateway.Device
import TapScript.Script

/-!
# The command line

Running a script file on the simulated device: `<input> [--width W] [--height H] [-v]`. The lines of
the log and the recorded actions go to the standard output.

* `CommandLine.parse` reads the arguments, `CommandLine.run` runs a script.
-/

namespace TapScript

/-- An action in full, as it is listed behind a run. -/
def Action.text : Action → String
  | click p => s!"Click({point p})"
  | longClick p d => s!"LongClick({point p}, {time d})"
  | swipe p q d =>
    s!"Swipe \x7b from: {point p}, to: {point q}, duration: {time d} \x7d"
  | key .back => "Global(Back)"
  | key .home => "Global(Home)"
  | key .recents => "Global(Recents)"
  | message t => s!"Message({quoted t})"
  | vibrate d => s!"Vibrate({time d})"
  | clipboard t => s!"Clipboard({quoted t})"
  | toast t => s!"Toast({quoted t})"
where
  point (p : Point) : String := s!"Point \x7b x: {p.x}, y: {p.y} \x7d"
  time (d : Duration) : String := String.ofList (Duration.text d)
  quoted (t : String) : String := String.ofList (Text.visible t.toList)

namespace CommandLine

/-- What a run is asked for. -/
structure Options where
  input : String
  width : Nat
  height : Nat
deriving DecidableEq, Repr

/-- What the arguments ask for. -/
inductive Parsed where
  | run (options : Options)
  | version
  | help
  | wrong (why : String)
deriving DecidableEq, Repr

/-- What has been read of the arguments. -/
structure Partial where
  input : Option String := none
  width : Option Nat := none
  height : Option Nat := none
  verbose : Bool := false

/-- The options that take a number. -/
inductive Dimension where
  | width
  | height
deriving DecidableEq, Repr

/-- The option with the name. -/
def Dimension.ofName? (name : String) : Option Dimension :=
  if name = "width" then some .width else if name = "height" then some .height else none

/-- A number of thirty-two bits. -/
def dimension? (t : String) : Option Nat :=
  (Integer.readWithin? 0 0xFFFFFFFF t.toList).map Int.toNat

/-- Reads the number of an option, which may be given once. -/
def Partial.setDimension (p : Partial) (d : Dimension) (t : String) : Except Parsed Partial :=
  match dimension? t, d, p.width, p.height with
  | none, _, _, _ => .error (.wrong s!"invalid value '{t}'")
  | some n, .width, none, _ => .ok { p with width := some n }
  | some n, .height, _, none => .ok { p with height := some n }
  | some _, _, _, _ => .error (.wrong "the argument cannot be used multiple times")

/-- Reads the name of the script file, which is given once and is not empty. -/
def Partial.setInput (p : Partial) (t : String) : Except Parsed Partial :=
  if p.input.isSome then .error (.wrong s!"unexpected argument '{t}' found")
  else if t.isEmpty then .error (.wrong "a value is required for '<INPUT>' but none was supplied")
  else .ok { p with input := some t }

/-- Reads the flag for more output, which may be given once. -/
def Partial.setVerbose (p : Partial) : Except Parsed Partial :=
  if p.verbose then .error (.wrong "the argument cannot be used multiple times")
  else .ok { p with verbose := true }

/-- Reads the letters behind a single dash. -/
def letters (p : Partial) : List Char → Except Parsed Partial
  | [] => .ok p
  | 'v' :: r => do letters (← p.setVerbose) r
  | 'V' :: _ => .error .version
  | 'h' :: _ => .error .help
  | _ :: _ => .error (.wrong "unexpected argument found")

/-- Reads a word behind two dashes, with the text behind its `=` if there is one. A number that
stands in the next argument is left to the caller. -/
def word (p : Partial) (name : String) (value : Option String) :
    Except Parsed (Partial × Option Dimension) :=
  match Dimension.ofName? name, value with
  | some d, some t => do return (← p.setDimension d t, none)
  | some d, none => return (p, some d)
  | none, some _ => .error (.wrong "unexpected argument found")
  | none, none =>
    if name = "verbose" then do return (← p.setVerbose, none)
    else if name = "version" then .error .version
    else if name = "help" then .error .help
    else .error (.wrong "unexpected argument found")

/-- Whether the argument is an option, and not a value: a dash with something behind it. -/
def isOption (arg : String) : Bool :=
  match arg.toList with
  | '-' :: _ :: _ => true
  | _ => false

/-- Reads the arguments from left to right up to the first that decides. An option whose number is
to come is `pending`; behind a `--` everything is a `plain` value. -/
def read (p : Partial) (plain : Bool) :
    (pending : Option Dimension) → List String → Except Parsed Partial
  | none, [] => .ok p
  | some _, [] => .error (.wrong "a value is required but none was supplied")
  | some d, arg :: rest =>
    if isOption arg then .error (.wrong "a value is required but none was supplied")
    else do read (← p.setDimension d arg) plain none rest
  | none, arg :: rest =>
    if plain || !isOption arg then do read (← p.setInput arg) plain none rest
    else
      match arg.toList with
      | ['-', '-'] => read p true none rest
      | '-' :: '-' :: r => do
        let (name, values) := Text.fields '=' r
        let value := if values.isEmpty then none
          else some (String.ofList (r.drop (name.length + 1)))
        let (p, pending) ← word p (String.ofList name) value
        read p false pending rest
      | chars => do read (← letters p (chars.drop 1)) false none rest

/-- What the arguments ask for. -/
def parse (args : List String) : Parsed :=
  match read {} false none args with
  | .error parsed => parsed
  | .ok p =>
    match p.input with
    | none => .wrong "the following required arguments were not provided: <INPUT>"
    | some input => .run ⟨input, p.width.getD 1080, p.height.getD 1920⟩

/-- What a run of the program leaves behind. -/
structure Response where
  code : UInt8
  stdout : String
  stderr : String
deriving DecidableEq, Repr

/-- The answer to a question for the version. -/
def version : Response := ⟨0, "autoscript 0.1.0\n", ""⟩

/-- The lines of the help text. -/
def helpLines : List String :=
  ["Run a device automation script",
    "",
    "Usage: autoscript [OPTIONS] <INPUT>",
    "",
    "Arguments:",
    "  <INPUT>  Script file to run",
    "",
    "Options:",
    "      --width <WIDTH>    Screen width of the simulated device [default: 1080]",
    "      --height <HEIGHT>  Screen height of the simulated device [default: 1920]",
    "  -v, --verbose          Show debug records",
    "  -h, --help             Print help",
    "  -V, --version          Print version"]

/-- The answer to a question for help. -/
def help : Response := ⟨0, String.join (helpLines.map (· ++ "\n")), ""⟩

/-- The answer to wrong arguments. -/
def wrong (why : String) : Response :=
  ⟨2, "", s!"error: {why}\n\nUsage: autoscript [OPTIONS] <INPUT>\n\n"
    ++ "For more information, try '--help'.\n"⟩

/-- The answer to a file that cannot be read. -/
def unreadable (path : String) (e : ReadError) : Response :=
  ⟨1, "", s!"Error: failed to read {path}\n\nCaused by:\n    {e.reason}\n"⟩

/-- How many steps a run may take. -/
def fuel : Nat := 1000000000000000

/-- The bounds of a run on a screen of the given size. The largest coordinate is a number of
thirty-two bits with sign. -/
def config (o : Options) : Config :=
  { maxCoordinate := Int.bmod (max o.width o.height) 0x100000000 }

/-- The list of what was done to the device, if anything was. -/
def actionList (actions : Array Action) : String :=
  if actions.isEmpty then ""
  else "\nRecorded actions:\n"
    ++ String.join (actions.toList.map fun a => "  " ++ a.text ++ "\n")

/-- Runs a script on the simulated device. -/
def runScript (o : Options) (dice : Dice) (source : Text) : Response :=
  let device : Device := { width := o.width, height := o.height }
  let station : Station Device := { state := device, dice }
  let output (d : Device) : String :=
    String.join (d.lines.toList.map fun l => l ++ "\n") ++ actionList d.actions
  match Engine.execute Device.gateway (config o) fuel (Line.ofSource source) station with
  | .done report st =>
    match report.status with
    | .completed => ⟨0, output st.state, ""⟩
    | .stopped => ⟨0, output st.state, "Run stopped\n"⟩
    | .crashed message => ⟨1, output st.state, s!"Error: run crashed: {message}\n"⟩
  | .crashed crash st => ⟨1, output st.state, s!"Error: {crash.message}\n"⟩
  | .exhausted => ⟨1, "", "Error: too many steps\n"⟩

/-- Runs a script file whose bytes, or why they cannot be had, are given. -/
def run (o : Options) (dice : Dice) (file : Except ReadError ByteArray) : Response :=
  match file.bind Script.text with
  | .ok source => runScript o dice source
  | .error e => unreadable o.input e

end CommandLine

end TapScript
