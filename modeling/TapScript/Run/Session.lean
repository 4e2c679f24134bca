import TapScript.Function
import TapScript.Run.Query
import TapScript.Scope

/-!
# Sessions

The state of one run: the station it runs at, the variables of its calls, and the number of loops
around the current statement. What does not change during a run, the gateway, the bounds and the
functions of the script, is a `Setup`.
-/

namespace TapScript

/-- The state of a run. -/
structure Session (ω : Type) where
  station : Station ω
  scope : Scope
  /-- The loops around the current statement within the current call. -/
  loops : Nat

/-- What a run works with and does not change. -/
structure Setup (ω : Type) where
  gateway : Gateway ω
  config : Config
  functions : Registry
  /-- How many steps each wait may take. -/
  fuel : Nat

/-- How a block of lines ends. -/
inductive Flow where
  /-- At its last line, or by a stop. -/
  | normal
  /-- By `break` or `continue`. -/
  | broken
deriving DecidableEq, Repr

namespace Session

variable {ω : Type}

/-- A run that starts at the station, with no variables. -/
def start (st : Station ω) : Session ω := ⟨st, Scope.empty, 0⟩

/-- A computation at the station, which leaves variables and loops alone. -/
def lift {α : Type} (x : Exec (Station ω) α) : Exec (Session ω) α :=
  Exec.zoom Session.station (fun st s => { s with station := st }) x

/-- Gives a variable of the current call a value. -/
def bind (name : Text) (v : Value) : Exec (Session ω) Unit :=
  Exec.modify fun s => { s with scope := s.scope.set name v }

/-- Runs the turns of a loop, which is one more loop around their statements. -/
def inLoop (turns : Exec (Session ω) Unit) : Exec (Session ω) Unit := do
  let loops ← Exec.gets Session.loops
  Exec.modify fun s => { s with loops := loops + 1 }
  turns
  Exec.modify fun s => { s with loops }

/-- Runs the body of a function in a frame of its own, outside of all loops, and gives the result
that the function has left. -/
def inCall (bindings : List (Text × Value)) (body : Exec (Session ω) Flow) :
    Exec (Session ω) (Option Value) := do
  let loops ← Exec.gets Session.loops
  Exec.modify fun s => { s with scope := s.scope.enter bindings, loops := 0 }
  let _ ← body
  let result ← Exec.gets fun s => s.scope.leave.1
  Exec.modify fun s => { s with scope := s.scope.leave.2, loops }
  return result

/-- An entry for the journal. -/
def note (level : Level) (message : String) (fields : List (String × String)) :
    Exec (Session ω) Unit :=
  lift (record level message fields)

/-- The variables of the current call. -/
def frame : Exec (Session ω) Frame := Exec.gets fun s => s.scope.current

end Session

namespace Setup

variable {ω : Type} (setup : Setup ω)

/-- Whether a stop has been requested by now. -/
def stopRequested : Exec (Session ω) Bool := Session.lift (TapScript.stopRequested setup.gateway)

/-- Reading texts against the current variables. -/
def reading {α : Type} (read : Environment → Dice → α × Dice) : Exec (Session ω) α := do
  let frame ← Session.frame
  Session.lift (Query.reading setup.gateway frame read)

/-- The text with its queries replaced by the literals of their values. -/
def expand (line : Nat) (t : Text) : Exec (Session ω) (Except Mishap Text) := do
  let frame ← Session.frame
  Session.lift (Query.expand setup.gateway setup.config setup.fuel line frame t)

/-- Whether a condition holds. -/
def test (line : Nat) (condition : Text) : Exec (Session ω) Bool := do
  let frame ← Session.frame
  Session.lift (Query.test setup.gateway setup.config setup.fuel line frame condition)

/-- Carries out a call of a command, and gives its value if it has one. -/
def perform (line : Nat) (builtin : Builtin) (args : Text) :
    Exec (Session ω) (Except Mishap (Option Value)) := do
  let frame ← Session.frame
  Session.lift do
    match ← Query.command setup.gateway setup.config frame builtin args with
    | .error mishap => return .error mishap
    | .ok c => c.perform setup.gateway setup.config setup.fuel line

end Setup

end TapScript
