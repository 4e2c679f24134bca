import TapScript.Dice
import TapScript.Exec

/-!
# The station

What all runs of one engine share: the gateway's state, the stop flag, the text recognizer that is
open, the dice and the journal. Everything a run does to the world is a request, and with each
request somebody else may have requested a stop or closed the engine.

* `ask` makes a request, `raise` panics.
* `stopRequested` looks at the stop flag, `requestStop` sets it; a run never clears it.
* `log`, `warn` and `fail` write to the journal and the log callback.
-/

namespace TapScript

/-- How much a record of the journal matters. -/
inductive Level where
  | debug
  | info
  | warn
  | error
deriving DecidableEq, Repr

/-- An entry of the journal. -/
structure Record where
  level : Level
  message : String
  fields : List (String × String)
deriving DecidableEq, Repr

/-- The bounds of a run, fixed when the engine is set up. -/
structure Config where
  /-- The longest sleep without a look at the stop flag. -/
  slice : Duration := Duration.ofMillis 50
  /-- The time between two samples of a wait. -/
  pollInterval : Duration := Duration.ofMillis 100
  /-- The longest wait for one text recognition. -/
  recognitionBound : Duration := Duration.ofMillis 5000
  /-- How long a search for text goes on if the script does not say. -/
  findTextBudget : Duration := Duration.ofMillis 3000
  /-- The largest coordinate that scripts may use. -/
  maxCoordinate : Int := 10000
  /-- How deep function calls may nest. -/
  maxCallDepth : Nat := 64
  /-- How well an image has to match if the script does not say. -/
  imageThreshold : Float := 0.9

/-- The configuration with another slice, which is never below a millisecond. -/
def Config.withSlice (c : Config) (slice : Duration) : Config :=
  { c with slice := max slice (Duration.ofMillis 1) }

/-- The state that the runs of one engine share, over gateway states `ω`. -/
structure Station (ω : Type) where
  state : ω
  stopped : Bool := false
  recognizer : Option SessionId := none
  dice : Dice := ⟨0⟩
  journal : Array Record := #[]

namespace Station

variable {ω : Type}

/-- The station with one more entry in its journal. -/
def note (st : Station ω) (r : Record) : Station ω := { st with journal := st.journal.push r }

/-- The station after somebody else has released the text recognizer. -/
def release (g : Gateway ω) (st : Station ω) : Station ω :=
  match st.recognizer with
  | none => st
  | some session =>
    let st := st.note ⟨.debug, "Closing text recognizer", []⟩
    let turn := g.answer (.closeRecognizer session) st.stopped st.state
    { st with recognizer := none, state := turn.state }

/-- The station after what somebody else has done. -/
def receive (g : Gateway ω) (st : Station ω) : Signal → Station ω
  | .none => st
  | .stop => { st with stopped := true }
  | .close => release g { st with stopped := true }

end Station

section Requests

variable {ω : Type} (g : Gateway ω)

/-- A request to the gateway. -/
def ask (r : Request) : Exec (Station ω) r.Reply := fun st =>
  let turn := g.answer r st.stopped st.state
  let st := Station.receive g { st with state := turn.state } turn.signal
  match turn.outcome with
  | .ok reply => .done reply st
  | .error crash => .crashed crash st

/-- A panic of the run itself. -/
def raise {α : Type} (message : String) : Exec (Station ω) α := do
  let never : Empty ← ask g (.panic message)
  never.elim

/-- The value of a computation, or a panic with its message. -/
def orPanic {α : Type} : Except String α → Exec (Station ω) α
  | .ok a => return a
  | .error message => raise g message

/-- A draw from the station's dice. -/
def rollDice (lo hi : Int) : Exec (Station ω) Int := fun st =>
  let (n, dice) := st.dice.roll lo hi
  .done n { st with dice }

/-- An entry for the journal. -/
def record (level : Level) (message : String) (fields : List (String × String)) :
    Exec (Station ω) Unit :=
  Exec.modify fun st => st.note ⟨level, message, fields⟩

/-- Whether a stop has been requested by now. -/
def stopRequested : Exec (Station ω) Bool := do
  let () ← ask g .checkpoint
  Exec.gets Station.stopped

/-- A stop requested by the run itself. -/
def requestStop : Exec (Station ω) Unit := Exec.modify fun st => { st with stopped := true }

/-- A line of the log. -/
def log (line : String) : Exec (Station ω) Unit := do
  record .info line []
  ask g (.log line)

/-- A complaint about the line with the given number. -/
def complain (level : Level) (number : Nat) (message : String) : Exec (Station ω) Unit := do
  record level message [("line", toString number)]
  ask g (.log s!"Line {number}: {message}")

/-- A warning about the line with the given number. -/
def warn (number : Nat) (message : String) : Exec (Station ω) Unit :=
  complain g .warn number message

/-- An error on the line with the given number. -/
def fail (number : Nat) (message : String) : Exec (Station ω) Unit :=
  complain g .error number message

end Requests

end TapScript
