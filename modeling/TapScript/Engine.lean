import TapScript.Run.Walk
import TapScript.Text.Visible

/-!
# The engine

An engine runs scripts at a station, one at a time. Each run starts with no variables and a cleared
stop flag, and closes the text recognizer on its way out, however it ended.

* `Engine.execute` runs a script and reports how it ended.
* `Engine.close` requests a stop and closes the text recognizer.
-/

namespace TapScript

/-- How a run ended. -/
inductive Status where
  /-- At the end of the script. -/
  | completed
  /-- By a stop. -/
  | stopped
  /-- In a crash of foreign code. -/
  | crashed (message : String)
deriving DecidableEq, Repr

/-- The status as it is written to the journal. -/
def Status.text : Status → String
  | completed => "Completed"
  | stopped => "Stopped"
  | crashed message => "Crashed(" ++ String.ofList (Text.visible message.toList) ++ ")"

/-- What is reported of a run: how it ended, and the script's own variables at that time. -/
structure Report where
  status : Status
  frame : Frame

namespace Engine

variable {ω : Type} (g : Gateway ω) (config : Config)

/-- Runs the lines at the station; gives the value or the crash, and the variables. -/
def interpret (fuel : Nat) (lines : List Line) : Exec (Station ω) (Except Crash Flow × Frame) :=
  fun st =>
    match runScript g config fuel lines (Session.start st) with
    | .done flow s => .done (.ok flow, s.scope.topLevel) s.station
    | .crashed crash s => .done (.error crash, s.scope.topLevel) s.station
    | .exhausted => .exhausted

/-- How the run ended, judged after it. -/
def conclude (outcome : Except Crash Flow) : Exec (Station ω) Status :=
  match outcome with
  | .ok _ => do
    if ← stopRequested g then return .stopped else return .completed
  | .error crash => do
    record .error "Script run crashed" [("error", crash.message)]
    let () ← ask g (.log s!"Fatal error: {crash.message}")
    return .crashed crash.message

/-- What comes before the first line: whether the gateway is ready, and the journal. -/
def announce (lines : List Line) : Exec (Station ω) Unit := do
  let ready : Bool ← ask g .ready
  if !ready then record .warn "Action gateway is not ready; device commands will fail" []
  record .info "Script run started" [("lines", toString lines.length)]

/-- What comes behind the last line, however the run ended: the recognizer is closed, then the run
is judged. -/
def finish (outcome : Except Crash Flow) : Exec (Station ω) Status := do
  Recognizer.close g
  let status ← conclude g outcome
  record .info "Script run finished" [("status", status.text)]
  return status

/-- Runs a script with the stop flag as it is and reports how it ended. A crash inside the run is
part of the report; one while the gateway is asked whether it is ready, while the recognizer is
closed or while the crash is logged is a crash of the engine. -/
def proceed (fuel : Nat) (lines : List Line) : Exec (Station ω) Report := do
  announce g lines
  let (outcome, frame) ← interpret g config fuel lines
  let status ← finish g outcome
  return ⟨status, frame⟩

/-- Clears the stop flag, then runs a script and reports how it ended. -/
def execute (fuel : Nat) (lines : List Line) : Exec (Station ω) Report := do
  Exec.modify fun st => { st with stopped := false }
  proceed g config fuel lines

/-- Requests a stop and closes the text recognizer. -/
def close : Exec (Station ω) Unit := do
  requestStop
  Recognizer.close g

end Engine

end TapScript
