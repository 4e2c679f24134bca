import TapScript.Station

/-!
# The text recognizer

A text recognizer is opened by the first recognition that needs it and stays open until it is
closed; closing twice does nothing, and a recognition behind a close opens a new one.
-/

namespace TapScript

namespace Recognizer

variable {ω : Type} (g : Gateway ω)

/-- The recognizer that is open, or a new one. -/
def opened : Exec (Station ω) (Except Fault SessionId) := do
  match ← Exec.gets Station.recognizer with
  | some session => return .ok session
  | none =>
    record .debug "Opening text recognizer" []
    match ← ask g .openRecognizer with
    | .ok session =>
      Exec.modify fun st => { st with recognizer := some session }
      return .ok session
    | .error fault => return .error fault

/-- The answer of the recognizer to a picture, waiting for it no longer than `bound`. If the stop
flag is looked at meanwhile, every `interval`, and a stop is seen first, there is no answer. Where
the flag has been `looked` at before, the next look is an interval away. -/
def consult (bound : Duration) (interval : Option Duration) (looked : Bool) (image : Screenshot) :
    Exec (Station ω) (Option (Except Fault (List TextBlock))) := do
  match ← opened g with
  | .error fault => return some (.error fault)
  | .ok session =>
    let stopped ← Exec.gets Station.stopped
    match ← ask g (.recognize session image bound
      (interval.map fun i => ⟨!looked && stopped, i⟩)) with
    | .answered blocks => return some blocks
    | .late => return some (.error (.timeout bound))
    | .dropped =>
      requestStop
      return none

/-- The first look at the stop flag, if the flag is `watched` and the look comes before the
recognizer is asked. Which of the two comes first is drawn. -/
def glance (watched : Bool) : Exec (Station ω) (Option Bool) := do
  if !watched then return none
  if (← rollDice 0 1) = 0 then return none
  return some (← stopRequested g)

/-- The text in the picture, waiting for it no longer than `bound`. If the stop flag is looked at
meanwhile, every `interval`, and a stop is seen first, there is no answer; if it is seen before the
recognizer is asked, none is opened either. -/
def recognize? (bound : Duration) (interval : Option Duration) (image : Screenshot) :
    Exec (Station ω) (Option (Except Fault (List TextBlock))) := do
  let first ← glance g interval.isSome
  if first = some true then return none
  else consult g bound interval first.isSome image

/-- Closing the recognizer if one is open. -/
def close : Exec (Station ω) Unit := do
  match ← Exec.gets Station.recognizer with
  | none => return ()
  | some session =>
    record .debug "Closing text recognizer" []
    Exec.modify fun st => { st with recognizer := none }
    let () ← ask g (.closeRecognizer session)

end Recognizer

end TapScript
