import TapScript.Engine
import TapScript.Gateway.Device

/-!
# Scenarios

A simulated device with things that happen to it. A `Disturbance` changes the device, lets requests
of one kind fail, requests a stop or crashes; a `Cue` says at which request it does. An alarm stops
or closes the engine at a time on the device's clock.

* `Scenario.gateway` is the device with its disturbances as a gateway.
* `Scenario.interrupted` runs a script that somebody stops after a while.
-/

namespace TapScript

/-- The kinds of requests that are counted. -/
inductive Occasion where
  | click
  | longClick
  | swipe
  | key
  | message
  | vibrate
  | clipboard
  | toast
  | pixel
  | screenshot
  | recognizer
  /-- A question to a recognizer, which is not counted but can be made to fail. -/
  | recognize
  | findImage
  | load
  | store
  | log
deriving DecidableEq, Repr

/-- The kind of an action. -/
def Occasion.ofAction : Action → Occasion
  | .click .. => click
  | .longClick .. => longClick
  | .swipe .. => swipe
  | .key .. => key
  | .message .. => message
  | .vibrate .. => vibrate
  | .clipboard .. => clipboard
  | .toast .. => toast

/-- The kind of a request, if it is counted. -/
def Occasion.ofRequest? : Request → Option Occasion
  | .act a => some (ofAction a)
  | .pixel _ => some pixel
  | .screenshot => some screenshot
  | .openRecognizer => some recognizer
  | .findImage .. => some findImage
  | .load _ => some load
  | .store .. => some store
  | .log _ => some log
  | _ => none

/-- Something that happens to the device or the engine. -/
inductive Disturbance where
  | ready (b : Bool)
  /-- From now on every action fails. -/
  | failActions (reason : String)
  | background (c : Color)
  | pixel (p : Point) (c : Color)
  | delay (duration : Duration)
  /-- From now on no recognizer can be opened. -/
  | initError (reason : String)
  | texts (blocks : List TextBlock)
  | image (t : Template)
  | store (name value : String)
  /-- From now on requests of a kind fail, or no longer do. -/
  | inject (on : Occasion) (fault : Option Fault)
  | stop
  | crash (c : Crash)

/-- Something that happens at the `count`-th request of a kind. -/
structure Cue where
  on : Occasion
  count : Nat
  disturbances : List Disturbance

/-- A device with what happens to it. -/
structure Scenario where
  device : Device
  cues : List Cue := []
  /-- How many requests of each kind there were. -/
  counts : List (Occasion × Nat) := []
  injected : List (Occasion × Fault) := []
  /-- A time on the device's clock, and what somebody does then. -/
  alarm : Option (Nat × Signal) := none

namespace Scenario

/-- The scenario after a disturbance, stops and crashes apart. -/
def change (s : Scenario) : Disturbance → Scenario
  | .ready b => { s with device := { s.device with ready := b } }
  | .failActions reason => { s with device := { s.device with refusal := some reason } }
  | .background c => { s with device := { s.device with background := c } }
  | .pixel p c => { s with device := s.device.paint p c }
  | .delay duration => { s with device := { s.device with delay := duration } }
  | .initError reason => { s with device := { s.device with initFault := some reason } }
  | .texts blocks => { s with device := { s.device with texts := blocks } }
  | .image t => { s with device := s.device.addTemplate t }
  | .store name value => { s with device := s.device.store name value }
  | .inject on fault =>
    let others := s.injected.filter fun e => e.1 != on
    { s with injected := (fault.map fun f => (on, f)).toList ++ others }
  | .stop => s
  | .crash _ => s

/-- The scenario after some disturbances, in order up to the first crash: the crash, whether a stop
was requested, and the scenario. -/
def disturb (s : Scenario) : List Disturbance → Except Crash Unit × Signal × Scenario
  | [] => (.ok (), .none, s)
  | .crash c :: _ => (.error c, .none, s)
  | .stop :: rest =>
    let (outcome, _, s) := s.disturb rest
    (outcome, .stop, s)
  | d :: rest => (s.change d).disturb rest

/-- Counts a request and does what is cued for it. -/
def arrive (s : Scenario) (on : Occasion) : Except Crash Unit × Signal × Scenario :=
  let count := (s.counts.lookup on).getD 0 + 1
  let s := { s with counts := (on, count) :: s.counts.filter fun e => e.1 != on }
  let due := s.cues.filter fun c => c.on = on ∧ c.count = count
  s.disturb (due.flatMap Cue.disturbances)

/-- The reply by which a request of this kind fails. -/
def refusal? (fault : Fault) : (r : Request) → Option r.Reply
  | .act _ => some (.error fault)
  | .pixel _ => some (.error fault)
  | .screenshot => some (.error fault)
  | .openRecognizer => some (.error fault)
  | .findImage .. => some (.error fault)
  | _ => none

/-- A turn of the device. -/
def ofDevice {ρ : Type} (s : Scenario) (turn : Turn Device ρ) : Turn Scenario ρ :=
  ⟨turn.outcome, turn.signal, { s with device := turn.state }⟩

/-- The answer of the device, or of what was injected in its place. -/
def serve (s : Scenario) (stopped : Bool) (r : Request) : Turn Scenario r.Reply :=
  let injected := do
    let on ← Occasion.ofRequest? r
    let fault ← s.injected.lookup on
    refusal? fault r
  match injected with
  | some reply => .reply reply s
  | none =>
    match r, s.injected.lookup .recognize with
    | .openRecognizer, some fault =>
      let (session, device) := s.device.addSession (.failing fault)
      .reply (.ok session) { s with device }
    | r, _ => s.ofDevice (Device.gateway.answer r stopped s.device)

/-- The turn with the alarm, if the time for it has come. -/
def ring {ρ : Type} (turn : Turn Scenario ρ) : Turn Scenario ρ :=
  match turn.state.alarm with
  | some (time, signal) =>
    if time ≤ turn.state.device.clock then
      { turn with signal := signal, state := { turn.state with alarm := none } }
    else turn
  | none => turn

/-- The time at which a run that waits for a recognizer, and has found the flag clear at first, sees
that it is set or that the alarm has rung, if it does so while the recognizer is still busy. -/
def seenAt? (s : Scenario) (stopped : Bool) (session : SessionId) (bound : Duration)
    (watch : Option Watch) : Option Nat := do
  let w ← watch
  guard !w.stopped
  let seen ←
    if stopped then some w.interval
    else s.alarm.map fun (time, _) => w.firstSight (time - s.device.clock)
  guard (seen < min (s.device.delayOf session) bound)
  some (s.device.clock + seen)

/-- The answer of the scenario to a request. What is cued for a request happens before it is served,
for a line of the log behind it. -/
def answer (r : Request) (stopped : Bool) (s : Scenario) : Turn Scenario r.Reply :=
  match r with
  | .log line =>
    let turn := s.serve stopped (.log line)
    let (outcome, signal, s) := turn.state.arrive .log
    ⟨outcome, signal, s⟩
  | .recognize session image bound watch =>
    match s.seenAt? stopped session bound watch with
    | some time => ring (.reply .dropped { s with device := { s.device with clock := time } })
    | none => s.serve stopped (.recognize session image bound watch)
  | .checkpoint => ring (s.serve stopped .checkpoint)
  | .pause duration => ring (s.serve stopped (.pause duration))
  | r =>
    match Occasion.ofRequest? r with
    | none => s.serve stopped r
    | some on =>
      match s.arrive on with
      | (.error crash, signal, s) => ⟨.error crash, signal, s⟩
      | (.ok (), signal, s) => { s.serve stopped r with signal := signal }

/-- The scenario as a gateway. -/
def gateway : Gateway Scenario := ⟨answer⟩

/-- Runs a script that somebody stops, or whose engine somebody closes, after a while. If the run is
over by then, it happens after the run. -/
def interrupted (config : Config) (fuel : Nat) (lines : List Line) (after : Duration)
    (signal : Signal) : Exec (Station Scenario) Report := do
  Exec.modify fun st =>
    { st with state := { st.state with alarm := some (st.state.device.clock + after, signal) } }
  let report ← Engine.execute gateway config fuel lines
  Exec.modify fun st =>
    match st.state.alarm with
    | some (_, signal) =>
      Station.receive gateway { st with state := { st.state with alarm := none } } signal
    | none => st
  return report

end Scenario

end TapScript
