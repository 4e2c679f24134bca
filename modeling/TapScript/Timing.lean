import TapScript.Station

/-!
# Waiting

Every wait of a run is cut into slices, and the stop flag is looked at between them, so that a stop
takes effect within one slice.

* `sleep` waits for a duration.
* `PollTimer` is the time budget of a wait that samples the screen again and again.
* `awaitStop` waits for a stop.

The gateway's clock may stand still, so the number of slices is bounded by a first argument.
-/

namespace TapScript

variable {ω : Type} (g : Gateway ω)

/-- The time on the gateway's clock. -/
def clock : Exec (Station ω) Nat := ask g .clock

/-- Letting time pass. -/
def pause (duration : Duration) : Exec (Station ω) Unit := ask g (.pause duration)

/-- Sleeping until the clock shows `deadline`, at most `slice` at a time. True if the deadline came,
false if a stop came first. -/
def sleepUntil (slice : Duration) (deadline : Nat) : (fuel : Nat) → Exec (Station ω) Bool
  | 0 => Exec.exhausted
  | fuel + 1 => do
    if ← stopRequested g then return false
    let now ← clock g
    if deadline ≤ now then return true
    pause g (min (deadline - now) slice)
    sleepUntil slice deadline fuel

/-- The first time that no instant of the clock stands for: its seconds have sixty-three bits. -/
def endOfTime : Nat := 0x8000000000000000 * 1000000000

/-- Sleeping for `duration`, at most `slice` at a time. True if the time has passed, false if a stop
came first. A deadline that no instant stands for is a panic. -/
def sleep (fuel : Nat) (duration slice : Duration) : Exec (Station ω) Bool := do
  let now ← clock g
  if endOfTime ≤ now + duration then raise g "overflow when adding duration to instant"
  else sleepUntil g slice (now + duration) fuel

/-- The time budget of a wait that samples every `interval`. -/
structure PollTimer where
  started : Nat
  budget : Duration
  interval : Duration
deriving DecidableEq, Repr

namespace PollTimer

/-- A timer that starts now. -/
def start (budget interval : Duration) : Exec (Station ω) PollTimer := do
  let now ← clock g
  return ⟨now, budget, interval⟩

/-- The time since the timer was started. -/
def elapsed (timer : PollTimer) : Exec (Station ω) Duration := do
  let now ← clock g
  return now - timer.started

/-- Waiting for the next sample. False if the budget is spent or a stop was requested. -/
def next (fuel : Nat) (timer : PollTimer) (slice : Duration) : Exec (Station ω) Bool := do
  if ← stopRequested g then return false
  if timer.budget ≤ (← timer.elapsed g) then return false
  let remaining := timer.budget - (← timer.elapsed g)
  if ← sleep g fuel (min timer.interval remaining) slice then
    return !(← stopRequested g)
  else return false

end PollTimer

/-- Waiting for a stop, looking at the flag every `slice` until the clock shows `deadline`. True if
a stop was seen. -/
def awaitStop (slice : Duration) (deadline : Nat) : (fuel : Nat) → Exec (Station ω) Bool
  | 0 => Exec.exhausted
  | fuel + 1 => do
    if ← stopRequested g then return true
    let now ← clock g
    if deadline ≤ now then return false
    pause g (min (deadline - now) slice)
    awaitStop slice deadline fuel

end TapScript
