import TapScript.Color
import TapScript.Duration
import TapScript.Geometry

/-!
# The action gateway

A script never touches a device. What it does to the screen and what it sees of it goes through a
gateway, and so does everything else that comes from outside a run: the log callback, the clock, and
the moments at which someone else may have requested a stop. A panic of the run itself goes out the
same way, since the host is told of it.

* `Request` lists what a run may ask, `Request.Reply` what it gets back.
* `Gateway` answers requests from a state of its own. An answer may crash instead, and while it is
  given somebody may request a stop or close the engine.
-/

namespace TapScript

/-- The navigation keys of the device. -/
inductive Key where
  | back
  | home
  | recents
deriving DecidableEq, Repr

/-- The name of the key in scripts. -/
def Key.text : Key → String
  | .back => "back"
  | .home => "home"
  | .recents => "recents"

/-- Something done to the device. -/
inductive Action where
  | click (p : Point)
  | longClick (p : Point) (duration : Duration)
  | swipe (start finish : Point) (duration : Duration)
  | key (k : Key)
  | message (text : String)
  | vibrate (duration : Duration)
  | clipboard (text : String)
  | toast (text : String)
deriving DecidableEq, Repr

/-- Why the gateway refuses a request. -/
inductive Fault where
  /-- The device is not connected, or a permission is missing. -/
  | notReady
  /-- A text recognizer cannot be opened. -/
  | recognizerInit (reason : String)
  /-- The text recognizer was closed before it was asked. -/
  | closed
  /-- The text recognizer did not answer in time. -/
  | timeout (bound : Duration)
  /-- The device tried and failed. -/
  | failed (reason : String)
  /-- The device cannot do this at all. -/
  | unsupported (what : String)
deriving DecidableEq, Repr

/-- The reason in words. -/
def Fault.message : Fault → String
  | notReady => "Action gateway is not ready"
  | recognizerInit reason => "Text recognizer failed to initialize: " ++ reason
  | closed => "Text recognizer has been closed"
  | timeout bound =>
    "Text recognition timed out (after " ++ String.ofList (Duration.text bound) ++ ")"
  | failed reason => "Action failed: " ++ reason
  | unsupported what => "Unsupported action: " ++ what

/-- A picture of the whole screen, its pixels row by row. -/
structure Screenshot where
  width : Nat
  height : Nat
  pixels : Array Color

/-- The color of a pixel, if it lies on the screen. -/
def Screenshot.pixel? (s : Screenshot) (p : Point) : Option Color :=
  if 0 ≤ p.x ∧ p.x < s.width ∧ 0 ≤ p.y ∧ p.y < s.height then
    s.pixels[p.y.toNat * s.width + p.x.toNat]?
  else none

/-- A piece of text that was recognized, and where. -/
structure TextBlock where
  text : String
  bounds : Region
deriving DecidableEq, Repr

/-- A text recognizer that is open, by its number. -/
abbrev SessionId := Nat

/-- How a text recognition ends. -/
inductive Recognition where
  | answered (blocks : Except Fault (List TextBlock))
  /-- No answer came within the bound. -/
  | late
  /-- A stop was requested before an answer came. -/
  | dropped

/-- How a run looks at the stop flag while it waits for an answer: whether the flag is set from the
start, and the time from one look to the next. -/
structure Watch where
  stopped : Bool
  interval : Duration
deriving DecidableEq, Repr

/-- The first look, counted in time from the start, at which something that happens `after` a while
is seen. -/
def Watch.firstSight (w : Watch) (after : Duration) : Duration :=
  if w.interval = 0 then after else (after + w.interval - 1) / w.interval * w.interval

/-- What a run may ask of the world around it. -/
inductive Request where
  /-- Whether the device is ready to act. -/
  | ready
  | act (a : Action)
  | pixel (p : Point)
  | screenshot
  | openRecognizer
  /-- Reading the text of a picture, for at most `bound`. With a `watch` it ends early when a stop
  is seen. -/
  | recognize (session : SessionId) (image : Screenshot) (bound : Duration) (watch : Option Watch)
  | closeRecognizer (session : SessionId)
  | findImage (template : String) (threshold : Float)
  /-- Reading a variable that outlives the run. -/
  | load (name : String)
  /-- Writing a variable that outlives the run. -/
  | store (name value : String)
  /-- A line for the log callback. -/
  | log (line : String)
  /-- A moment at which the run looks at the stop flag. -/
  | checkpoint
  /-- The moment at which the run takes up the line with the given number. -/
  | visit (number : Nat)
  /-- The time on a clock that never goes back. -/
  | clock
  /-- Letting time pass. -/
  | pause (duration : Duration)
  /-- A panic of the run itself. The host is told, and the only answer is a crash. -/
  | panic (message : String)

/-- What a request is answered with. -/
def Request.Reply : Request → Type
  | ready => Bool
  | act _ => Except Fault Unit
  | pixel _ => Except Fault Color
  | screenshot => Except Fault Screenshot
  | openRecognizer => Except Fault SessionId
  | recognize .. => Recognition
  | closeRecognizer _ => Unit
  | findImage .. => Except Fault (Option Point)
  | load _ => Option String
  | store .. => Unit
  | log _ => Unit
  | checkpoint => Unit
  | visit _ => Unit
  | clock => Nat
  | pause _ => Unit
  | panic _ => Empty

/-- A crash, with its message if it has one. -/
structure Crash where
  payload : Option String
deriving DecidableEq, Repr

/-- What is reported of a crash. -/
def Crash.message (c : Crash) : String := c.payload.getD "unknown panic"

/-- What somebody else may have done while a request was answered. -/
inductive Signal where
  | none
  /-- A stop was requested. -/
  | stop
  /-- The engine was closed: a stop, and the text recognizer is released. -/
  | close
deriving DecidableEq, Repr

/-- The answer to a request: the reply or a crash, what happened meanwhile, and the state of the
gateway behind it. -/
structure Turn (ω : Type) (ρ : Type) where
  outcome : Except Crash ρ
  signal : Signal
  state : ω

namespace Turn

/-- A plain reply, during which nothing else happened. -/
def reply {ω ρ : Type} (r : ρ) (state : ω) : Turn ω ρ := ⟨.ok r, .none, state⟩

end Turn

/-- A gateway with states `ω`. Whoever acts for it may hold the stop flag too, so an answer may
depend on whether the flag is set. -/
structure Gateway (ω : Type) where
  answer : (r : Request) → (stopped : Bool) → ω → Turn ω r.Reply

end TapScript
