import TapScript.Gateway.Basic

/-!
# The simulated device

A device that exists in memory only. It records what is done to it, shows a background color with
single pixels painted over it, and answers text and image searches from lists. Its clock advances
when a run waits, and by a little with every look at the stop flag, so no wait takes real time.

* `Device.answer` answers requests, `Device.gateway` is the gateway made of it.
-/

namespace TapScript

/-- A text recognizer of the device. -/
inductive RecognizerSession where
  /-- Answers with the text of the screen after a delay. -/
  | reading (delay : Duration)
  /-- Refuses every picture. -/
  | failing (fault : Fault)
deriving DecidableEq, Repr

/-- An image that the device can find: where it is and how well it matches. -/
structure Template where
  name : String
  place : Point
  score : Float

/-- The state of the simulated device. -/
structure Device where
  width : Nat := 360
  height : Nat := 640
  ready : Bool := true
  /-- What was done to the device, in order. -/
  actions : Array Action := #[]
  /-- The reason with which every action fails, if there is one. -/
  refusal : Option String := none
  background : Color := Color.ofChannels 0 0 0
  /-- The painted pixels, a later one over an earlier one. -/
  pixels : List (Point × Color) := []
  /-- The text on the screen. -/
  texts : List TextBlock := []
  /-- How long a recognizer opened from now on takes. -/
  delay : Duration := 0
  /-- The reason why no recognizer can be opened, if there is one. -/
  initFault : Option String := none
  templates : List Template := []
  /-- The variables that outlive a run. -/
  stored : List (String × String) := []
  /-- All recognizers that were opened, in order. -/
  sessions : Array RecognizerSession := #[]
  opened : Nat := 0
  closed : Nat := 0
  clock : Nat := 0
  /-- The lines that the log callback was given. -/
  lines : Array String := #[]

namespace Device

/-- What a look at the stop flag takes. -/
def tick : Duration := 2000

/-- Does something to the device. -/
def act (a : Action) (d : Device) : Except Fault Unit × Device :=
  if !d.ready then (.error .notReady, d)
  else
    match d.refusal with
    | some reason => (.error (.failed reason), d)
    | none => (.ok (), { d with actions := d.actions.push a })

/-- The color of a place, on the screen or not. -/
def colorAt (d : Device) (p : Point) : Color := (d.pixels.lookup p).getD d.background

/-- Paints a pixel. -/
def paint (d : Device) (p : Point) (c : Color) : Device :=
  { d with pixels := (p, c) :: d.pixels.filter fun e => e.1 != p }

/-- The color of a place, if the device is ready. -/
def pixel (d : Device) (p : Point) : Except Fault Color :=
  if d.ready then .ok (d.colorAt p) else .error .notReady

/-- Puts one painted pixel into a picture, if it lies on the screen. -/
def stamp (d : Device) (picture : Array Color) (pixel : Point × Color) : Array Color :=
  let p := pixel.1
  if 0 ≤ p.x ∧ p.x < d.width ∧ 0 ≤ p.y ∧ p.y < d.height then
    picture.setIfInBounds (p.y.toNat * d.width + p.x.toNat) pixel.2
  else picture

/-- A picture of the screen: the background, and the painted pixels that lie on it. -/
def screenshot (d : Device) : Except Fault Screenshot :=
  if d.ready then
    let blank := Array.replicate (d.width * d.height) d.background
    .ok ⟨d.width, d.height, d.pixels.foldl d.stamp blank⟩
  else .error .notReady

/-- Adds a recognizer. -/
def addSession (d : Device) (session : RecognizerSession) : SessionId × Device :=
  (d.sessions.size, { d with sessions := d.sessions.push session })

/-- Opens a recognizer. -/
def openRecognizer (d : Device) : Except Fault SessionId × Device :=
  match d.initFault with
  | some reason => (.error (.recognizerInit reason), d)
  | none =>
    let (session, d) := d.addSession (.reading d.delay)
    (.ok session, { d with opened := d.opened + 1 })

/-- Closes a recognizer. -/
def closeRecognizer (d : Device) (session : SessionId) : Device :=
  match d.sessions[session]? with
  | some (.reading _) => { d with closed := d.closed + 1 }
  | _ => d

/-- How long a recognizer takes. -/
def delayOf (d : Device) (session : SessionId) : Duration :=
  match d.sessions[session]? with
  | some (.reading delay) => delay
  | _ => 0

/-- The answer of a recognizer during which no stop is requested. One that answers at once does so
even if a stop has been requested before. -/
def recognize (d : Device) (session : SessionId) (bound : Duration) (watch : Option Watch) :
    Recognition × Device :=
  match d.sessions[session]? with
  | some (.reading delay) =>
    if delay = 0 then (.answered (.ok d.texts), d)
    else if watch.any Watch.stopped then (.dropped, d)
    else if delay ≤ bound then (.answered (.ok d.texts), { d with clock := d.clock + delay })
    else (.late, { d with clock := d.clock + bound })
  | some (.failing fault) => (.answered (.error fault), d)
  | none => (.answered (.error .closed), d)

/-- Finds an image that matches well enough. -/
def findImage (d : Device) (name : String) (threshold : Float) : Except Fault (Option Point) :=
  if d.ready then
    .ok ((d.templates.find? fun t => t.name == name).bind fun t =>
      if t.score ≥ threshold then some t.place else none)
  else .error .notReady

/-- Adds an image, which replaces the one with its name. -/
def addTemplate (d : Device) (t : Template) : Device :=
  { d with templates := t :: d.templates.filter fun t' => t'.name != t.name }

/-- Reads a variable that outlives the run. -/
def load (d : Device) (name : String) : Option String := d.stored.lookup name

/-- Writes a variable that outlives the run. -/
def store (d : Device) (name value : String) : Device :=
  { d with stored := (name, value) :: d.stored.filter fun e => e.1 != name }

/-- How many clicks the device has recorded. -/
def clickCount (d : Device) : Nat :=
  d.actions.countP fun a => match a with
    | .click _ => true
    | _ => false

/-- How many bytes the pixels of the screen take. -/
def pictureSize (d : Device) : Nat := 4 * (d.width * d.height)

/-- Why a picture of the screen cannot be made, if it cannot: its pixels have more bytes than can be
addressed, or they have once the header of the shared buffer that they are moved into is counted. -/
def tooLarge? (d : Device) : Option String :=
  if 0x8000000000000000 ≤ d.pictureSize then some "capacity overflow"
  else if 0x8000000000000000 < d.pictureSize + 24 then
    some "called `Result::unwrap()` on an `Err` value: LayoutError"
  else none

/-- The picture of the screen, or the crash of an attempt to make one that is too large. -/
def capture (d : Device) : Except Crash (Except Fault Screenshot) :=
  if d.ready then
    match d.tooLarge? with
    | some message => .error ⟨some message⟩
    | none => .ok d.screenshot
  else .ok d.screenshot

/-- The answer to a request, and the device behind it. It crashes only when asked for a picture that
no memory can hold, and at a panic of the run. -/
def answer (r : Request) (d : Device) : Except Crash r.Reply × Device :=
  match r with
  | .ready => (.ok d.ready, d)
  | .act a =>
    let (reply, d) := d.act a
    (.ok reply, d)
  | .pixel p => (.ok (d.pixel p), d)
  | .screenshot => (d.capture, d)
  | .openRecognizer =>
    let (reply, d) := d.openRecognizer
    (.ok reply, d)
  | .recognize session _ bound watch =>
    let (reply, d) := d.recognize session bound watch
    (.ok reply, d)
  | .closeRecognizer session => (.ok (), d.closeRecognizer session)
  | .findImage name threshold => (.ok (d.findImage name threshold), d)
  | .load name => (.ok (d.load name), d)
  | .store name value => (.ok (), d.store name value)
  | .log line => (.ok (), { d with lines := d.lines.push line })
  | .checkpoint => (.ok (), { d with clock := d.clock + tick })
  | .visit _ => (.ok (), d)
  | .clock => (.ok d.clock, d)
  | .pause duration => (.ok (), { d with clock := d.clock + duration })
  | .panic message => (.error ⟨some message⟩, d)

/-- The device as a gateway, with which nobody interferes. -/
def gateway : Gateway Device where
  answer r _ d :=
    let (outcome, d) := d.answer r
    ⟨outcome, .none, d⟩

end Device

end TapScript
