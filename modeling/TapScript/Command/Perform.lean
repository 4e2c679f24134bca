import TapScript.Command.Arguments
import TapScript.Recognizer
import TapScript.Timing

/-!
# Carrying out commands

What each command does at the gateway, what it logs, and which value it gives. An action that is
refused is a mishap of its statement. A query that is refused is reported and gives the value that
says "nothing found"; it never fails its statement.

* `Command.perform` carries a command out.
* `waitForColor` and `pollText` sample the screen until something is found or the time is over.
-/

namespace TapScript

/-- The line of the log behind an action. -/
def Action.trace : Action → String
  | click p => s!"click({p.x}, {p.y})"
  | longClick p d => s!"longClick({p.x}, {p.y}, {Duration.millis d})"
  | swipe p q d => s!"swipe({p.x}, {p.y}, {q.x}, {q.y}, {Duration.millis d})"
  | key k => k.text ++ "()"
  | message t => "sendTelegram: " ++ t
  | vibrate d => s!"vibrate({Duration.millis d})"
  | clipboard t => "pushToCb: " ++ t
  | toast t => "toast: " ++ t

/-! ## What is looked for in a text -/

/-- Whether the text of a block holds the text looked for. -/
def TextBlock.holds (b : TextBlock) (text : String) : Bool :=
  Text.contains text.toList b.text.toList

/-- The blocks with their center in the area. -/
def blocksIn (area : Region) : List TextBlock → Except String (List TextBlock)
  | [] => return []
  | b :: blocks => do
    let center ← b.bounds.checkedCenter
    let inside ← blocksIn area blocks
    return if area.contains center then b :: inside else inside

/-- Whether a block with its center in the area holds the text, going through the blocks no further
than to the first one that does. -/
def sightIn? (area : Region) (text : String) : List TextBlock → Except String (Option Unit)
  | [] => return none
  | b :: blocks => do
    if area.contains (← b.bounds.checkedCenter) && b.holds text then return some ()
    sightIn? area text blocks

/-- The center of the first block that holds the text. -/
def placeOf? (text : String) (blocks : List TextBlock) : Except String (Option Point) :=
  match blocks.find? fun b => b.holds text with
  | none => return none
  | some b => return some (← b.bounds.checkedCenter)

/-! ## The commands -/

section Perform

variable {ω : Type} (g : Gateway ω) (config : Config) (fuel line : Nat)

/-- Clicking up to `remaining` more times with a pause in between; how often it was clicked in all,
if no click was refused. A stop ends it early. -/
def clicks (p : Point) (delay : Duration) :
    (remaining done : Nat) → Exec (Station ω) (Except Fault Nat)
  | 0, done => return .ok done
  | remaining + 1, done => do
    if ← stopRequested g then return .ok done
    match ← ask g (.act (.click p)) with
    | .error fault => return .error fault
    | .ok () =>
      if remaining = 0 then return .ok (done + 1)
      else if ← sleep g fuel delay config.slice then clicks p delay remaining (done + 1)
      else return .ok (done + 1)

/-- Sampling a pixel until it has the color. -/
def watchColor (p : Point) (color : Color) (timer : PollTimer) :
    (samples : Nat) → Exec (Station ω) Bool
  | 0 => Exec.exhausted
  | samples + 1 => do
    match ← ask g (.pixel p) with
    | .error fault =>
      fail g line s!"waitForColor failed: {fault.message}"
      return false
    | .ok actual =>
      if actual.agrees color 0 then return true
      if ← timer.next g fuel config.slice then watchColor p color timer samples
      else return false

/-- Waiting for a pixel to have the color. -/
def waitForColor (p : Point) (color : Color) (timeout : Duration) : Exec (Station ω) Bool := do
  let timer ← PollTimer.start g timeout config.pollInterval
  watchColor g config fuel line p color timer fuel

/-- What one look at the text of the screen gives. -/
inductive Sample where
  | text (blocks : List TextBlock)
  /-- No text this time; looking again may help. -/
  | retry
  /-- No text, and none is to be expected. -/
  | abort

/-- Looking at the text of the screen once. A stop ends the recognition. -/
def sampleText : Exec (Station ω) Sample := do
  match ← ask g .screenshot with
  | .error fault =>
    fail g line s!"Screenshot failed: {fault.message}"
    return .abort
  | .ok image =>
    match ← Recognizer.recognize? g config.recognitionBound (some config.slice) image with
    | none => return .abort
    | some (.ok blocks) => return .text blocks
    | some (.error fault) =>
      fail g line s!"Text recognition failed: {fault.message}"
      match fault with
      | .timeout _ => return .retry
      | _ => return .abort

/-- Looking at the text of the screen until the check finds something in it. The check may panic. -/
def watchText {α : Type} (check : List TextBlock → Except String (Option α)) (timer : PollTimer) :
    (samples : Nat) → Exec (Station ω) (Option α)
  | 0 => Exec.exhausted
  | samples + 1 => do
    let again : Exec (Station ω) (Option α) := do
      if ← timer.next g fuel config.slice then watchText check timer samples else return none
    match ← sampleText g config line with
    | .abort => return none
    | .retry => again
    | .text blocks =>
      match ← orPanic g (check blocks) with
      | some found => return some found
      | none => again

/-- Waiting for the check to find something in the text of the screen. -/
def pollText {α : Type} (timeout : Duration) (check : List TextBlock → Except String (Option α)) :
    Exec (Station ω) (Option α) := do
  let timer ← PollTimer.start g timeout config.pollInterval
  watchText g config fuel line check timer fuel

/-- Adding to a variable that outlives the run. What is missing or no integer counts as zero, and a
sum that does not fit is a mishap. -/
def stepVar (builtin : Builtin) (name : String) (step : Int) :
    Exec (Station ω) (Except Mishap Value) := do
  let stored : Option String ← ask g (.load name)
  let current := (stored.bind fun v =>
    Integer.readWithin? Number.minInt64 Number.maxInt64 (Text.trim v.toList)).getD 0
  let next := current + step
  if next < Number.minInt64 ∨ Number.maxInt64 < next then
    return .error (.invalid builtin.name (.overflow name current))
  let () ← ask g (.store name (String.ofList (Integer.render next)))
  record .debug "Persistent variable updated" [("name", name), ("value", toString next)]
  return .ok (.number (Float.ofInt next))

/-- Where a search has ended. -/
def foundText : Option Point → String
  | some p => String.ofList p.text
  | none => "not found"

/-- Carries out a command on the line with the given number, and gives its value if it has one. -/
def Command.perform : Command → Exec (Station ω) (Except Mishap (Option Value))
  | act a => do
    match ← ask g (.act a) with
    | .error fault => return .error (.gateway fault)
    | .ok () =>
      TapScript.log g a.trace
      return .ok none
  | tap p count delay => do
    match ← clicks g config fuel p delay count 0 with
    | .error fault => return .error (.gateway fault)
    | .ok done =>
      TapScript.log g s!"tap({p.x}, {p.y}) x{done}"
      return .ok none
  | sleep duration => do
    if !(← TapScript.sleep g fuel duration config.slice) then
      record .debug "Sleep interrupted by stop request" [("line", toString line)]
    return .ok none
  | log text => do
    TapScript.log g text
    return .ok none
  | setVar name value => do
    let () ← ask g (.store name value)
    TapScript.log g s!"setVar({name}, {value})"
    return .ok none
  | getVar name => do
    let stored : Option String ← ask g (.load name)
    return .ok (some (.text (stored.getD "").toList))
  | stepVar builtin name step => do
    match ← TapScript.stepVar g builtin name step with
    | .ok v => return .ok (some v)
    | .error mishap => return .error mishap
  | random lo hi => do
    return .ok (some (.number (Float.ofInt (← rollDice lo hi))))
  | getColor p => do
    match ← ask g (.pixel p) with
    | .ok color => return .ok (some (.text color.text))
    | .error fault =>
      fail g line s!"getColor failed: {fault.message}"
      return .ok (some .null)
  | compareColor p color tolerance => do
    match ← ask g (.pixel p) with
    | .ok actual => return .ok (some (.bool (actual.agrees color tolerance)))
    | .error fault =>
      fail g line s!"compareColor failed: {fault.message}"
      return .ok (some (.bool false))
  | waitForColor p color timeout => do
    let found ← TapScript.waitForColor g config fuel line p color timeout
    let ending := if found then "matched" else "timed out"
    TapScript.log g s!"waitForColor({p.x}, {p.y}, {String.ofList color.text}): {ending}"
    return .ok (some (.bool found))
  | waitForText area text timeout => do
    let found ← pollText g config fuel line timeout (sightIn? area text)
    let ending := if found.isSome then "found" else "timed out"
    TapScript.log g s!"waitForText(\"{text}\"): {ending}"
    return .ok (some (.bool found.isSome))
  | getText area => do
    match ← sampleText g config line with
    | .text blocks =>
      let inside ← orPanic g (blocksIn area blocks)
      return .ok (some (.text (" ".intercalate (inside.map TextBlock.text)).toList))
    | _ => return .ok (some (.text []))
  | findText text timeout => do
    let found ← pollText g config fuel line timeout (placeOf? text)
    TapScript.log g s!"findText(\"{text}\"): {foundText found}"
    return .ok (some (.ofPoint? found))
  | findImage path threshold => do
    match ← ask g (.findImage path threshold) with
    | .ok found =>
      TapScript.log g s!"findImage({path}): {foundText found}"
      return .ok (some (.ofPoint? found))
    | .error fault =>
      fail g line s!"findImage failed: {fault.message}"
      return .ok (some .null)

end Perform

end TapScript
