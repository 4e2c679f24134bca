import TapScript.Gateway.Device
import TapScript.Proofs.Requests

/-! # Evaluating texts

A condition may be any text, and so may the right side of an assignment or an argument. The calls
that stand in it are carried out before it is read, but only calls of queries are: whatever else is
named there, an action or a function of the script, is a word like any other. So evaluating a text
asks questions and does nothing.

* `Command.MayAsk.isInquiry` says that what a query may ask is a question.
* `evaluating_never_acts` says that the evaluation of a text leaves the variables and loops of a run
  as they are and only asks questions, at whatever point it is made. -/

namespace TapScript

variable {ω : Type}

/-- The questions: reading a variable that outlives the run, a pixel, the screen or its text, and
looking for an image. -/
def Request.isInquiry : Request → Bool
  | load _ | pixel _ | screenshot | openRecognizer | recognize .. | findImage .. => true
  | _ => false

/-- What a query may ask is a question. -/
theorem Command.MayAsk.isInquiry {c : Command} {r : Request} (h : c.MayAsk r) (hc : c.isQuery) :
    r.isInquiry := by
  have hreading : ∀ r : Request, r.isReading → r.isInquiry := by
    intro r hr
    cases r with
    | screenshot => rfl
    | openRecognizer => rfl
    | recognize session image bound watch => rfl
    | _ => cases hr
  cases c with
  | getVar name => cases h; rfl
  | waitForColor p color timeout => cases h; rfl
  | compareColor p color tolerance => cases h; rfl
  | getColor p => cases h; rfl
  | findImage path threshold => cases h; rfl
  | waitForText area text timeout => exact hreading r h
  | getText area => exact hreading r h
  | findText text timeout => exact hreading r h
  | _ => cases hc

/-- From one moment of a run to another, the variables and loops have not changed and nothing was
asked but questions, beside what any command may ask: looks at the flag and the clock, waits, lines
for the log, and a panic that it ends in. -/
structure Session.Inquires (s t : Session (ω × List Exchange)) : Prop where
  scope : t.scope = s.scope
  loops : t.loops = s.loops
  asks : s.station.AsksOnly (fun r => r.isInquiry ∨ r.isRoutine) t.station

section Evaluation

variable {α : Type} {x : Exec (Station (ω × List Exchange)) α} {n : Nat}

/-- What happens at the station does not touch the variables and loops. -/
theorem Session.lift_inquires (hx : x.Obeys (Contract.asking fun r => r.isInquiry ∨ r.isRoutine) n)
    (s : Session (ω × List Exchange)) :
    (Session.lift x s).Meets (fun _ t => s.Inquires t) s.Inquires :=
  Session.lift_meets ((hx s.station).imp (fun _ _ h => ⟨rfl, rfl, h⟩) fun _ h => ⟨rfl, rfl, h⟩)

end Evaluation

/-- The evaluation of a text asks questions. -/
theorem conduct_inquiring (g : Gateway ω) :
    Conduct g.transcribed (Contract.asking fun r => r.isInquiry ∨ r.isRoutine)
      fun r => r.isInquiry ∨ r.isRoutine :=
  conduct_asking g fun _ h => .inr h

/-- What a query asks for is an inquiry, or routine. -/
theorem isInquiry_of_issued {config : Config} {b : Builtin} {c : Command} (hb : b.isQuery)
    (hc : b.Issues config c) {r : Request} (hr : c.MayAsk r) : r.isInquiry ∨ r.isRoutine :=
  .inl (hr.isInquiry (hc.isQuery hb))

/-- Evaluating a condition, or expanding the queries in any text, changes no variable, no frame and
no loop and asks the device only questions. The functions of the script are part of the setup, which
nothing changes. A wait that does not end is covered too: at a gateway that breaks down after so
many requests, the evaluation ends. -/
theorem evaluating_never_acts (g : Gateway ω) (config : Config) (functions : Registry)
    (fuel line : Nat) (text : Text) :
    (∀ s, (Setup.test ⟨g.transcribed, config, functions, fuel⟩ line text s).Meets
      (fun _ t => s.Inquires t)
        s.Inquires) ∧
      (∀ s, (Setup.expand ⟨g.transcribed, config, functions, fuel⟩ line text s).Meets
        (fun _ t => s.Inquires t) s.Inquires) ∧
      ∀ n, n < fuel →
        (∀ s, (Setup.test ⟨(g.upTo n).transcribed, config, functions, fuel⟩ line text s).Meets
          (fun _ t => s.Inquires t) s.Inquires False) ∧
        ∀ s, (Setup.expand ⟨(g.upTo n).transcribed, config, functions, fuel⟩ line text s).Meets
          (fun _ t => s.Inquires t) s.Inquires False := by
  have htest : ∀ {ω' : Type} (g' : Gateway ω') (s : Session (ω' × List Exchange)),
      (Setup.test ⟨g'.transcribed, config, functions, fuel⟩ line text s).Meets
        (fun _ t => s.Inquires t) s.Inquires := fun g' s =>
    Session.lift_inquires ((conduct_inquiring g').test_obeys
      (fun _ _ hb hc _ => isInquiry_of_issued hb hc) fuel line s.scope.current text) s
  have hexpand : ∀ {ω' : Type} (g' : Gateway ω') (s : Session (ω' × List Exchange)),
      (Setup.expand ⟨g'.transcribed, config, functions, fuel⟩ line text s).Meets
        (fun _ t => s.Inquires t) s.Inquires := fun g' s =>
    Session.lift_inquires ((conduct_inquiring g').expand_obeys
      (fun _ _ hb hc _ => isInquiry_of_issued hb hc) fuel line s.scope.current text) s
  -- that the evaluation ends does not depend on what it asks
  have hanything : ∀ (b : Builtin) (c : Command), b.isQuery → b.Issues config c →
      ∀ r, c.MayAsk r → True :=
    fun _ _ _ _ _ _ => trivial
  refine ⟨htest g, hexpand g, fun n hn => ⟨fun s => ?_, fun s => ?_⟩⟩
  · have hends := Session.lift_upTo_ends
      ((conduct_counting g n).test_obeys hanything fuel line s.scope.current text) hn s
    exact (hends.and (htest (g.upTo n) s)).imp (fun _ _ h => h.2) fun _ h => h.2
  · have hends := Session.lift_upTo_ends
      ((conduct_counting g n).expand_obeys hanything fuel line s.scope.current text) hn s
    exact (hends.and (hexpand (g.upTo n) s)).imp (fun _ _ h => h.2) fun _ h => h.2

/-- A click that is named in a condition is not carried out, and the variable beside it is only
read. -/
theorem evaluating_never_acts_named :
    2 < 9 ∧ ∀ s, (Setup.test ⟨(Device.gateway.upTo 2).transcribed, {}, .empty, 9⟩ 1
      "click(1, 2) == getVar(\"n\")".toList s).Meets (fun _ t => s.Inquires t) s.Inquires False :=
  ⟨by decide, ((evaluating_never_acts Device.gateway {} .empty 9 1 _).2.2 2 (by decide)).1⟩

end TapScript
