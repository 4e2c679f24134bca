import Mathlib.Data.Option.Basic
import TapScript.Proofs.Contract

/-! # The conduct of commands and queries

Whatever a command does at the station is made of a few moves: requests, entries of the journal,
draws, a stop, and what is done with the recognizer. `Conduct` says that these moves keep a
contract, as long as only `allowed` requests are made; this module carries the contract from the
moves to every command, every query inside a text and every condition. A contract that does not care
which recognizer is open has its conduct by `Conduct.of_moves`.

Two kinds of requests, the deeds, are made only when the stop flag has been looked at right before:
an action of its own statement, and taking up a line. A contract may count on a clear flag there,
given that nobody requests a stop at the very moment of a look (`Gateway.Quiet`).

* `Command.MayAsk` are the requests that a command may make.
* `Conduct.perform_obeysFrom` is the contract of a command, `Conduct.expand_obeys` and
  `Conduct.test_obeys` those of queries inside texts. -/

namespace TapScript

/-! ## Kinds of requests -/

namespace Request

/-- The requests that stand for what a script does: acting on the device, and taking up a line. -/
def isDeed : Request → Bool
  | act _ | visit _ => true
  | _ => false

/-- The moments at which a run turns to nobody: it looks at the flag, or takes up a line. -/
def isLook : Request → Bool
  | checkpoint | visit _ => true
  | _ => false

/-- The requests that any command may make: looks, waits, lines of the log and panics. -/
def isRoutine : Request → Bool
  | checkpoint | clock | pause _ | log _ | panic _ => true
  | _ => false

/-- The requests by which the text of the screen is read. -/
def isReading : Request → Bool
  | screenshot | openRecognizer | recognize .. => true
  | _ => false

/-- The request that closes a recognizer. -/
def isClose : Request → Bool
  | closeRecognizer _ => true
  | _ => false

/-- The requests that concern the recognizer. -/
def isSession : Request → Bool
  | openRecognizer | recognize .. | closeRecognizer _ => true
  | _ => false

/-- What is routine is no deed. -/
theorem isDeed_eq_false_of_isRoutine {r : Request} (h : r.isRoutine) : r.isDeed = false := by
  cases r <;> first | rfl | exact absurd h (by simp [isRoutine])

/-- What is routine does not concern the recognizer. -/
theorem isSession_eq_false_of_isRoutine {r : Request} (h : r.isRoutine) : r.isSession = false := by
  cases r <;> first | rfl | exact absurd h (by simp [isRoutine])

/-- What is routine closes no recognizer. -/
theorem isClose_eq_false_of_isRoutine {r : Request} (h : r.isRoutine) : r.isClose = false := by
  cases r with
  | closeRecognizer session => cases h
  | _ => rfl

end Request

namespace Command

/-- Whether the command is one action, carried out without another look at the stop flag. -/
def isAction : Command → Bool
  | act _ => true
  | _ => false

/-- Whether the command is what a query turns out to be. -/
def isQuery : Command → Bool
  | getVar .. | waitForColor .. | waitForText .. | compareColor .. | getColor .. | getText .. =>
    true
  | findText .. | findImage .. => true
  | _ => false

/-- The requests that a command may make beside the routine ones. -/
def MayAsk : Command → Request → Prop
  | act a, r => r = .act a
  | tap p _ _, r => r = .act (.click p)
  | setVar name value, r => r = .store name value
  | getVar name, r => r = .load name
  | stepVar _ name _, r => r = .load name ∨ ∃ value, r = .store name value
  | waitForColor p _ _, r => r = .pixel p
  | compareColor p _ _, r => r = .pixel p
  | getColor p, r => r = .pixel p
  | waitForText .., r => r.isReading
  | getText .., r => r.isReading
  | findText .., r => r.isReading
  | findImage path threshold, r => r = .findImage path threshold
  | sleep _, _ => False
  | log _, _ => False
  | random _ _, _ => False

/-- No command closes the recognizer. -/
theorem MayAsk.isClose_eq_false {c : Command} {r : Request} (h : c.MayAsk r) :
    r.isClose = false := by
  cases r with
  | closeRecognizer session => cases c <;> simp [MayAsk, Request.isReading] at h
  | _ => rfl

end Command

/-! ## What a call issues -/

/-- Whatever is read successfully has the property. -/
def Reading.Yields {α : Type} (P : α → Prop) (x : Reading α) : Prop :=
  ∀ d a d', x.run d = (.ok a, d') → P a

namespace Reading

variable {α β : Type} {P : β → Prop}

/-- What is returned without reading has its property. -/
theorem yields_pure {b : β} (hb : P b) : Yields P (pure b) := by
  intro d a d' h
  cases h
  exact hb

/-- A mishap yields nothing. -/
theorem yields_throw (m : Mishap) : Yields P (throw m : Reading β) := fun _ _ _ h => nomatch h

/-- What is read behind a value may count on what the value is known to be. -/
theorem yields_bind_of {R : α → Prop} {x : Reading α} {f : α → Reading β} (hread : Yields R x)
    (hf : ∀ a, R a → Yields P (f a)) : Yields P (x >>= f) := by
  intro d b d' h
  cases hx : x.run d with
  | mk result e =>
    cases result with
    | ok a =>
      refine hf a (hread d a e hx) e b d' ?_
      rw [← h, ExceptT.run_bind]
      simp only [bind, StateT.bind, hx]
    | error m =>
      rw [ExceptT.run_bind] at h
      simp only [bind, StateT.bind, hx] at h
      cases h

/-- What a sequence yields is what its last part yields. -/
theorem yields_bind {x : Reading α} {f : α → Reading β} (hf : ∀ a, Yields P (f a)) :
    Yields P (x >>= f) :=
  yields_bind_of (R := fun _ => True) (fun _ _ _ _ => trivial) fun a _ => hf a

end Reading

/-- The command is what a call of the built-in may turn out to be, given the bounds of the run. -/
def Builtin.Issues (b : Builtin) (config : Config) (c : Command) : Prop :=
  ∃ args env d d', (b.read args env config).run d = (.ok c, d')

/-- A query is read as one and the same kind of command, whatever its arguments are. -/
theorem Builtin.Issues.isQuery {b : Builtin} {config : Config} {c : Command}
    (h : b.Issues config c) (hb : b.isQuery) : c.isQuery = true := by
  obtain ⟨args, env, d, d', hread⟩ := h
  refine (?_ : Reading.Yields (fun c => c.isQuery = true) (b.read args env config)) d c d' hread
  unfold Builtin.read
  dsimp only
  split
  · open Reading in
    cases b with
    | getVar => exact yields_bind fun _ => yields_pure rfl
    | getColor => exact yields_bind fun _ => yields_pure rfl
    | getText => exact yields_bind fun _ => yields_pure rfl
    | findImage => exact yields_bind fun _ => yields_bind fun _ => yields_pure rfl
    | findText =>
      simp only [Arguments.command]
      split <;> exact yields_bind fun _ => yields_bind fun _ => yields_pure rfl
    | waitForColor =>
      exact yields_bind fun _ => yields_bind fun _ => yields_bind fun _ => yields_pure rfl
    | waitForText =>
      exact yields_bind fun _ => yields_bind fun _ => yields_bind fun _ => yields_pure rfl
    | compareColor =>
      exact yields_bind fun _ => yields_bind fun _ => yields_bind fun _ => yields_pure rfl
    | _ => exact absurd hb (by decide)
  · exact Reading.yields_throw _

/-- A query never turns out to be an action. -/
theorem Builtin.Issues.isAction_eq_false {b : Builtin} {config : Config} {c : Command}
    (h : b.Issues config c) (hb : b.isQuery) : c.isAction = false := by
  have hquery := h.isQuery hb
  cases c with
  | act a => cases hquery
  | _ => rfl

namespace Query

/-- The last query of a text is a call of a built-in that is a query. -/
theorem isQuery_of_lastFrom? {before word : Text} {ms : List Text.Mark} {q : Query}
    (hq : lastFrom? before word ms = some q) : q.builtin.isQuery := by
  induction ms generalizing before word with
  | nil => simp [lastFrom?] at hq
  | cons m ms ih =>
    unfold lastFrom? at hq
    split at hq
    · exact ih hq
    · split at hq
      · rename_i q' hlast
        cases hq
        exact ih hlast
      · split at hq
        · simp only [call?, Option.bind_eq_bind, Option.bind_eq_some_iff] at hq
          obtain ⟨b, -, u, hu, ⟨args, behind⟩, -, hq⟩ := hq
          cases hq
          -- the guard has let the built-in pass
          exact (Option.guard_eq_some' u).1 hu
        · cases hq

/-- Only queries are called inside a text. -/
theorem isQuery_of_last? {t : Text} {q : Query} (hq : last? t = some q) : q.builtin.isQuery :=
  isQuery_of_lastFrom? hq

/-- What a call turns out to be is a command that its built-in issues. -/
theorem command_returns {ω : Type} (g : Gateway ω) (config : Config) (frame : Frame) (b : Builtin)
    (args : Text) :
    (command g config frame b args).Returns fun result => ∀ c, result = .ok c →
      b.Issues config c := by
  intro st
  refine Outcome.Meets.bind ((Exec.returns_true _ st).imp (fun stopped t _ => ?_) fun _ hc => hc)
  exact fun c hc => ⟨args, ⟨frame, stopped⟩, t.dice, _, Prod.ext hc rfl⟩

end Query

/-! ## Moves at the station -/

variable {ω α : Type}

/-- The station behind the answer to a request. -/
def Station.answered (g : Gateway ω) (r : Request) (st : Station ω) : Station ω :=
  let turn := g.answer r st.stopped st.state
  Station.receive g { st with state := turn.state } turn.signal

/-- Nobody requests a stop while a run merely looks at something or takes up a line. -/
def Gateway.Quiet (g : Gateway ω) : Prop :=
  ∀ (r : Request) (stopped : Bool) (w : ω), r.isLook → (g.answer r stopped w).signal = .none

/-- The stop flag is not set, if the gateway is quiet. -/
def Clear (g : Gateway ω) (st : Station ω) : Prop := g.Quiet → st.stopped = false

/-- A request ends with a reply or in a crash, and either way at the station behind the answer. -/
theorem ask_cases (g : Gateway ω) (r : Request) (st : Station ω) :
    (∃ reply, (g.answer r st.stopped st.state).outcome = .ok reply ∧
        ask g r st = .done reply (st.answered g r)) ∨
      ∃ crash, (g.answer r st.stopped st.state).outcome = .error crash ∧
        ask g r st = .crashed crash (st.answered g r) := by
  simp only [ask, Station.answered]
  cases (g.answer r st.stopped st.state).outcome with
  | ok reply => exact .inl ⟨reply, rfl, rfl⟩
  | error crash => exact .inr ⟨crash, rfl, rfl⟩

/-- At a look, a quiet gateway leaves the flag as it is. -/
theorem Station.stopped_answered {g : Gateway ω} {r : Request} {st : Station ω} (hg : g.Quiet)
    (hr : r.isLook) : (st.answered g r).stopped = st.stopped := by
  simp only [answered, hg r st.stopped st.state hr, receive]

/-- The stop flag is as the request needs it: clear where a line is taken up, and clear before an
action if the gateway is quiet. -/
def Timely (g : Gateway ω) (r : Request) (st : Station ω) : Prop :=
  match r with
  | .visit _ => st.stopped = false
  | .act _ => Clear g st
  | _ => True

/-- For all but deeds, every moment is timely. -/
theorem timely_of_isDeed_eq_false {g : Gateway ω} {r : Request} (hr : r.isDeed = false)
    (st : Station ω) : Timely g r st := by
  cases r with
  | act a => exact absurd hr (by simp [Request.isDeed])
  | visit number => exact absurd hr (by simp [Request.isDeed])
  | _ => trivial

/-- The moves at a station that have nothing to do with a request keep the contract. Every look that
finds the flag clear is a step. -/
structure Moves (g : Gateway ω) (k : Contract (Station ω)) (allowed : Request → Prop) : Prop where
  note : ∀ st r, k.done st (st.note r)
  dice : ∀ st d, k.done st { st with dice := d }
  stop : ∀ st, k.done st { st with stopped := true }
  routine : ∀ r, r.isRoutine → allowed r
  rest : ∀ st, k.tired 0 st
  look : ∀ st, (st.answered g .checkpoint).stopped = false → k.ahead st (st.answered g .checkpoint)

/-- All moves at a station keep the contract, as long as only allowed requests are made and deeds
only in time. Consulting the recognizer and closing it are one move each. -/
structure Conduct (g : Gateway ω) (k : Contract (Station ω)) (allowed : Request → Prop) : Prop
    extends Moves g k allowed where
  ask : ∀ n r, allowed r → r.isSession = false → (ask g r).ObeysFrom (Timely g r) k n
  consult : ∀ n, (∀ r : Request, r.isReading → allowed r) → ∀ bound interval looked image,
    (Recognizer.consult g bound interval looked image).Obeys k n
  close : ∀ n, (∀ session, allowed (.closeRecognizer session)) → (Recognizer.close g).Obeys k n

namespace Conduct

open Exec

variable {g : Gateway ω} {k : Contract (Station ω)} {allowed : Request → Prop} {n : Nat}

/-- A contract that all requests keep, and that does not care which recognizer is open. -/
theorem of_moves (moves : Moves g k allowed)
    (hask : ∀ n r, allowed r → (TapScript.ask g r).ObeysFrom (Timely g r) k n)
    (hrecognizer : ∀ st r, k.done st { st with recognizer := r }) : Conduct g k allowed := by
  -- besides requests, a recognition and a close only change the station
  have ask_obeys : ∀ {n r}, allowed r → r.isDeed = false → (TapScript.ask g r).Obeys k n :=
    fun hr hd st => hask _ _ hr st (timely_of_isDeed_eq_false hd st)
  have record_obeys : ∀ {n} level message fields,
      (record level message fields : Exec (Station ω) Unit).Obeys k n :=
    fun _ _ _ => obeys_modify fun st => moves.note st _
  refine ⟨moves, fun n r hr _ => hask n r hr, fun n hr bound interval looked image => ?_,
    fun n hr => ?_⟩
  · have opened_obeys : (Recognizer.opened g).Obeys k n := by
      refine (obeys_gets _).bind fun session => ?_
      cases session with
      | some session => exact obeys_pure _
      | none =>
        refine (record_obeys _ _ _).bind fun _ => ?_
        refine (ask_obeys (hr _ rfl) rfl).bind fun reply => ?_
        cases reply with
        | error fault => exact obeys_pure _
        | ok session => exact (obeys_modify fun st => hrecognizer st _).bind fun _ => obeys_pure _
    refine opened_obeys.bind fun opened => ?_
    cases opened with
    | error fault => exact obeys_pure _
    | ok session =>
      refine (obeys_gets _).bind fun stopped => ?_
      refine (ask_obeys (hr _ rfl) rfl).bind fun recognition => ?_
      cases recognition with
      | answered blocks => exact obeys_pure _
      | late => exact obeys_pure _
      | dropped => exact (obeys_modify moves.stop).bind fun _ => obeys_pure _
  · refine (obeys_gets _).bind fun session => ?_
    cases session with
    | none => exact obeys_pure _
    | some session =>
      refine (record_obeys _ _ _).bind fun _ => ?_
      refine (obeys_modify fun st => hrecognizer st _).bind fun _ => ?_
      exact (ask_obeys (hr session) rfl).bind fun _ => obeys_pure _

variable (h : Conduct g k allowed)

include h

/-- A request that is neither a deed nor for the recognizer keeps the contract if it is allowed. -/
theorem ask_obeys {r : Request} (hr : allowed r) (hd : r.isDeed = false)
    (hs : r.isSession = false := by rfl) : (TapScript.ask g r).Obeys k n :=
  fun st => h.ask n r hr hs st (timely_of_isDeed_eq_false hd st)

/-- Routine requests are always allowed. -/
theorem routine_obeys {r : Request} (hr : r.isRoutine) : (TapScript.ask g r).Obeys k n :=
  h.ask_obeys (h.routine r hr) (Request.isDeed_eq_false_of_isRoutine hr)
    (Request.isSession_eq_false_of_isRoutine hr)

/-- A panic keeps the contract. -/
theorem raise_obeys (message : String) : (raise g message : Exec (Station ω) α).Obeys k n :=
  (h.routine_obeys (r := .panic message) rfl).bind fun never => never.elim

/-- A computation that may panic keeps the contract. -/
theorem orPanic_obeys (x : Except String α) : (orPanic g x).Obeys k n := by
  cases x with
  | ok a => exact obeys_pure a
  | error message => exact h.raise_obeys message

/-- Rolling the dice keeps the contract. -/
theorem rollDice_obeys (lo hi : Int) : (rollDice lo hi : Exec (Station ω) Int).Obeys k n :=
  fun st => h.dice st _

/-- Taking down a notice keeps the contract. -/
theorem record_obeys (level : Level) (message : String) (fields : List (String × String)) :
    (record level message fields : Exec (Station ω) Unit).Obeys k n :=
  obeys_modify fun st => h.note st _

/-- Setting the flag keeps the contract. -/
theorem requestStop_obeys : (requestStop : Exec (Station ω) Unit).Obeys k n := obeys_modify h.stop

/-- Looking at the flag is routine. -/
theorem stopRequested_obeys : (stopRequested g).Obeys k n :=
  (h.routine_obeys rfl).bind fun _ => obeys_gets _

/-- Writing to the log is routine. -/
theorem log_obeys (line : String) : (log g line).Obeys k n :=
  (h.record_obeys _ _ _).bind fun _ => h.routine_obeys rfl

/-- To complain of a line is to take down a notice and to write to the log. -/
theorem complain_obeys (level : Level) (number : Nat) (message : String) :
    (complain g level number message).Obeys k n :=
  (h.record_obeys _ _ _).bind fun _ => h.routine_obeys rfl

/-- Failing at a line keeps the contract. -/
theorem fail_obeys (number : Nat) (message : String) : (fail g number message).Obeys k n :=
  h.complain_obeys _ _ _

/-- Warning of a line keeps the contract. -/
theorem warn_obeys (number : Nat) (message : String) : (warn g number message).Obeys k n :=
  h.complain_obeys _ _ _

/-- A look at the flag tells what the flag is, and is a step if the flag is clear. -/
theorem stopRequested_meets (st : Station ω) :
    (stopRequested g st).Meets
      (fun stopped t => k.done st t ∧ t.stopped = stopped ∧ (stopped = false → k.ahead st t))
      (k.crashed st) (k.tired n st) := by
  have hask := h.routine_obeys (r := .checkpoint) (n := n) rfl st
  simp only [stopRequested]
  obtain ⟨reply, -, hr⟩ | ⟨crash, -, hr⟩ := ask_cases g .checkpoint st
  · rw [bind_done hr]
    rw [hr] at hask
    exact ⟨hask, rfl, h.look st⟩
  · rw [bind_crashed hr]
    rw [hr] at hask
    exact hask

/-- Behind a look that finds the flag clear, a computation may count on that and has made a step. -/
theorem unless_stopped {m : Nat} {a : α} {x : Exec (Station ω) α} (hmn : n ≤ m + 1)
    (hx : x.ObeysFrom (fun st => st.stopped = false) k m) :
    (do if ← stopRequested g then return a else x).Obeys k n := by
  rw [obeys_iff_obeysFrom_true]
  refine ObeysFrom.bindAhead false (fun st _ => ?_) hmn hx (obeys_pure a)
  exact (h.stopRequested_meets st).imp
    (fun _ _ ht => ⟨ht.1, fun hb => ⟨ht.2.2 hb, ht.2.1.trans hb⟩⟩) fun _ hc => hc

omit h in
/-- A look keeps the flag clear. -/
theorem look_meets {r : Request} {st : Station ω} (hl : r.isLook)
    (hask : (TapScript.ask g r st).Meets (fun _ t => k.done st t) (k.crashed st) (k.tired n st)) :
    (TapScript.ask g r st).Meets (fun _ t => k.done st t ∧ (Clear g st → Clear g t)) (k.crashed st)
      (k.tired n st) := by
  obtain ⟨reply, -, hr⟩ | ⟨crash, -, hr⟩ := ask_cases g r st
  · rw [hr] at hask ⊢
    refine ⟨hask, fun hclear hg => ?_⟩
    rw [Station.stopped_answered hg hl]
    exact hclear hg
  · rw [hr] at hask ⊢
    exact hask

/-- A look keeps the contract and leaves the flag clear. -/
theorem look_keeps {r : Request} (hr : r.isRoutine) (hl : r.isLook) :
    (TapScript.ask g r).Obeys (k.keeping (Clear g)) n := fun st =>
  (look_meets hl (h.routine_obeys hr st)).imp (fun _ _ ht hclear => ⟨ht.1, ht.2 hclear⟩)
    (fun _ hc _ => hc) fun ht _ => ht

/-- A line is taken up where the flag is clear, and that is no moment of a stop. -/
theorem visit_meets {number : Nat} (hv : allowed (.visit number)) {st : Station ω}
    (hst : st.stopped = false) :
    (TapScript.ask g (.visit number) st).Meets (fun _ t => k.done st t ∧ Clear g t) (k.crashed st)
      (k.tired n st) :=
  (look_meets rfl (h.ask n _ hv rfl st hst)).imp (fun _ _ ht => ⟨ht.1, ht.2 fun _ => hst⟩)
    fun _ hc => hc

/-- Looking at the flag leaves it clear. -/
theorem stopRequested_keeps : (stopRequested g).Obeys (k.keeping (Clear g)) n :=
  (h.look_keeps rfl rfl).bind fun _ => obeys_gets _

/-! ## Waiting -/

/-- Reading the clock is routine. -/
theorem clock_obeys : (clock g).Obeys k n := h.routine_obeys rfl

/-- However many slices are slept, the contract is kept in each of them. -/
theorem sleepUntil_obeys (slice : Duration) (deadline fuel : Nat) :
    (sleepUntil g slice deadline fuel).Obeys k fuel := by
  induction fuel with
  | zero => exact fun st => h.rest st
  | succ fuel ih =>
    refine h.unless_stopped (Nat.le_refl _) (Obeys.obeysFrom (h.clock_obeys.bind fun now => ?_))
    split
    · exact obeys_pure _
    · exact (h.routine_obeys rfl).bind fun _ => ih

/-- Sleeping keeps the contract. -/
theorem sleep_obeys (fuel : Nat) (duration slice : Duration) :
    (sleep g fuel duration slice).Obeys k fuel := by
  refine h.clock_obeys.bind fun now => ?_
  split
  · exact h.raise_obeys _
  · exact h.sleepUntil_obeys _ _ _

/-- A timer is started by reading the clock. -/
theorem timer_start_obeys (budget interval : Duration) :
    (PollTimer.start g budget interval).Obeys k n :=
  h.clock_obeys.bind fun _ => obeys_pure _

/-- The time that has passed is read off the clock. -/
theorem timer_elapsed_obeys (timer : PollTimer) : (timer.elapsed g).Obeys k n :=
  h.clock_obeys.bind fun _ => obeys_pure _

/-- Waiting for the next sample is a step if there is to be one. -/
theorem timer_next_meets (fuel : Nat) (timer : PollTimer) (slice : Duration) (st : Station ω) :
    (timer.next g fuel slice st).Meets
      (fun more t => k.done st t ∧ (more = true → k.ahead st t ∧ True)) (k.crashed st)
      (k.tired fuel st) := by
  refine Outcome.Meets.bind ((h.stopRequested_meets st).imp (fun stopped t ht => ?_) fun _ hc => hc)
  cases stopped with
  | true => exact ⟨ht.1, nofun⟩
  | false =>
    -- the look at the start is the step, and the sleep behind it does not undo it
    have hahead := ht.2.2 rfl
    refine ((?_ : Exec.Obeys k fuel _) t).imp
      (fun _ _ hu => ⟨k.trans ht.1 hu, fun _ => ⟨hahead.behind hu, trivial⟩⟩)
      (fun _ hu => k.late ht.1 hu) (k.early ht.1)
    refine (h.timer_elapsed_obeys timer).bind fun elapsed => ?_
    split
    · exact obeys_pure _
    · refine (h.timer_elapsed_obeys timer).bind fun spent => ?_
      refine (h.sleep_obeys _ _ _).bind fun slept => ?_
      split
      · exact h.stopRequested_obeys.bind fun _ => obeys_pure _
      · exact obeys_pure _

/-- What goes on only if there is to be another sample is allowed one step less. -/
theorem while_next {m fuel : Nat} {timer : PollTimer} {slice : Duration} {x y : Exec (Station ω) α}
    (hf : n ≤ fuel) (hmn : n ≤ m + 1) (hx : x.Obeys k m) (hy : y.Obeys k n) :
    (do if ← timer.next g fuel slice then x else y).Obeys k n := by
  rw [obeys_iff_obeysFrom_true]
  refine ObeysFrom.bindAhead (R := fun _ => True) true (fun st _ => ?_) hmn hx.obeysFrom hy
  exact (h.timer_next_meets fuel timer slice st).imp (fun _ _ ht => ht)
    (fun _ hc => hc) (k.fewer hf)

/-! ## Reading the screen -/

/-- A look that may come before the recognizer is asked keeps the contract. -/
theorem glance_obeys (watched : Bool) : (Recognizer.glance g watched).Obeys k n := by
  cases watched with
  | false => exact obeys_pure _
  | true =>
    refine (h.rollDice_obeys 0 1).bind fun first => ?_
    split
    · exact obeys_pure _
    · exact h.stopRequested_obeys.bind fun _ => obeys_pure _

/-- Recognizing a text keeps the contract. -/
theorem recognize_obeys (hr : ∀ r : Request, r.isReading → allowed r) (bound : Duration)
    (interval : Option Duration) (image : Screenshot) :
    (Recognizer.recognize? g bound interval image).Obeys k n := by
  refine (h.glance_obeys _).bind fun first => ?_
  split
  · exact obeys_pure _
  · exact h.consult _ hr _ _ _ _

/-- A sample of the text on the screen keeps the contract, if the screen may be read. -/
theorem sampleText_obeys (hr : ∀ r : Request, r.isReading → allowed r) (config : Config)
    (line : Nat) : (sampleText g config line).Obeys k n := by
  refine (h.ask_obeys (hr _ rfl) rfl).bind fun reply => ?_
  cases reply with
  | error fault => exact (h.fail_obeys _ _).bind fun _ => obeys_pure _
  | ok image =>
    refine (h.recognize_obeys hr _ _ _).bind fun recognized => ?_
    cases recognized with
    | none => exact obeys_pure _
    | some result =>
      cases result with
      | ok blocks => exact obeys_pure _
      | error fault =>
        refine (h.fail_obeys _ _).bind fun _ => ?_
        split <;> exact obeys_pure _

/-- Watching for a text keeps the contract in each of its samples. -/
theorem watchText_obeys (hr : ∀ r : Request, r.isReading → allowed r) (config : Config) {fuel : Nat}
    (line : Nat) (check : List TextBlock → Except String (Option α)) (timer : PollTimer)
    {samples : Nat} (hs : samples ≤ fuel) :
    (watchText g config fuel line check timer samples).Obeys k samples := by
  induction samples with
  | zero => exact fun st => h.rest st
  | succ samples ih =>
    have again : (do if ← timer.next g fuel config.slice then
        watchText g config fuel line check timer samples else return none).Obeys k (samples + 1) :=
      h.while_next hs (Nat.le_refl _) (ih (Nat.le_of_succ_le hs)) (obeys_pure _)
    refine (h.sampleText_obeys hr _ _).bind fun sample => ?_
    cases sample with
    | abort => exact obeys_pure _
    | retry => exact again
    | text blocks =>
      refine (h.orPanic_obeys (check blocks)).bind fun found => ?_
      cases found with
      | some found => exact obeys_pure _
      | none => exact again

/-- A poll for a text keeps the contract. -/
theorem pollText_obeys (hr : ∀ r : Request, r.isReading → allowed r) (config : Config)
    (fuel line : Nat) (timeout : Duration) (check : List TextBlock → Except String (Option α)) :
    (pollText g config fuel line timeout check).Obeys k fuel :=
  (h.timer_start_obeys _ _).bind fun _ => h.watchText_obeys hr _ _ _ _ (Nat.le_refl _)

/-- Watching for a color keeps the contract in each of its samples. -/
theorem watchColor_obeys (config : Config) {fuel : Nat} (line : Nat) {p : Point}
    (hp : allowed (.pixel p)) (color : Color) (timer : PollTimer) {samples : Nat}
    (hs : samples ≤ fuel) :
    (watchColor g config fuel line p color timer samples).Obeys k samples := by
  induction samples with
  | zero => exact fun st => h.rest st
  | succ samples ih =>
    refine (h.ask_obeys hp rfl).bind fun reply => ?_
    cases reply with
    | error fault => exact (h.fail_obeys _ _).bind fun _ => obeys_pure _
    | ok actual =>
      dsimp only
      split
      · exact obeys_pure _
      · exact h.while_next hs (Nat.le_refl _) (ih (Nat.le_of_succ_le hs)) (obeys_pure _)

/-- Waiting for a color keeps the contract, if the point may be looked at. -/
theorem waitForColor_obeys (config : Config) (fuel line : Nat) {p : Point} (hp : allowed (.pixel p))
    (color : Color) (timeout : Duration) :
    (waitForColor g config fuel line p color timeout).Obeys k fuel :=
  (h.timer_start_obeys _ _).bind fun _ => h.watchColor_obeys _ _ hp _ _ (Nat.le_refl _)

/-! ## Commands -/

/-- Each click of a `tap` comes right behind a look at the flag, so a `tap` may start anywhere. -/
theorem clicks_obeys (config : Config) (fuel : Nat) {p : Point} (hp : allowed (.act (.click p)))
    (delay : Duration) (remaining done : Nat) :
    (clicks g config fuel p delay remaining done).Obeys k fuel := by
  induction remaining generalizing done with
  | zero => exact obeys_pure _
  | succ remaining ih =>
    refine h.unless_stopped (Nat.le_succ _) ?_
    refine ObeysFrom.bind (R := fun _ _ => True) (fun st hst => ?_) fun reply => ?_
    · exact (h.ask fuel _ hp rfl st fun _ => hst).imp (fun _ _ ht => ⟨ht, trivial⟩) fun _ hc => hc
    · refine Obeys.obeysFrom ?_
      cases reply with
      | error fault => exact obeys_pure _
      | ok _ =>
        dsimp only
        split
        · exact obeys_pure _
        · refine (h.sleep_obeys _ _ _).bind fun slept => ?_
          split
          · exact ih _
          · exact obeys_pure _

/-- Counting keeps the contract, if the variable may be loaded and stored. -/
theorem stepVar_obeys (builtin : Builtin) {name : String} (hl : allowed (.load name))
    (hs : ∀ value, allowed (.store name value)) (step : Int) :
    (stepVar g builtin name step).Obeys k n := by
  refine (h.ask_obeys hl rfl).bind fun stored => ?_
  dsimp only
  split
  · exact obeys_pure _
  · refine (h.ask_obeys (hs _) rfl).bind fun _ => ?_
    exact (h.record_obeys _ _ _).bind fun _ => obeys_pure _

/-- A command keeps the contract if the requests are allowed that it may make. Only one that is a
single action counts on a clear flag. -/
theorem perform_obeysFrom (config : Config) (fuel line : Nat) {c : Command}
    (hc : ∀ r, c.MayAsk r → allowed r) :
    (c.perform g config fuel line).ObeysFrom (fun st => c.isAction → Clear g st) k fuel := by
  cases c with
  -- a single action is asked for at once, so it counts on the flag that it finds
  | act a =>
    refine ObeysFrom.bind (R := fun _ _ => True) (fun st hst => ?_) fun reply => ?_
    · exact (h.ask fuel _ (hc _ rfl) rfl st (hst rfl)).imp (fun _ _ ht => ⟨ht, trivial⟩)
        fun _ he => he
    · refine Obeys.obeysFrom ?_
      cases reply with
      | error fault => exact obeys_pure _
      | ok _ => exact (h.log_obeys _).bind fun _ => obeys_pure _
  -- before each of its clicks a tap looks at the flag itself, and no other command acts
  | tap p count delay =>
    refine Obeys.obeysFrom ((h.clicks_obeys _ _ (hc _ rfl) _ _ _).bind fun result => ?_)
    cases result with
    | error fault => exact obeys_pure _
    | ok done => exact (h.log_obeys _).bind fun _ => obeys_pure _
  | sleep duration =>
    refine Obeys.obeysFrom ((h.sleep_obeys _ _ _).bind fun slept => ?_)
    dsimp only
    split
    · exact (h.record_obeys _ _ _).bind fun _ => obeys_pure _
    · exact obeys_pure _
  | log text => exact Obeys.obeysFrom ((h.log_obeys _).bind fun _ => obeys_pure _)
  | setVar name value =>
    refine Obeys.obeysFrom ((h.ask_obeys (hc _ rfl) rfl).bind fun _ => ?_)
    exact (h.log_obeys _).bind fun _ => obeys_pure _
  | getVar name =>
    exact Obeys.obeysFrom ((h.ask_obeys (hc _ rfl) rfl).bind fun _ => obeys_pure _)
  | stepVar builtin name step =>
    refine Obeys.obeysFrom
      ((h.stepVar_obeys _ (hc _ (.inl rfl)) (fun value => hc _ (.inr ⟨value, rfl⟩)) _).bind
        fun result => ?_)
    cases result <;> exact obeys_pure _
  | random lo hi => exact Obeys.obeysFrom ((h.rollDice_obeys _ _).bind fun _ => obeys_pure _)
  | getColor p =>
    refine Obeys.obeysFrom ((h.ask_obeys (hc _ rfl) rfl).bind fun reply => ?_)
    cases reply with
    | ok color => exact obeys_pure _
    | error fault => exact (h.fail_obeys _ _).bind fun _ => obeys_pure _
  | compareColor p color tolerance =>
    refine Obeys.obeysFrom ((h.ask_obeys (hc _ rfl) rfl).bind fun reply => ?_)
    cases reply with
    | ok actual => exact obeys_pure _
    | error fault => exact (h.fail_obeys _ _).bind fun _ => obeys_pure _
  | waitForColor p color timeout =>
    refine Obeys.obeysFrom ((h.waitForColor_obeys _ _ _ (hc _ rfl) _ _).bind fun found => ?_)
    exact (h.log_obeys _).bind fun _ => obeys_pure _
  | waitForText area text timeout =>
    refine Obeys.obeysFrom ((h.pollText_obeys (fun r hr => hc r hr) _ _ _ _ _).bind fun found => ?_)
    exact (h.log_obeys _).bind fun _ => obeys_pure _
  | getText area =>
    refine Obeys.obeysFrom ((h.sampleText_obeys (fun r hr => hc r hr) _ _).bind fun sample => ?_)
    cases sample with
    | text blocks => exact (h.orPanic_obeys _).bind fun _ => obeys_pure _
    | retry => exact obeys_pure _
    | abort => exact obeys_pure _
  | findText text timeout =>
    refine Obeys.obeysFrom ((h.pollText_obeys (fun r hr => hc r hr) _ _ _ _ _).bind fun found => ?_)
    exact (h.log_obeys _).bind fun _ => obeys_pure _
  | findImage path threshold =>
    refine Obeys.obeysFrom ((h.ask_obeys (hc _ rfl) rfl).bind fun reply => ?_)
    cases reply with
    | ok found => exact (h.log_obeys _).bind fun _ => obeys_pure _
    | error fault => exact (h.fail_obeys _ _).bind fun _ => obeys_pure _

/-! ## Queries inside texts -/

/-- Reading the variables and the dice keeps the contract. -/
theorem reading_obeys (frame : Frame) (read : Environment → Dice → α × Dice) :
    (Query.reading g frame read).Obeys k n :=
  h.stopRequested_obeys.bind fun _ => fun st => h.dice st _

/-- Reading texts keeps the flag clear. -/
theorem reading_keeps (frame : Frame) (read : Environment → Dice → α × Dice) :
    (Query.reading g frame read).Obeys (k.keeping (Clear g)) n :=
  h.stopRequested_keeps.bind fun _ => fun st hst => ⟨h.dice st _, hst⟩

/-- Reading the arguments of a command keeps the contract. -/
theorem command_obeys (config : Config) (frame : Frame) (b : Builtin) (args : Text) :
    (Query.command g config frame b args).Obeys k n :=
  h.reading_obeys _ _

/-- Reporting a mishap keeps the contract. -/
theorem report_obeys (line : Nat) (m : Mishap) : (Query.report g line m).Obeys k n := by
  unfold Query.report
  split
  · exact h.warn_obeys _ _
  · exact h.fail_obeys _ _

variable {config : Config}
variable (hq : ∀ (b : Builtin) (c : Command), b.isQuery → b.Issues config c →
  ∀ r, c.MayAsk r → allowed r)

include hq

/-- The queries inside a text keep the contract if the requests are allowed that they may make. They
never count on a clear flag, so a text may be expanded anywhere. -/
theorem expandUpTo_obeys (fuel line : Nat) (frame : Frame) (rounds : Nat) (t : Text) :
    (Query.expandUpTo g config fuel line frame rounds t).Obeys k fuel := by
  induction rounds generalizing t with
  | zero => exact obeys_pure _
  | succ rounds ih =>
    unfold Query.expandUpTo
    cases hlast : Query.last? t with
    | none => exact obeys_pure _
    | some q =>
      have hquery := Query.isQuery_of_last? hlast
      refine (h.command_obeys _ _ _ _).bindReturns (Query.command_returns g _ _ _ _)
        fun result hr => ?_
      cases result with
      | error mishap => exact obeys_pure _
      | ok c =>
        -- a query is no action, so it need not find the flag clear
        have hissues := hr c rfl
        have hperform : (c.perform g config fuel line).Obeys k fuel := fun st =>
          h.perform_obeysFrom config fuel line (hq _ c hquery hissues) st fun ha =>
            absurd ha (by simp [hissues.isAction_eq_false hquery])
        refine hperform.bind fun value => ?_
        cases value with
        | error mishap => exact obeys_pure _
        | ok v => exact ih _

/-- Putting the values in the place of the calls keeps the contract, if the queries do. -/
theorem expand_obeys (fuel line : Nat) (frame : Frame) (t : Text) :
    (Query.expand g config fuel line frame t).Obeys k fuel :=
  h.expandUpTo_obeys hq _ _ _ _ _

/-- Testing a condition keeps the contract, if the queries in it do. -/
theorem test_obeys (fuel line : Nat) (frame : Frame) (condition : Text) :
    (Query.test g config fuel line frame condition).Obeys k fuel := by
  refine (h.expand_obeys hq _ _ _ _).bind fun expanded => ?_
  cases expanded with
  | error mishap => exact (h.report_obeys _ _).bind fun _ => obeys_pure _
  | ok t => exact h.reading_obeys _ _

end Conduct

end TapScript
