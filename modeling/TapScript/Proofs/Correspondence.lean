import TapScript.Proofs.Conduct

/-! # Stations that correspond

Two computations are compared step by step, perhaps at different gateways, from states that
correspond. They are **alike** if both end with the same value at states that correspond again, or
both in the same crash, or both run out of steps. What the two states have to do with each other is
left open: that they differ in something that nobody looks at, or that they are one and the same
state with a property.

* `Exec.Alike` compares two computations and composes along `>>=`; `Exec.Keeps` is the case of a
  computation that is compared with itself.
* `Attuned` says that the moves at two stations are alike, as long as only `allowed` requests are
  made, and carries this to the commands that do nothing to the device and to the queries inside
  texts.
* `Counterparts` adds the commands that act, each as one move, so that a correspondence may be
  restored only behind the last request of such a command. -/

namespace TapScript

variable {σ τ α β : Type}

/-! ## Computations -/

/-- Two computations have ended alike: at states with `A`, or with `C` if they have crashed. -/
inductive Outcome.Alike (A : σ → τ → Prop) (C : Crash → σ → τ → Prop) :
    Outcome σ α → Outcome τ α → Prop
  | done {a : α} {s : σ} {t : τ} (h : A s t) : Alike A C (.done a s) (.done a t)
  | crashed {c : Crash} {s : σ} {t : τ} (h : C c s t) : Alike A C (.crashed c s) (.crashed c t)
  | exhausted : Alike A C .exhausted .exhausted

/-- Started at states with `A`, the two computations end alike. -/
def Exec.Alike (A : σ → τ → Prop) (C : Crash → σ → τ → Prop) (x : Exec σ α) (y : Exec τ α) : Prop :=
  ∀ s t, A s t → (x s).Alike A C (y t)

section Alike

variable {A : σ → τ → Prop} {C : Crash → σ → τ → Prop}

/-- Two sequences end alike if their first parts do, and their second parts from wherever those
end. -/
theorem Outcome.Alike.bind {x : Exec σ α} {y : Exec τ α} {f : α → Exec σ β} {f' : α → Exec τ β}
    {s : σ} {t : τ} (h : (x s).Alike A C (y t)) (hf : ∀ a, (f a).Alike A C (f' a)) :
    ((x >>= f) s).Alike A C ((y >>= f') t) := by
  rw [Exec.bind_apply, Exec.bind_apply]
  -- the two first parts end in the same way, so three cases are left
  cases hx : x s <;> cases hy : y t <;> rw [hx, hy] at h <;> cases h
  case done.done.done a s t h => exact hf a s t h
  case crashed.crashed.crashed c s t h => exact .crashed h
  case exhausted.exhausted.exhausted => exact .exhausted

namespace Exec.Alike

/-- Values that are only returned are the same on both sides. -/
theorem pure (a : α) : Exec.Alike A C (Pure.pure a : Exec σ α) (Pure.pure a : Exec τ α) :=
  fun _ _ h => .done h

/-- Two computations that are cut off go alike. -/
theorem exhausted : Exec.Alike A C (Exec.exhausted : Exec σ α) (Exec.exhausted : Exec τ α) :=
  fun _ _ _ => .exhausted

/-- Sequences go alike if their parts do, whatever the first part returns. -/
theorem bind {x : Exec σ α} {y : Exec τ α} {f : α → Exec σ β} {f' : α → Exec τ β}
    (hx : Exec.Alike A C x y) (hf : ∀ a, Exec.Alike A C (f a) (f' a)) :
    Exec.Alike A C (x >>= f) (y >>= f') :=
  fun s t h => (hx s t h).bind hf

/-- Computations still go alike if the same is made of both results. -/
theorem map (h : α → β) {x : Exec σ α} {y : Exec τ α} (hx : Exec.Alike A C x y) :
    Exec.Alike A C (h <$> x) (h <$> y) := by
  rw [← bind_pure_comp, ← bind_pure_comp]
  exact hx.bind fun a => pure (h a)

/-- Both sides take the same branch of a condition that depends on neither state. -/
theorem ite {p : Prop} [Decidable p] {x x' : Exec σ α} {y y' : Exec τ α} (h : Exec.Alike A C x y)
    (h' : Exec.Alike A C x' y') : Exec.Alike A C (if p then x else x') (if p then y else y') := by
  split
  · exact h
  · exact h'

/-- What is read off two states that correspond has to be the same. -/
theorem gets {read : σ → α} {read' : τ → α} (h : ∀ s t, A s t → read s = read' t) :
    Exec.Alike A C (Exec.gets read) (Exec.gets read') := by
  intro s t hst
  simp only [Exec.gets, h s t hst]
  exact .done hst

/-- Changes have to lead from states that correspond to states that do. -/
theorem modify {change : σ → σ} {change' : τ → τ} (h : ∀ s t, A s t → A (change s) (change' t)) :
    Exec.Alike A C (Exec.modify change) (Exec.modify change') :=
  fun s t hst => .done (h s t hst)

/-- Behind first parts that return a value with a property, the second parts have to be alike for
such values only. -/
theorem bindReturns {R : α → Prop} {x : Exec σ α} {y : Exec τ α} {f : α → Exec σ β}
    {f' : α → Exec τ β} (hx : Exec.Alike A C x y) (hr : x.Returns R)
    (hf : ∀ a, R a → Exec.Alike A C (f a) (f' a)) : Exec.Alike A C (x >>= f) (y >>= f') := by
  intro s t hst
  have hends := hx s t hst
  have hreturns := hr s
  rw [Exec.bind_apply, Exec.bind_apply]
  cases hs : x s <;> cases ht : y t <;> rw [hs, ht] at hends <;> cases hends
  case done.done.done a s t h =>
    rw [hs] at hreturns
    exact hf a hreturns s t h
  case crashed.crashed.crashed c s t h => exact .crashed h
  case exhausted.exhausted.exhausted => exact .exhausted

end Exec.Alike

end Alike

/-- The two states are one and the same, and it has `I`. -/
def Held (I : σ → Prop) (s t : σ) : Prop := s = t ∧ I s

/-- What the end of a computation has to meet: `Q` if it ends with a value, and `E` if it ends in a
crash, which is seen. That it runs out of steps is possible only if `X`, and if nothing is said
about that, always. -/
def Outcome.Ends (Q : α → σ → Prop) (E : Crash → σ → Prop) (o : Outcome σ α) (X : Prop := True) :
    Prop :=
  match o with
  | .done a s => Q a s
  | .crashed c s => E c s
  | .exhausted => X

/-- If the crash is not looked at, there is nothing new. -/
theorem Outcome.ends_iff_meets {Q : α → σ → Prop} {E : σ → Prop} {X : Prop} {o : Outcome σ α} :
    o.Ends Q (fun _ => E) X ↔ o.Meets Q E X := by
  cases o <;> rfl

/-- Weaker conditions are met too. -/
theorem Outcome.Ends.imp {Q Q' : α → σ → Prop} {E E' : Crash → σ → Prop} {X X' : Prop}
    {o : Outcome σ α} (h : o.Ends Q E X) (hQ : ∀ a s, Q a s → Q' a s) (hE : ∀ c s, E c s → E' c s)
    (hX : X → X' := by exact id) : o.Ends Q' E' X' := by
  cases o with
  | done a s => exact hQ a s h
  | crashed c s => exact hE c s h
  | exhausted => exact hX h

/-- A sequence ends as it has to if its second part does from wherever the first part ends. -/
theorem Outcome.Ends.bind {x : Exec σ α} {f : α → Exec σ β} {Q : β → σ → Prop}
    {E : Crash → σ → Prop} {X : Prop} {s : σ} (h : (x s).Ends (fun a t => (f a t).Ends Q E X) E X) :
    ((x >>= f) s).Ends Q E X := by
  rw [Exec.bind_apply]
  cases hx : x s with
  | done a t => rwa [hx] at h
  | crashed c t => rwa [hx] at h
  | exhausted => rwa [hx] at h

/-- From a state with `I` the computation ends at a state with `I`, or in a crash `c` at a state
with `E c`. -/
def Exec.Keeps (I : σ → Prop) (E : Crash → σ → Prop) (x : Exec σ α) : Prop :=
  ∀ s, I s → (x s).Ends (fun _ => I) E

/-- To keep a property is to be alike with oneself. -/
theorem Exec.alike_held_iff {I : σ → Prop} {E : Crash → σ → Prop} {x : Exec σ α} :
    Exec.Alike (Held I) (fun c => Held (E c)) x x ↔ x.Keeps I E := by
  constructor
  · intro h s hs
    have hends := h s s ⟨rfl, hs⟩
    cases hx : x s <;> rw [hx] at hends <;> cases hends
    case done h => exact h.2
    case crashed h => exact h.2
    case exhausted => trivial
  · rintro h s t ⟨rfl, hs⟩
    have hends := h s hs
    cases hx : x s with
    | done a t =>
      rw [hx] at hends
      exact .done ⟨rfl, hends⟩
    | crashed c t =>
      rw [hx] at hends
      exact .crashed ⟨rfl, hends⟩
    | exhausted => exact .exhausted

/-! ## Waiting -/

/-- The requests of which a wait is made: looks at the flag and the clock, pauses, and the panic of
a wait whose deadline does not exist. -/
def Request.isWait : Request → Bool
  | checkpoint | clock | pause _ | panic _ => true
  | _ => false

/-- All waiting is routine. -/
theorem Request.isRoutine_of_isWait {r : Request} (h : r.isWait) : r.isRoutine = true := by
  cases r with
  | checkpoint => rfl
  | clock => rfl
  | pause duration => rfl
  | panic message => rfl
  | _ => cases h

variable {ω ω' : Type}

section Wait

open Exec

variable {g : Gateway ω} {g' : Gateway ω'} {A : Station ω → Station ω' → Prop}
  {C : Crash → Station ω → Station ω' → Prop} (hstopped : ∀ {s t}, A s t → s.stopped = t.stopped)
  (hwait : ∀ r : Request, r.isWait → Alike A C (ask g r) (ask g' r))

include hstopped hwait

/-- Both sides find the stop flag alike, if only waiting is answered alike. -/
theorem stopRequested_alike : Alike A C (stopRequested g) (stopRequested g') :=
  (hwait _ rfl).bind fun _ => .gets fun _ _ => hstopped

omit hstopped in
/-- A panic is alike with itself. -/
theorem raise_alike (message : String) :
    Alike A C (raise g message : Exec (Station ω) α) (raise g' message) :=
  (hwait (.panic message) rfl).bind fun never => never.elim

/-- Both sides sleep alike: the same slices, and to the same end. -/
theorem sleep_alike (fuel : Nat) (duration slice : Duration) :
    Alike A C (sleep g fuel duration slice) (sleep g' fuel duration slice) := by
  have clock_alike : Alike A C (clock g) (clock g') := hwait .clock rfl
  have until_alike : ∀ deadline,
      Alike A C (sleepUntil g slice deadline fuel) (sleepUntil g' slice deadline fuel) := by
    intro deadline
    induction fuel with
    | zero => exact .exhausted
    | succ fuel ih =>
      refine (stopRequested_alike hstopped hwait).bind fun stopped => .ite (.pure _) ?_
      refine clock_alike.bind fun now => .ite (.pure _) ?_
      exact (hwait (.pause _) rfl).bind fun _ => ih
  exact clock_alike.bind fun _ => .ite (raise_alike hwait _) (until_alike _)

/-- The clicks of a `tap`, by induction on how many are left. -/
theorem clicks_alike {p : Point}
    (hact : Alike A C (ask g (.act (.click p))) (ask g' (.act (.click p)))) (config : Config)
    (fuel : Nat) (delay : Duration) (remaining done : Nat) :
    Alike A C (clicks g config fuel p delay remaining done)
      (clicks g' config fuel p delay remaining done) := by
  induction remaining generalizing done with
  | zero => exact .pure _
  | succ remaining ih =>
    refine (stopRequested_alike hstopped hwait).bind fun stopped => .ite (.pure _) ?_
    refine hact.bind fun reply => ?_
    cases reply with
    | error fault => exact .pure _
    | ok _ =>
      refine .ite (.pure _) ?_
      exact (sleep_alike hstopped hwait _ _ _).bind fun slept => .ite (ih _) (.pure _)

end Wait

/-! ## Moves at the station -/

/-- The moves at two stations are alike, as long as only allowed requests are made. Consulting the
recognizer is one move, with all that is asked of it. -/
structure Attuned (g : Gateway ω) (g' : Gateway ω') (allowed : Request → Prop)
    (A : Station ω → Station ω' → Prop) (C : Crash → Station ω → Station ω' → Prop) : Prop where
  stopped : ∀ {s t}, A s t → s.stopped = t.stopped
  dice : ∀ {s t}, A s t → s.dice = t.dice
  note : ∀ {s t}, A s t → ∀ r, A (s.note r) (t.note r)
  roll : ∀ {s t}, A s t → ∀ d, A { s with dice := d } { t with dice := d }
  routine : ∀ r : Request, r.isRoutine → allowed r
  ask : ∀ r, allowed r → r.isSession = false → Exec.Alike A C (ask g r) (ask g' r)
  consult : (∀ r : Request, r.isReading → allowed r) → ∀ bound interval looked image,
    Exec.Alike A C (Recognizer.consult g bound interval looked image)
      (Recognizer.consult g' bound interval looked image)

namespace Attuned

open Exec

variable {g : Gateway ω} {g' : Gateway ω'} {allowed : Request → Prop}
  {A : Station ω → Station ω' → Prop} {C : Crash → Station ω → Station ω' → Prop}
  (h : Attuned g g' allowed A C)

include h

/-- Routine requests are answered alike. -/
theorem routine_alike {r : Request} (hr : r.isRoutine) :
    Alike A C (TapScript.ask g r) (TapScript.ask g' r) :=
  h.ask r (h.routine r hr) (Request.isSession_eq_false_of_isRoutine hr)

/-- Both sides take down the same notice. -/
theorem record_alike (level : Level) (message : String) (fields : List (String × String)) :
    Alike A C (record level message fields) (record level message fields) :=
  .modify fun _ _ hst => h.note hst _

/-- Both sides find the stop flag alike. -/
theorem stopRequested_alike : Alike A C (stopRequested g) (stopRequested g') :=
  TapScript.stopRequested_alike h.stopped fun _ hr =>
    h.routine_alike (Request.isRoutine_of_isWait hr)

/-- A computation that may panic is alike with itself. -/
theorem orPanic_alike (x : Except String α) : Alike A C (orPanic g x) (orPanic g' x) := by
  cases x with
  | ok a => exact .pure a
  | error message =>
    exact raise_alike (fun _ hr => h.routine_alike (Request.isRoutine_of_isWait hr)) message

/-- Both sides roll the same dice. -/
theorem rollDice_alike (lo hi : Int) : Alike A C (rollDice lo hi) (rollDice lo hi) := by
  intro s t hst
  simp only [rollDice, h.dice hst]
  exact .done (h.roll hst _)

/-- Both sides write the same line to the log. -/
theorem log_alike (line : String) : Alike A C (log g line) (log g' line) :=
  (h.record_alike _ _ _).bind fun _ => h.routine_alike rfl

/-- Both sides tell the same of a line, in a notice and in the log. -/
theorem complain_alike (level : Level) (number : Nat) (message : String) :
    Alike A C (complain g level number message) (complain g' level number message) :=
  (h.record_alike _ _ _).bind fun _ => h.routine_alike rfl

/-- Both sides fail with the same message. -/
theorem fail_alike (number : Nat) (message : String) :
    Alike A C (fail g number message) (fail g' number message) :=
  h.complain_alike _ _ _

/-- Both sides warn with the same message. -/
theorem warn_alike (number : Nat) (message : String) :
    Alike A C (warn g number message) (warn g' number message) :=
  h.complain_alike _ _ _

/-! ### Waiting for a sample -/

/-- Both sides sleep alike, since all that sleeping asks for is routine. -/
theorem sleep_alike (fuel : Nat) (duration slice : Duration) :
    Alike A C (sleep g fuel duration slice) (sleep g' fuel duration slice) :=
  TapScript.sleep_alike h.stopped (fun _ hr => h.routine_alike (Request.isRoutine_of_isWait hr))
    fuel duration slice

/-- Both sides start a timer at the same time. -/
theorem timer_start_alike (budget interval : Duration) :
    Alike A C (PollTimer.start g budget interval) (PollTimer.start g' budget interval) :=
  (h.routine_alike (r := .clock) rfl).bind fun _ => .pure _

/-- Both sides find that the same time has passed. -/
theorem timer_elapsed_alike (timer : PollTimer) : Alike A C (timer.elapsed g) (timer.elapsed g') :=
  (h.routine_alike (r := .clock) rfl).bind fun _ => .pure _

/-- Both sides decide alike whether there is time for another sample. -/
theorem timer_next_alike (fuel : Nat) (timer : PollTimer) (slice : Duration) :
    Alike A C (timer.next g fuel slice) (timer.next g' fuel slice) := by
  refine h.stopRequested_alike.bind fun stopped => .ite (.pure _) ?_
  refine (h.timer_elapsed_alike timer).bind fun elapsed => .ite (.pure _) ?_
  refine (h.timer_elapsed_alike timer).bind fun spent => ?_
  refine (h.sleep_alike _ _ _).bind fun slept => .ite ?_ (.pure _)
  exact h.stopRequested_alike.bind fun _ => .pure _

/-! ### Reading the screen -/

/-- Recognizing a text is alike: the look that may come first, and consulting the recognizer. -/
theorem recognize_alike (hr : ∀ r : Request, r.isReading → allowed r) (bound : Duration)
    (interval : Option Duration) (image : Screenshot) :
    Alike A C (Recognizer.recognize? g bound interval image)
      (Recognizer.recognize? g' bound interval image) := by
  have glance_alike : Alike A C (Recognizer.glance g interval.isSome)
      (Recognizer.glance g' interval.isSome) := by
    refine .ite (.pure _) ((h.rollDice_alike 0 1).bind fun first => .ite (.pure _) ?_)
    exact h.stopRequested_alike.bind fun _ => .pure _
  exact glance_alike.bind fun first => .ite (.pure _) (h.consult hr _ _ _ _)

/-- Both sides see the same text, if they may read the screen. -/
theorem sampleText_alike (hr : ∀ r : Request, r.isReading → allowed r) (config : Config)
    (line : Nat) : Alike A C (sampleText g config line) (sampleText g' config line) := by
  refine (h.ask _ (hr _ rfl) rfl).bind fun reply => ?_
  cases reply with
  | error fault => exact (h.fail_alike _ _).bind fun _ => .pure _
  | ok image =>
    refine (h.recognize_alike hr _ _ _).bind fun recognized => ?_
    cases recognized with
    | none => exact .pure _
    | some result =>
      cases result with
      | ok blocks => exact .pure _
      | error fault =>
        refine (h.fail_alike _ _).bind fun _ => ?_
        cases fault <;> exact .pure _

/-- Polls for a text take the same samples and find the same. -/
theorem pollText_alike (hr : ∀ r : Request, r.isReading → allowed r) (config : Config)
    (fuel line : Nat) (timeout : Duration) (check : List TextBlock → Except String (Option α)) :
    Alike A C (pollText g config fuel line timeout check)
      (pollText g' config fuel line timeout check) := by
  have watch : ∀ timer samples, Alike A C (watchText g config fuel line check timer samples)
      (watchText g' config fuel line check timer samples) := by
    intro timer samples
    induction samples with
    | zero => exact .exhausted
    | succ samples ih =>
      -- looking again is common to a sample without text and one in which nothing is found
      have again : Alike A C
          (do if ← timer.next g fuel config.slice then
                watchText g config fuel line check timer samples else return none)
          (do if ← timer.next g' fuel config.slice then
                watchText g' config fuel line check timer samples else return none) :=
        (h.timer_next_alike _ _ _).bind fun more => .ite ih (.pure _)
      refine (h.sampleText_alike hr _ _).bind fun sample => ?_
      cases sample with
      | abort => exact .pure _
      | retry => exact again
      | text blocks =>
        refine (h.orPanic_alike (check blocks)).bind fun found => ?_
        cases found with
        | some found => exact .pure _
        | none => exact again
  exact (h.timer_start_alike _ _).bind fun _ => watch _ _

/-- Both sides wait equally long for a color, if they may look at its point. -/
theorem waitForColor_alike (config : Config) (fuel line : Nat) {p : Point} (hp : allowed (.pixel p))
    (color : Color) (timeout : Duration) :
    Alike A C (waitForColor g config fuel line p color timeout)
      (waitForColor g' config fuel line p color timeout) := by
  have watch : ∀ timer samples, Alike A C (watchColor g config fuel line p color timer samples)
      (watchColor g' config fuel line p color timer samples) := by
    intro timer samples
    induction samples with
    | zero => exact .exhausted
    | succ samples ih =>
      refine (h.ask _ hp rfl).bind fun reply => ?_
      cases reply with
      | error fault => exact (h.fail_alike _ _).bind fun _ => .pure _
      | ok actual =>
        exact .ite (.pure _) ((h.timer_next_alike _ _ _).bind fun more => .ite ih (.pure _))
  exact (h.timer_start_alike _ _).bind fun _ => watch _ _

/-! ### Commands -/

/-- Both sides load and store the same number, if they may touch the variable. -/
theorem stepVar_alike (builtin : Builtin) {name : String} (hl : allowed (.load name))
    (hs : ∀ value, allowed (.store name value)) (step : Int) :
    Alike A C (stepVar g builtin name step) (stepVar g' builtin name step) := by
  refine (h.ask _ hl rfl).bind fun stored => .ite (.pure _) ?_
  refine (h.ask _ (hs _) rfl).bind fun _ => ?_
  exact (h.record_alike _ _ _).bind fun _ => .pure _

end Attuned

/-- Whether the command does something to the device. -/
def Command.acts : Command → Bool
  | act _ | tap .. => true
  | _ => false

/-- A command that asks for a value does not act on the device. -/
theorem Command.acts_eq_false_of_isQuery {c : Command} (h : c.isQuery) : c.acts = false := by
  cases c with
  | act a => cases h
  | tap p count delay => cases h
  | _ => rfl

namespace Attuned

open Exec

variable {g : Gateway ω} {g' : Gateway ω'} {allowed : Request → Prop}
  {A : Station ω → Station ω' → Prop} {C : Crash → Station ω → Station ω' → Prop}
  (h : Attuned g g' allowed A C)

include h

/-- A command that does nothing to the device, if the requests are allowed that it may make. -/
theorem perform_alike (config : Config) (fuel line : Nat) {c : Command} (hacts : c.acts = false)
    (hc : ∀ r, c.MayAsk r → allowed r) :
    Alike A C (c.perform g config fuel line) (c.perform g' config fuel line) := by
  cases c with
  -- the commands that act are left to `Counterparts`
  | act a => cases hacts
  | tap p count delay => cases hacts
  | sleep duration =>
    refine (h.sleep_alike _ _ _).bind fun slept => ?_
    exact .ite ((h.record_alike _ _ _).bind fun _ => .pure _) (.pure _)
  | log text => exact (h.log_alike _).bind fun _ => .pure _
  | setVar name value =>
    exact (h.ask _ (hc _ rfl) rfl).bind fun _ => (h.log_alike _).bind fun _ => .pure _
  | getVar name => exact (h.ask _ (hc _ rfl) rfl).bind fun _ => .pure _
  | stepVar builtin name step =>
    refine (h.stepVar_alike _ (hc _ (.inl rfl)) (fun value => hc _ (.inr ⟨value, rfl⟩)) _).bind
      fun result => ?_
    cases result <;> exact .pure _
  | random lo hi => exact (h.rollDice_alike _ _).bind fun _ => .pure _
  | getColor p =>
    refine (h.ask _ (hc _ rfl) rfl).bind fun reply => ?_
    cases reply with
    | ok color => exact .pure _
    | error fault => exact (h.fail_alike _ _).bind fun _ => .pure _
  | compareColor p color tolerance =>
    refine (h.ask _ (hc _ rfl) rfl).bind fun reply => ?_
    cases reply with
    | ok actual => exact .pure _
    | error fault => exact (h.fail_alike _ _).bind fun _ => .pure _
  | waitForColor p color timeout =>
    refine (h.waitForColor_alike _ _ _ (hc _ rfl) _ _).bind fun _ => ?_
    exact (h.log_alike _).bind fun _ => .pure _
  | waitForText area text timeout =>
    refine (h.pollText_alike (fun r hr => hc r hr) _ _ _ _ _).bind fun _ => ?_
    exact (h.log_alike _).bind fun _ => .pure _
  | getText area =>
    refine (h.sampleText_alike (fun r hr => hc r hr) _ _).bind fun sample => ?_
    cases sample with
    | text blocks => exact (h.orPanic_alike _).bind fun _ => .pure _
    | retry => exact .pure _
    | abort => exact .pure _
  | findText text timeout =>
    refine (h.pollText_alike (fun r hr => hc r hr) _ _ _ _ _).bind fun _ => ?_
    exact (h.log_alike _).bind fun _ => .pure _
  | findImage path threshold =>
    refine (h.ask _ (hc _ rfl) rfl).bind fun reply => ?_
    cases reply with
    | ok found => exact (h.log_alike _).bind fun _ => .pure _
    | error fault => exact (h.fail_alike _ _).bind fun _ => .pure _

/-- What is read off the variables and the dice is the same on both sides. -/
theorem reading_alike (frame : Frame) (read : Environment → Dice → α × Dice) :
    Alike A C (Query.reading g frame read) (Query.reading g' frame read) := by
  refine h.stopRequested_alike.bind fun stopped s t hst => ?_
  simp only [h.dice hst]
  exact .done (h.roll hst _)

/-- Both sides report a mishap of a query alike. -/
theorem report_alike (line : Nat) (m : Mishap) :
    Alike A C (Query.report g line m) (Query.report g' line m) :=
  .ite (h.warn_alike _ _) (h.fail_alike _ _)

/-! ### Queries inside texts -/

variable (hq : ∀ c : Command, c.isQuery → ∀ r, c.MayAsk r → allowed r)

include hq

/-- Both sides put the same values in the place of the calls in a text. -/
theorem expand_alike (config : Config) (fuel line : Nat) (frame : Frame) (t : Text) :
    Alike A C (Query.expand g config fuel line frame t)
      (Query.expand g' config fuel line frame t) := by
  have upTo : ∀ rounds t, Alike A C (Query.expandUpTo g config fuel line frame rounds t)
      (Query.expandUpTo g' config fuel line frame rounds t) := by
    intro rounds
    induction rounds with
    | zero => exact fun t => .pure _
    | succ rounds ih =>
      intro t
      unfold Query.expandUpTo
      cases hlast : Query.last? t with
      | none => exact .pure _
      | some q =>
        refine (h.reading_alike _ _).bindReturns (Query.command_returns g _ _ _ _)
          fun result hr => ?_
        cases result with
        | error mishap => exact .pure _
        | ok c =>
          -- what the call turns out to be is a query again, which acts on nothing
          have hquery := (hr c rfl).isQuery (Query.isQuery_of_last? hlast)
          have hacts := Command.acts_eq_false_of_isQuery hquery
          refine (h.perform_alike _ _ _ hacts (hq c hquery)).bind fun value => ?_
          cases value with
          | error mishap => exact .pure _
          | ok v => exact ih _
  exact upTo _ _

/-- Both sides find that a condition holds, or both that it does not. -/
theorem test_alike (config : Config) (fuel line : Nat) (frame : Frame) (condition : Text) :
    Alike A C (Query.test g config fuel line frame condition)
      (Query.test g' config fuel line frame condition) := by
  refine (h.expand_alike hq _ _ _ _ _).bind fun expanded => ?_
  cases expanded with
  | error mishap => exact (h.report_alike _ _).bind fun _ => .pure _
  | ok t => exact h.reading_alike _ _

end Attuned

/-! ## All moves -/

/-- Whether a script may make the request, actions apart: only the engine asks whether the device is
ready. -/
def Request.isInner : Request → Bool
  | act _ | ready => false
  | _ => true

/-- A command that does nothing to the device makes such requests only. -/
theorem Command.MayAsk.isInner {c : Command} (hacts : c.acts = false) {r : Request}
    (h : c.MayAsk r) : r.isInner = true := by
  cases r with
  | act a =>
    cases c with
    | act b => cases hacts
    | tap p count delay => cases hacts
    | _ => simp [MayAsk, Request.isReading] at h
  | ready => cases c <;> simp [MayAsk, Request.isReading] at h
  | _ => rfl

/-- A routine request neither acts nor asks whether the device is ready. -/
theorem Request.isInner_of_isRoutine {r : Request} (h : r.isRoutine) : r.isInner = true := by
  cases r with
  | act a => cases h
  | ready => cases h
  | _ => rfl

/-- Stations with `A` look the same to a run, and what a run does without a request keeps `A`. -/
structure Matching (A : Station ω → Station ω' → Prop) : Prop where
  stopped : ∀ {s t}, A s t → s.stopped = t.stopped
  recognizer : ∀ {s t}, A s t → s.recognizer = t.recognizer
  dice : ∀ {s t}, A s t → s.dice = t.dice
  note : ∀ {s t}, A s t → ∀ r, A (s.note r) (t.note r)
  roll : ∀ {s t}, A s t → ∀ d, A { s with dice := d } { t with dice := d }
  stop : ∀ {s t}, A s t → A { s with stopped := true } { t with stopped := true }
  hold : ∀ {s t}, A s t → ∀ r, A { s with recognizer := r } { t with recognizer := r }

/-- A property of the gateway's state is kept by what needs no request. -/
theorem Matching.held {I : Station ω → Prop}
    (hI : ∀ {s t : Station ω}, I s → s.state = t.state → I t) :
    Matching (Held I) where
  stopped := fun h => congrArg _ h.1
  recognizer := fun h => congrArg _ h.1
  dice := fun h => congrArg _ h.1
  note := fun h r => ⟨congrArg (Station.note · r) h.1, hI h.2 rfl⟩
  roll := fun h d => ⟨congrArg (fun s => { s with dice := d }) h.1, hI h.2 rfl⟩
  stop := fun h => ⟨congrArg (fun s => { s with stopped := true }) h.1, hI h.2 rfl⟩
  hold := fun h r => ⟨congrArg (fun s => { s with recognizer := r }) h.1, hI h.2 rfl⟩

/-- All moves at two stations are alike. Closing the recognizer is one move, and so is each command
that acts. -/
structure Counterparts (g : Gateway ω) (g' : Gateway ω') (A : Station ω → Station ω' → Prop)
    (C : Crash → Station ω → Station ω' → Prop) : Prop extends
    Attuned g g' (fun r => r.isInner) A C where
  stop : ∀ {s t}, A s t → A { s with stopped := true } { t with stopped := true }
  close : Exec.Alike A C (Recognizer.close g) (Recognizer.close g')
  act : ∀ config fuel line (c : Command), c.acts →
    Exec.Alike A C (c.perform g config fuel line) (c.perform g' config fuel line)

namespace Counterparts

open Exec

variable {g : Gateway ω} {g' : Gateway ω'} {A : Station ω → Station ω' → Prop}
  {C : Crash → Station ω → Station ω' → Prop}

section Matching

variable (m : Matching A) (hask : ∀ r : Request, r.isInner → Alike A C (ask g r) (ask g' r))

include m hask

/-- What is done with the recognizer is alike if the single steps of it are. -/
theorem of_moves (hact : ∀ config fuel line (c : Command), c.acts →
      Alike A C (c.perform g config fuel line) (c.perform g' config fuel line)) :
    Counterparts g g' A C := by
  have record_alike : ∀ level message fields,
      Alike A C (record level message fields) (record level message fields) :=
    fun _ _ _ => .modify fun _ _ hst => m.note hst _
  have session_alike : Alike A C (gets Station.recognizer) (gets Station.recognizer) :=
    .gets fun _ _ => m.recognizer
  have hold_alike : ∀ r, Alike A C (modify fun s => { s with recognizer := r })
      (modify fun t => { t with recognizer := r }) := fun r => .modify fun _ _ hst => m.hold hst r
  -- a recognizer is opened, consulted and closed by requests and changes of the station
  have opened_alike : Alike A C (Recognizer.opened g) (Recognizer.opened g') := by
    refine session_alike.bind fun session => ?_
    cases session with
    | some session => exact .pure _
    | none =>
      refine (record_alike _ _ _).bind fun _ => (hask _ rfl).bind fun reply => ?_
      cases reply with
      | error fault => exact .pure _
      | ok session => exact (hold_alike _).bind fun _ => .pure _
  have consult_alike : ∀ bound interval looked image,
      Alike A C (Recognizer.consult g bound interval looked image)
        (Recognizer.consult g' bound interval looked image) := by
    intro bound interval looked image
    refine opened_alike.bind fun opened => ?_
    cases opened with
    | error fault => exact .pure _
    | ok session =>
      have flag_alike : Alike A C (gets Station.stopped) (gets Station.stopped) :=
        .gets fun _ _ => m.stopped
      refine flag_alike.bind fun stopped => (hask _ rfl).bind fun recognition => ?_
      cases recognition with
      | answered blocks => exact .pure _
      | late => exact .pure _
      | dropped => exact (Alike.modify fun _ _ => m.stop).bind fun _ => .pure _
  have close_alike : Alike A C (Recognizer.close g) (Recognizer.close g') := by
    refine session_alike.bind fun session => ?_
    cases session with
    | none => exact .pure _
    | some session =>
      refine (record_alike _ _ _).bind fun _ => (hold_alike _).bind fun _ => ?_
      exact (hask _ rfl).bind fun _ => .pure _
  exact {
    stopped := m.stopped, dice := m.dice, note := m.note, roll := m.roll, stop := m.stop
    routine := fun _ hr => Request.isInner_of_isRoutine hr
    ask := fun r hr _ => hask r hr
    consult := fun _ => consult_alike
    close := close_alike
    act := hact }

/-- If the actions are alike too, then so are the commands that act. -/
theorem of_asks (hact : ∀ a, Alike A C (ask g (.act a)) (ask g' (.act a))) :
    Counterparts g g' A C := by
  have wait_alike : ∀ r : Request, r.isWait → Alike A C (ask g r) (ask g' r) := fun r hr =>
    hask r (Request.isInner_of_isRoutine (Request.isRoutine_of_isWait hr))
  have log_alike : ∀ line, Alike A C (log g line) (log g' line) := fun line =>
    (Alike.modify fun _ _ hst => m.note hst _).bind fun _ => hask _ rfl
  refine of_moves m hask fun config fuel line c hc => ?_
  cases c with
  | act a =>
    refine (hact a).bind fun reply => ?_
    cases reply with
    | error fault => exact .pure _
    | ok _ => exact (log_alike _).bind fun _ => .pure _
  | tap p count delay =>
    refine (clicks_alike m.stopped wait_alike (hact _) _ _ _ _ _).bind fun result => ?_
    cases result with
    | error fault => exact .pure _
    | ok done => exact (log_alike _).bind fun _ => .pure _
  | _ => cases hc

end Matching

variable (h : Counterparts g g' A C)

include h

/-- States that correspond still do when both flags are set. -/
theorem requestStop_alike : Alike A C requestStop requestStop := .modify fun _ _ => h.stop

/-- Both sides perform every command alike, those that act included. -/
theorem perform_alike (config : Config) (fuel line : Nat) (c : Command) :
    Alike A C (c.perform g config fuel line) (c.perform g' config fuel line) := by
  cases hc : c.acts with
  | true => exact h.act config fuel line c hc
  | false => exact h.toAttuned.perform_alike config fuel line hc fun r hr => hr.isInner hc

omit h in
/-- A query neither acts nor asks whether the device is ready. -/
theorem isInner_of_query (c : Command) (hc : c.isQuery) (r : Request) (hr : c.MayAsk r) :
    r.isInner :=
  hr.isInner (Command.acts_eq_false_of_isQuery hc)

end Counterparts

end TapScript
