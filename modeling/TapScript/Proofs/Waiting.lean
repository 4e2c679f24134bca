import TapScript.Gateway.Device
import TapScript.Proofs.Steps

/-! # Waits at a running clock

A wait ends because time passes. At a gateway whose clock never goes back, and goes on with every
look at the stop flag, each wait is over after as many looks as there is time to wait for, whatever
the slices are. So every command ends there.

* `Gateway.Runs` says that the clock of a gateway runs; `Device.gateway_runs` says so of the
  simulated device.
* `Gateway.Runs.sleep_settles` is about sleeping, `Gateway.Runs.again_settles` about sampling the
  screen again.
* `Gateway.Completes` says that all commands end at a gateway; by `Gateway.Runs.completes` they do
  where the clock runs. -/

namespace TapScript

open Exec

variable {ω α : Type}

/-- Every command that can be issued ends at whatever station it is carried out, if it is allowed
enough steps. -/
def Gateway.Completes (g : Gateway ω) (config : Config) : Prop :=
  ∀ (b : Builtin) (c : Command), b.Issues config c → ∀ line st, ∃ n,
    c.perform g config n line st ≠ .exhausted

/-- The clock runs: no answer turns back the time, a look at the stop flag takes time, and the clock
shows the time. -/
structure Gateway.Runs (g : Gateway ω) (time : ω → Nat) : Prop where
  onward : ∀ r stopped w, time w ≤ time (g.answer r stopped w).state
  look : ∀ stopped w, time w < time (g.answer .checkpoint stopped w).state
  shown : ∀ stopped w now, (g.answer .clock stopped w).outcome = .ok now → time w ≤ now

/-- The time at which the budget is spent. -/
def PollTimer.deadline (timer : PollTimer) : Nat := timer.started + timer.budget

/-! ## Looking at the screen once -/

section Stepless

variable (g : Gateway ω)

/-- Opening the recognizer takes no steps. -/
theorem Recognizer.opened_stepless : (opened g).Stepless := by
  refine (stepless_gets _).bind fun session => ?_
  cases session with
  | some session => exact stepless_pure _
  | none =>
    refine (stepless_modify _).bind fun _ => (ask_stepless g _).bind fun reply => ?_
    cases reply with
    | error fault => exact stepless_pure _
    | ok session => exact (stepless_modify _).bind fun _ => stepless_pure _

/-- Consulting the recognizer is one request, behind opening it. -/
theorem Recognizer.consult_stepless (bound : Duration) (interval : Option Duration) (looked : Bool)
    (image : Screenshot) : (consult g bound interval looked image).Stepless := by
  refine (opened_stepless g).bind fun session => ?_
  cases session with
  | error fault => exact stepless_pure _
  | ok session =>
    refine (stepless_gets _).bind fun stopped => (ask_stepless g _).bind fun recognition => ?_
    cases recognition with
    | answered blocks => exact stepless_pure _
    | late => exact stepless_pure _
    | dropped => exact (stepless_modify _).bind fun _ => stepless_pure _

/-- Neither the look that may come first nor the recognizer needs steps. -/
theorem Recognizer.recognize?_stepless (bound : Duration) (interval : Option Duration)
    (image : Screenshot) : (recognize? g bound interval image).Stepless := by
  have glance_stepless : (glance g interval.isSome).Stepless := by
    cases interval.isSome with
    | false => exact stepless_pure _
    | true =>
      refine Stepless.bind (x := rollDice 0 1) nofun fun first => ?_
      split
      · exact stepless_pure _
      · exact (stopRequested_stepless g).bind fun _ => stepless_pure _
  refine glance_stepless.bind fun first => ?_
  split
  · exact stepless_pure _
  · exact consult_stepless g _ _ _ _

/-- A sample of the text on the screen takes no steps. -/
theorem sampleText_stepless (config : Config) (line : Nat) :
    (sampleText g config line).Stepless := by
  refine (ask_stepless g _).bind fun reply => ?_
  cases reply with
  | error fault => exact (complain_stepless g _ _ _).bind fun _ => stepless_pure _
  | ok image =>
    refine (Recognizer.recognize?_stepless g _ _ image).bind fun recognized => ?_
    cases recognized with
    | none => exact stepless_pure _
    | some result =>
      cases result with
      | ok blocks => exact stepless_pure _
      | error fault =>
        refine (complain_stepless g _ _ _).bind fun _ => ?_
        cases fault <;> exact stepless_pure _

/-- Counting takes no steps. -/
theorem stepVar_stepless (b : Builtin) (name : String) (step : Int) :
    (stepVar g b name step).Stepless := by
  refine (ask_stepless g _).bind fun stored => ?_
  dsimp only
  split
  · exact stepless_pure _
  · exact (ask_stepless g _).bind fun _ => (stepless_modify _).bind fun _ => stepless_pure _

/-- A panic ends with no value. -/
theorem raise_meets (message : String) (s : Station ω) {Q : α → Station ω → Prop} :
    (raise g message s).Meets Q fun _ => True :=
  Outcome.Meets.bind ((returns_true (ask g (.panic message)) s).imp (fun never _ _ => never.elim)
    fun _ hc => hc)

/-- A computation that may panic changes nothing if it does not. -/
theorem orPanic_settles (x : Except String α) (s : Station ω) :
    Settles (fun _ => orPanic g x) (fun _ t => s = t) s := by
  cases x with
  | ok a => exact .pure rfl
  | error message => exact .of_stepless (raise_stepless g message) (raise_meets g message s)

end Stepless

/-- Time does not go back at the station. -/
def Contract.aging (time : ω → Nat) : Contract (Station ω) where
  done s t := time s.state ≤ time t.state
  crashed _ _ := True
  refl _ := Nat.le_refl _
  trans := Nat.le_trans
  late _ _ := trivial

/-- Where no answer turns back the time, what somebody else does meanwhile does not either. -/
theorem Station.time_answered {g : Gateway ω} {time : ω → Nat}
    (honward : ∀ r stopped w, time w ≤ time (g.answer r stopped w).state) (r : Request)
    (st : Station ω) :
    time (g.answer r st.stopped st.state).state ≤ time (st.answered g r).state := by
  have hrelease : ∀ t : Station ω, time t.state ≤ time (t.release g).state := by
    intro t
    unfold Station.release
    cases t.recognizer with
    | none => exact Nat.le_refl _
    | some session => exact honward _ _ _
  unfold Station.answered
  dsimp only
  cases (g.answer r st.stopped st.state).signal with
  | none => exact Nat.le_refl _
  | stop => exact Nat.le_refl _
  | close =>
    exact hrelease { st with state := (g.answer r st.stopped st.state).state, stopped := true }

namespace Gateway.Runs

variable {g : Gateway ω} {time : ω → Nat} (h : g.Runs time)

include h

/-! ## The time behind a request -/

/-- What is done with an answer does not turn the time back. -/
theorem received (r : Request) (st : Station ω) :
    time (g.answer r st.stopped st.state).state ≤ time (st.answered g r).state :=
  Station.time_answered h.onward r st

/-- A request does not turn the time back. -/
theorem answered (r : Request) (st : Station ω) : time st.state ≤ time (st.answered g r).state :=
  Nat.le_trans (h.onward r st.stopped st.state) (h.received r st)

/-- Behind a reply it is no earlier than before the request. -/
theorem ask_meets (r : Request) (st : Station ω) :
    (ask g r st).Meets (fun _ t => time st.state ≤ time t.state) fun _ => True := by
  obtain ⟨reply, -, hask⟩ | ⟨crash, -, hask⟩ := ask_cases g r st <;> rw [hask]
  · exact h.answered r st
  · trivial

/-- Whatever a command does, time does not go back. -/
theorem conduct : Conduct g (.aging time) fun _ => True :=
  .of_moves ⟨fun _ _ => Nat.le_refl _, fun _ _ => Nat.le_refl _, fun _ => Nat.le_refl _,
    fun _ _ => trivial, fun _ => trivial, fun _ _ _ _ => trivial⟩
    (fun _ r _ st _ => h.ask_meets r st) fun _ _ => Nat.le_refl _

/-- A request settles, and it is no earlier behind it. -/
theorem ask_settles (r : Request) (st : Station ω) :
    Settles (fun _ => ask g r) (fun _ t => time st.state ≤ time t.state) st :=
  .of_stepless (ask_stepless g r) (h.ask_meets r st)

/-- Looking at the flag settles, and takes time. -/
theorem look_settles (st : Station ω) :
    Settles (fun _ => stopRequested g) (fun _ t => time st.state < time t.state) st := by
  refine .of_stepless (stopRequested_stepless g) (Outcome.Meets.bind ?_)
  have hlook : time st.state < time (st.answered g .checkpoint).state :=
    Nat.lt_of_lt_of_le (h.look st.stopped st.state) (h.received _ st)
  obtain ⟨reply, -, hask⟩ | ⟨crash, -, hask⟩ := ask_cases g .checkpoint st <;> rw [hask]
  · exact hlook
  · trivial

/-- The clock shows the time at which it is asked, or a later one. -/
theorem clock_settles (st : Station ω) :
    Settles (fun _ => clock g)
      (fun now t => time st.state ≤ now ∧ time st.state ≤ time t.state) st := by
  refine .of_stepless (ask_stepless g .clock) ?_
  have hanswered := h.answered .clock st
  show (ask g .clock st).Meets _ _
  obtain ⟨now, hshown, hask⟩ | ⟨crash, -, hask⟩ := ask_cases g .clock st <;> rw [hask]
  · exact ⟨h.shown _ _ now hshown, hanswered⟩
  · trivial

/-! ## Sleeping -/

/-- Each turn begins with a look, so there is less time left behind it. The induction is on the time
that is left, and `k` steps have been made before. -/
theorem sleepUntil_settles (slice : Duration) (deadline k : Nat) (st : Station ω) :
    Settles (fun n => sleepUntil g slice deadline (n - k))
      (fun _ t => time st.state ≤ time t.state) st := by
  induction hleft : deadline - time st.state using Nat.strongRecOn generalizing k st with
  | ind left ih =>
    refine .step (fun _ => sleepUntil g slice deadline) k ?_
    refine (h.look_settles st).bind fun stopped t ht =>
      Settles.ite (fun _ => .pure (Nat.le_of_lt ht)) fun _ => ?_
    refine (h.clock_settles t).bind fun now u hu => ?_
    refine Settles.ite (fun _ => .pure (by omega)) fun hlate => ?_
    refine (h.ask_settles (.pause _) u).bind fun _ v hv => ?_
    exact (ih (deadline - time v.state) (by omega) (k + 1) v rfl).imp fun _ w hw => by omega

/-- A sleep settles: each slice takes time, and its deadline comes. -/
theorem sleep_settles (duration slice : Duration) (st : Station ω) :
    Settles (fun n => sleep g n duration slice) (fun _ t => time st.state ≤ time t.state) st := by
  refine (h.clock_settles st).bind fun now t ht => ?_
  refine Settles.ite (fun _ => .of_stepless (raise_stepless g _) (raise_meets g _ t)) fun _ => ?_
  exact (h.sleepUntil_settles slice (now + duration) 0 t).imp fun _ u hu => by omega

/-- Clicking settles, since the number of clicks is given. -/
theorem clicks_settles (config : Config) (p : Point) (delay : Duration) (remaining done : Nat)
    (st : Station ω) :
    Settles (fun n => clicks g config n p delay remaining done) (fun _ _ => True) st := by
  induction remaining generalizing done st with
  | zero => exact .pure trivial
  | succ remaining ih =>
    refine (h.look_settles st).bind fun stopped t _ => Settles.ite (fun _ => .pure trivial)
      fun _ => ?_
    refine (h.ask_settles (.act (.click p)) t).bind fun reply u _ => ?_
    cases reply with
    | error fault => exact .pure trivial
    | ok _ =>
      refine Settles.ite (fun _ => .pure trivial) fun _ => ?_
      refine (h.sleep_settles delay config.slice u).bind fun slept v _ => ?_
      exact Settles.ite (fun _ => ih _ v) fun _ => .pure trivial

/-! ## Sampling -/

/-- The time that has passed is no less than what the gateway's time says. -/
theorem timer_elapsed_settles (timer : PollTimer) (st : Station ω) :
    Settles (fun _ => timer.elapsed g)
      (fun spent t => time st.state - timer.started ≤ spent ∧ time st.state ≤ time t.state) st :=
  (h.clock_settles st).bind fun _ _ ht => .pure ⟨Nat.sub_le_sub_right ht.1 _, ht.2⟩

/-- There is another sample only if the budget was not spent before, and then time has passed. -/
theorem timer_next_settles (timer : PollTimer) (slice : Duration) (st : Station ω) :
    Settles (fun n => timer.next g n slice)
      (fun more t => more = true → time st.state < timer.deadline ∧ time st.state < time t.state)
      st := by
  refine (h.look_settles st).bind fun stopped t ht => Settles.ite (fun _ => .pure nofun) fun _ => ?_
  refine (h.timer_elapsed_settles timer t).bind fun spent u hu => Settles.ite (fun _ => .pure nofun)
    fun hbudget => ?_
  refine (h.timer_elapsed_settles timer u).bind fun spent' v hv => ?_
  refine (h.sleep_settles _ slice v).bind fun slept w hw => Settles.ite (fun _ => ?_)
    fun _ => .pure nofun
  refine (h.look_settles w).bind fun stopped' x hx => .pure fun _ => ⟨?_, by omega⟩
  have hleft : ∀ started budget : Nat, time t.state - started ≤ spent → ¬budget ≤ spent →
      time st.state < started + budget := by omega
  exact hleft _ _ hu.1 hbudget

/-- What follows another sample may count on a budget that was not spent and on a later time. -/
theorem again_settles (timer : PollTimer) (slice : Duration) {x : Nat → Exec (Station ω) α} {a : α}
    {st : Station ω}
    (hx : ∀ t : Station ω, time st.state < timer.deadline → time st.state < time t.state →
      Settles x (fun _ _ => True) t) {t : Station ω} (ht : time st.state ≤ time t.state) :
    Settles (fun n => do if ← timer.next g n slice then x n else return a) (fun _ _ => True) t := by
  refine (h.timer_next_settles timer slice t).bind fun more u hu => Settles.ite (fun hmore => ?_)
    fun _ => .pure trivial
  obtain ⟨hdeadline, hlater⟩ := hu hmore
  exact hx u (by omega) (by omega)

/-- The induction is on the time up to the deadline, and `k` samples have been taken before. -/
theorem watchColor_settles (config : Config) (line : Nat) (p : Point) (color : Color)
    (timer : PollTimer) (k : Nat) (st : Station ω) :
    Settles (fun n => watchColor g config n line p color timer (n - k)) (fun _ _ => True) st := by
  induction hleft : timer.deadline - time st.state using Nat.strongRecOn generalizing k st with
  | ind left ih =>
    refine .step (fun n => watchColor g config n line p color timer) k ?_
    refine (h.ask_settles (.pixel p) st).bind fun reply t ht => ?_
    cases reply with
    | error fault => exact ((complain_stepless g _ _ _).bind fun _ => stepless_pure _).settles t
    | ok actual =>
      refine Settles.ite (fun _ => .pure trivial) fun _ => ?_
      refine h.again_settles timer config.slice (fun u hdeadline hlater => ?_) ht
      exact ih (timer.deadline - time u.state) (by omega) (k + 1) u rfl

/-- A sample settles, and it is no earlier behind it. -/
theorem sampleText_settles (config : Config) (line : Nat) (st : Station ω) :
    Settles (fun _ => sampleText g config line) (fun _ t => time st.state ≤ time t.state) st :=
  .of_stepless (sampleText_stepless g config line)
    ((h.conduct.sampleText_obeys (n := 0) (fun _ _ => trivial) config line st).imp
      (fun _ _ ht => ht) fun _ ht => ht)

/-- Watching for a text settles: each sample takes time, and the budget is spent in the end. -/
theorem watchText_settles (config : Config) (line : Nat)
    (check : List TextBlock → Except String (Option α)) (timer : PollTimer) (k : Nat)
    (st : Station ω) :
    Settles (fun n => watchText g config n line check timer (n - k)) (fun _ _ => True) st := by
  induction hleft : timer.deadline - time st.state using Nat.strongRecOn generalizing k st with
  | ind left ih =>
    refine .step (fun n => watchText g config n line check timer) k ?_
    refine (h.sampleText_settles config line st).bind fun sample t ht => ?_
    have again := h.again_settles (a := none) timer config.slice (fun u hdeadline hlater =>
      ih (timer.deadline - time u.state) (by omega) (k + 1) u rfl) ht
    cases sample with
    | abort => exact .pure trivial
    | retry => exact again
    | text blocks =>
      refine (orPanic_settles g (check blocks) t).bind fun found u hu => ?_
      subst hu
      cases found with
      | some found => exact .pure trivial
      | none => exact again

/-- Starting a timer settles. -/
theorem start_settles (budget interval : Duration) (st : Station ω) :
    Settles (fun _ => PollTimer.start g budget interval) (fun _ _ => True) st :=
  (h.clock_settles st).bind fun _ _ _ => .pure trivial

/-- Waiting for a color settles. -/
theorem waitForColor_settles (config : Config) (line : Nat) (p : Point) (color : Color)
    (timeout : Duration) (st : Station ω) :
    Settles (fun n => waitForColor g config n line p color timeout) (fun _ _ => True) st :=
  (h.start_settles timeout config.pollInterval st).bind fun timer t _ =>
    h.watchColor_settles config line p color timer 0 t

/-- A poll for a text settles. -/
theorem pollText_settles (config : Config) (line : Nat) (timeout : Duration)
    (check : List TextBlock → Except String (Option α)) (st : Station ω) :
    Settles (fun n => pollText g config n line timeout check) (fun _ _ => True) st :=
  (h.start_settles timeout config.pollInterval st).bind fun timer t _ =>
    h.watchText_settles config line check timer 0 t

/-! ## Commands -/

/-- Every command settles at a gateway whose time goes on. -/
theorem perform_settles (config : Config) (line : Nat) (c : Command) (st : Station ω) :
    Settles (fun n => c.perform g config n line) (fun _ _ => True) st := by
  -- most commands end with a line of the log, or with a complaint
  have hlogged : ∀ (message : String) (v : Option Value) (t : Station ω), Settles
      (fun _ => do log g message; return (.ok v : Except Mishap (Option Value)))
        (fun _ _ => True) t :=
    fun message v t => ((log_stepless g message).bind fun _ => stepless_pure _).settles t
  have hfailed : ∀ (message : String) (v : Value) (t : Station ω), Settles
      (fun _ => do fail g line message; return (.ok (some v) : Except Mishap (Option Value)))
        (fun _ _ => True) t :=
    fun message v t =>
      ((complain_stepless g _ line message).bind fun _ => stepless_pure _).settles t
  cases c with
  | act a =>
    refine (h.ask_settles (.act a) st).bind fun reply t _ => ?_
    cases reply with
    | error fault => exact .pure trivial
    | ok _ => exact hlogged _ _ t
  | tap p count delay =>
    refine (h.clicks_settles config p delay count 0 st).bind fun clicked t _ => ?_
    cases clicked with
    | error fault => exact .pure trivial
    | ok done => exact hlogged _ _ t
  | sleep duration =>
    refine (h.sleep_settles duration config.slice st).bind fun slept t _ =>
      Settles.ite (fun _ => ?_) fun _ => ?_
    · exact ((stepless_modify _).bind fun _ => stepless_pure _).settles t
    · exact .pure trivial
  | log text => exact hlogged _ _ st
  | setVar name value =>
    exact (h.ask_settles (.store name value) st).bind fun _ t _ => hlogged _ _ t
  | getVar name => exact (h.ask_settles (.load name) st).bind fun _ _ _ => .pure trivial
  | stepVar b name step =>
    refine ((stepVar_stepless g b name step).settles st).bind fun result t _ => ?_
    cases result <;> exact .pure trivial
  | random lo hi => exact Stepless.settles nofun st
  | getColor p =>
    refine (h.ask_settles (.pixel p) st).bind fun reply t _ => ?_
    cases reply with
    | error fault => exact hfailed _ _ t
    | ok color => exact .pure trivial
  | compareColor p color tolerance =>
    refine (h.ask_settles (.pixel p) st).bind fun reply t _ => ?_
    cases reply with
    | error fault => exact hfailed _ _ t
    | ok color => exact .pure trivial
  | waitForColor p color timeout =>
    exact (h.waitForColor_settles config line p color timeout st).bind fun _ t _ => hlogged _ _ t
  | waitForText area text timeout =>
    exact (h.pollText_settles config line timeout _ st).bind fun _ t _ => hlogged _ _ t
  | getText area =>
    refine (h.sampleText_settles config line st).bind fun sample t _ => ?_
    cases sample with
    | text blocks =>
      exact (orPanic_settles g (blocksIn area blocks) t).bind fun _ _ _ => .pure trivial
    | retry => exact .pure trivial
    | abort => exact .pure trivial
  | findText text timeout =>
    exact (h.pollText_settles config line timeout _ st).bind fun _ t _ => hlogged _ _ t
  | findImage path threshold =>
    refine (h.ask_settles (.findImage path threshold) st).bind fun reply t _ => ?_
    cases reply with
    | error fault => exact hfailed _ _ t
    | ok found => exact hlogged _ _ t

/-- Every command ends where the clock runs. -/
theorem completes (config : Config) : g.Completes config := by
  intro b c hc line st
  obtain ⟨o, n, ho, hends⟩ := (h.perform_settles config line c st).ends
  exact ⟨n, hends n (Nat.le_refl n) ▸ ho⟩

end Gateway.Runs

/-! ## The simulated device -/

/-- No answer of the device turns back its clock. -/
theorem Device.clock_le_answer (r : Request) (stopped : Bool) (d : Device) :
    d.clock ≤ (gateway.answer r stopped d).state.clock := by
  cases r with
  | act a =>
    simp only [gateway, answer, act]
    split
    · exact Nat.le_refl _
    · split <;> exact Nat.le_refl _
  | openRecognizer =>
    simp only [gateway, answer, openRecognizer]
    split <;> exact Nat.le_refl _
  | recognize session image bound watch =>
    simp only [gateway, answer, recognize]
    split
    · split
      · exact Nat.le_refl _
      · split
        · exact Nat.le_refl _
        · split <;> exact Nat.le_add_right _ _
    · exact Nat.le_refl _
    · exact Nat.le_refl _
  | closeRecognizer session =>
    simp only [gateway, answer, closeRecognizer]
    split <;> exact Nat.le_refl _
  -- time passes at a look and at a pause, and while a text is recognized
  | checkpoint => exact Nat.le_add_right _ _
  | pause duration => exact Nat.le_add_right _ _
  | _ => exact Nat.le_refl _

/-- The clock of the simulated device runs. -/
theorem Device.gateway_runs : Device.gateway.Runs Device.clock where
  onward := clock_le_answer
  look _ _ := Nat.lt_add_of_pos_right (by decide)
  shown := by
    intro stopped d now hnow
    cases hnow
    exact Nat.le_refl _

end TapScript
