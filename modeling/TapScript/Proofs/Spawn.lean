import TapScript.Proofs.CrashReport
import TapScript.Proofs.Stop

/-! # Stopping a spawned run

A run that is spawned waits for its turn, clears the stop flag, and then runs. A controller may call
for a stop at any moment of that, and an interleaving of the two is the set of moments at which it
does. A call before the flag is cleared leaves no trace; every later one is heeded.

* `Moment` are the moments at which a controller may call, `Engine.spawned` is the run under it.
* `Engine.spawned_apply` says what is left of the calls once the flag is cleared.
* `Exec.CrashesInEngine.proceed` says where the engine itself may crash.
* `stop_is_heeded_once_cleared` puts this together: earlier calls are lost, and once it is called
  later, a run ends, takes up no line behind the call, and reports that it was stopped unless it
  crashes.
* `stop_not_heeded` shows a call that is lost, and one that is followed by a crash. -/

namespace TapScript

variable {ω : Type}

/-! ## The run and its controller -/

/-- The moments of a spawned run at which a controller may call for a stop. -/
inductive Moment where
  /-- The run is spawned and waits for its turn. -/
  | queued
  /-- The run has its turn and has not cleared the stop flag yet. -/
  | locked
  /-- The flag is cleared, and so many requests of the run are answered. -/
  | running (answered : Nat)
deriving DecidableEq

/-- Whether the flag is cleared by now. -/
def Moment.isRunning : Moment → Bool
  | running _ => true
  | _ => false

/-- A spawned run of an engine that is idle otherwise, under a controller that calls for a stop at
the given moments. -/
def Engine.spawned (g : Gateway ω) (config : Config) (fuel : Nat) (lines : List Line)
    (calls : Moment → Bool) : Exec (Station (ω × List Event)) Report := do
  if calls .queued then requestStop
  if calls .locked then requestStop
  Exec.modify fun st => { st with stopped := false }
  if calls (.running 0) then requestStop
  proceed (g.controlled fun n => calls (.running n)) config fuel lines

/-- Only the calls behind the clearing of the flag matter. -/
theorem Engine.spawned_apply (g : Gateway ω) (config : Config) (fuel : Nat) (lines : List Line)
    (calls : Moment → Bool) (st : Station (ω × List Event)) :
    spawned g config fuel lines calls st =
      proceed (g.controlled fun n => calls (.running n)) config fuel lines
        { st with stopped := calls (.running 0) } := by
  unfold spawned
  cases calls .queued <;> cases calls .locked <;> cases calls (.running 0) <;> rfl

/-- The calls before the flag is cleared are lost. -/
theorem Engine.spawned_eq_spawned (g : Gateway ω) (config : Config) (fuel : Nat)
    (lines : List Line) (calls : Moment → Bool) (st : Station (ω × List Event)) :
    spawned g config fuel lines calls st =
      spawned g config fuel lines (fun m => m.isRunning && calls m) st := by
  rw [spawned_apply, spawned_apply]
  rfl

/-- A run that is called to stop only before it has cleared the flag runs as if nobody had
called. -/
theorem Engine.spawned_eq_execute (g : Gateway ω) (config : Config) (fuel : Nat)
    (lines : List Line) {calls : Moment → Bool} (hcalls : ∀ n, calls (.running n) = false)
    (st : Station (ω × List Event)) :
    spawned g config fuel lines calls st = execute g.traced config fuel lines st := by
  rw [spawned_apply, hcalls 0, funext hcalls]
  rfl

/-! ## Crashes of the engine itself -/

/-- The last thing in the trace is a crash of the request, but for a recognizer that is closed with
it. -/
def Station.HasCrashedAt (r : Request) (t : Station (ω × List Event)) : Prop :=
  ∃ before e behind, t.trace = before ++ e :: behind ∧ e.request = r ∧ e.crashed ∧
    ∀ e' ∈ behind, e'.request.isClose

/-- What the engine itself asks for, outside of the script: whether the gateway is ready, to close
the recognizer, and to log the crash of the script. -/
def Request.IsOfEngine (r : Request) : Prop :=
  r = .ready ∨ (∃ session, r = .closeRecognizer session) ∨ ∃ crash, r = .log (fatalLine crash)

/-- A request is the next event, with nothing behind it but a close. -/
theorem Station.trace_answered (g : Gateway ω) (calls : Nat → Bool) (r : Request)
    (s : Station (ω × List Event)) :
    ∃ behind, (s.answered (g.controlled calls) r).trace =
        s.trace ++ g.event calls r s.stopped s.state :: behind ∧
      ∀ e ∈ behind, e.request.isClose := by
  have hrelease : ∀ t : Station (ω × List Event), ∃ behind,
      (t.release (g.controlled calls)).trace = t.trace ++ behind ∧
        ∀ e ∈ behind, e.request.isClose := by
    intro t
    unfold Station.release
    cases t.recognizer with
    | none => exact ⟨[], (List.append_nil _).symm, nofun⟩
    | some session => exact ⟨[_], rfl, List.forall_mem_singleton.2 rfl⟩
  unfold Station.answered
  dsimp only
  cases ((g.controlled calls).answer r s.stopped s.state).signal with
  | none => exact ⟨[], rfl, nofun⟩
  | stop => exact ⟨[], rfl, nofun⟩
  | close =>
    obtain ⟨behind, htrace, hbehind⟩ := hrelease { s with
      state := ((g.controlled calls).answer r s.stopped s.state).state, stopped := true }
    exact ⟨behind, htrace.trans (List.append_assoc ..), hbehind⟩

section Crashes

variable {g : Gateway ω} {calls : Nat → Bool}

/-- A request that crashes is the one that the trace ends with. -/
theorem ask_crashes (r : Request) (s : Station (ω × List Event)) :
    (ask (g.controlled calls) r s).Meets (fun _ _ => True)
      fun t => t.HasCrashedAt r ∧ ¬g.Answers r := by
  obtain ⟨reply, -, hask⟩ | ⟨crash, houtcome, hask⟩ := ask_cases (g.controlled calls) r s
  · rw [hask]
    exact trivial
  · have houtcome : (g.answer r s.stopped s.state.1).outcome = .error crash := houtcome
    rw [hask]
    obtain ⟨behind, htrace, hbehind⟩ := s.trace_answered g calls r
    refine ⟨⟨s.trace, _, behind, htrace, rfl, ?_, hbehind⟩, fun hanswers => ?_⟩
    · simp only [Gateway.event, houtcome]
    · obtain ⟨reply, hreply⟩ := hanswers s.stopped s.state.1
      rw [houtcome] at hreply
      cases hreply

/-- If the computation crashes, it does so at a request of the engine itself. -/
def Exec.CrashesInEngine {α : Type} (x : Exec (Station (ω × List Event)) α) : Prop :=
  ∀ s, (x s).Meets (fun _ _ => True) fun t => ∃ r : Request, t.HasCrashedAt r ∧ r.IsOfEngine

namespace Exec.CrashesInEngine

variable {α β : Type}

/-- A sequence crashes where its parts do. -/
theorem bind {x : Exec (Station (ω × List Event)) α} {f : α → Exec (Station (ω × List Event)) β}
    (hx : x.CrashesInEngine) (hf : ∀ a, (f a).CrashesInEngine) : (x >>= f).CrashesInEngine :=
  fun s => Outcome.Meets.bind ((hx s).imp (fun a t _ => hf a t) fun _ h => h)

/-- A value is no crash. -/
theorem pure (a : α) : (Pure.pure a : Exec (Station (ω × List Event)) α).CrashesInEngine :=
  fun _ => trivial

/-- A change of the station is no crash. -/
theorem modify (change : Station (ω × List Event) → Station (ω × List Event)) :
    (Exec.modify change).CrashesInEngine :=
  fun _ => trivial

/-- Reading the station is no crash. -/
theorem gets (read : Station (ω × List Event) → α) : (Exec.gets read).CrashesInEngine :=
  fun _ => trivial

/-- A request of the engine may crash. -/
theorem ask {r : Request} (hr : r.IsOfEngine) :
    (TapScript.ask (g.controlled calls) r).CrashesInEngine :=
  fun s => (ask_crashes r s).imp (fun _ _ h => h) fun _ ht => ⟨r, ht.1, hr⟩

/-- What comes before the script. -/
theorem announce (lines : List Line) :
    (Engine.announce (g.controlled calls) lines).CrashesInEngine := by
  refine (ask (.inl rfl)).bind fun ready => ?_
  cases ready with
  | true => exact modify _
  | false => exact (modify _).bind fun _ => modify _

/-- A crash of the script is a value to the engine. -/
theorem interpret (config : Config) (fuel : Nat) (lines : List Line) :
    (Engine.interpret (g.controlled calls) config fuel lines).CrashesInEngine := by
  intro s
  unfold Engine.interpret
  cases runScript (g.controlled calls) config fuel lines (Session.start s) <;> exact trivial

/-- Closing the recognizer. -/
theorem close : (Recognizer.close (g.controlled calls)).CrashesInEngine := by
  refine (gets _).bind fun session => ?_
  cases session with
  | none => exact pure _
  | some session =>
    refine (modify _).bind fun _ => (modify _).bind fun _ => ?_
    exact (ask (.inr (.inl ⟨session, rfl⟩))).bind fun _ => pure _

/-- Judging how the run has ended, if looking at the flag does not crash. -/
theorem conclude (hlook : g.Answers .checkpoint) (outcome : Except Crash Flow) :
    (Engine.conclude (g.controlled calls) outcome).CrashesInEngine := by
  cases outcome with
  | ok flow =>
    have hcheck : (TapScript.ask (g.controlled calls) .checkpoint).CrashesInEngine := fun s =>
      (ask_crashes .checkpoint s).imp (fun _ _ h => h) fun _ ht => absurd hlook ht.2
    refine (hcheck.bind fun _ => gets _).bind fun stopped => ?_
    cases stopped <;> exact pure _
  | error crash =>
    refine (modify _).bind fun _ => ?_
    exact (ask (.inr (.inr ⟨crash, rfl⟩))).bind fun _ => pure _

/-- The whole run, behind the clearing of the flag. -/
theorem proceed (hlook : g.Answers .checkpoint) (config : Config) (fuel : Nat) (lines : List Line) :
    (Engine.proceed (g.controlled calls) config fuel lines).CrashesInEngine := by
  refine (announce lines).bind fun _ => (interpret config fuel lines).bind fun result => ?_
  refine bind (close.bind fun _ => (conclude hlook result.1).bind fun status => ?_) fun _ => pure _
  exact (modify _).bind fun _ => pure _

end Exec.CrashesInEngine

end Crashes

/-! ## Calls while the run is running -/

/-- Whether the request is the moment at which a line is taken up. -/
def Request.isVisit : Request → Bool
  | visit _ => true
  | _ => false

/-- Taking up a line is a deed. -/
theorem Request.isDeed_of_isVisit (r : Request) (hr : r.isVisit) : r.isDeed := by
  cases r <;> first | rfl | exact absurd hr (by simp [isVisit])

/-- A line is taken up in time only if the flag is clear, even if the gateway is not quiet. -/
theorem stopped_of_timely_visit {g : Gateway ω} (r : Request) (st : Station ω) (ht : Timely g r st)
    (hr : r.isVisit) : st.stopped = false := by
  cases r <;> first | exact ht | exact absurd hr (by simp [Request.isVisit])

/-- How a run ends that is called to stop when `n` of its requests are answered. It does end, and no
line is taken up behind the call. Unless it was over before the call, its report says that it was
stopped, or that it crashed, and then there is a crash in the trace. If it ends without a report,
the engine itself has crashed: in asking whether the gateway is ready, in closing the recognizer, or
in logging the crash of the script. -/
def Outcome.HeedsCall (n : Nat) (o : Outcome (Station (ω × List Event)) Report) : Prop :=
  o.Meets
    (fun report t => (∀ e ∈ t.trace.drop n, e.request.isVisit = false) ∧
      (n ≤ t.trace.length → report.status = .stopped ∨
        (∃ e ∈ t.trace, e.crashed) ∧ ∃ message, report.status = .crashed message))
    (fun t => (∀ e ∈ t.trace.drop n, e.request.isVisit = false) ∧
      ∃ r : Request, t.HasCrashedAt r ∧ r.IsOfEngine)
    False

/-- **A stop is heeded once the flag is cleared, and lost before.** Whatever the script and the
gateway are, and whenever the controller calls: the calls before the run has cleared the flag make
no difference, and if there are no others, the run is one that nobody stops. A later call is heeded,
however the run would have gone on; the steps that the run needs are bounded by the requests up to
the call. -/
theorem stop_is_heeded_once_cleared (g : Gateway ω) (hlook : g.Answers .checkpoint)
    (config : Config) (fuel : Nat) (lines : List Line) (calls : Moment → Bool) (st : Station ω) :
    Engine.spawned g config fuel lines calls st.traced =
        Engine.spawned g config fuel lines (fun m => m.isRunning && calls m) st.traced ∧
      ((∀ n, calls (.running n) = false) →
        Engine.spawned g config fuel lines calls st.traced =
          Engine.execute g.traced config fuel lines st.traced) ∧
      ∀ n, calls (.running n) → n < fuel →
        (Engine.spawned g config fuel lines calls st.traced).HeedsCall n := by
  refine ⟨Engine.spawned_eq_spawned g config fuel lines calls st.traced,
    fun hcalls => Engine.spawned_eq_execute g config fuel lines hcalls st.traced,
    fun n hn hfuel => ?_⟩
  rw [Engine.spawned_apply]
  have hconduct := conduct_heeding (g := g) (fun n => calls (.running n)) Request.isDeed_of_isVisit
    stopped_of_timely_visit
  have hstart : ({ st.traced with stopped := calls (.running 0) } : Station (ω × List Event)).Heeds
      (fun n => calls (.running n)) Request.isVisit := st.heeds_start id
  have hrun := hconduct.proceed_meets (fun _ => trivial) (fun hc hs => (hc hs).1) config fuel lines
    { st.traced with stopped := calls (.running 0) }
  refine (hrun.and (Exec.CrashesInEngine.proceed hlook config fuel lines _)).imp
    (fun report t ht => ?_) (fun t ht => ?_) fun htired => ?_
  · obtain ⟨ht, -⟩ := ht
    have ⟨hheeds, _⟩ := ht.1 hstart
    refine ⟨hheeds.idle_behind hn, fun hle => ?_⟩
    -- the call is over, so the flag is set in the end
    have hset := hheeds.due n hn hle
    have hexplains := ht.2
    cases hstatus : report.status with
    | stopped => exact .inl rfl
    | completed =>
      rw [hstatus] at hexplains
      have hclear : t.stopped = false := hexplains
      exact absurd hset (by simp [hclear])
    | crashed message =>
      rw [hstatus] at hexplains
      obtain ⟨u, hcrash, hdone⟩ := hexplains
      have ⟨⟨hu, _⟩, e, he, hecrash⟩ := hcrash hstart
      exact .inr ⟨⟨e, (hdone hu).2.subset he, hecrash⟩, message, rfl⟩
  · obtain ⟨hheeding, hcrashed⟩ := ht
    have ⟨⟨hheeds, _⟩, _⟩ := hheeding hstart
    exact ⟨hheeds.idle_behind hn, hcrashed⟩
  · have hleft : fuel ≤ n - 0 := htired hstart n hn
    omega

/-- An endless loop that is called to stop in the middle of its second turn. -/
theorem stop_is_heeded_once_cleared_device :
    Device.gateway.Answers .checkpoint ∧ 9 < 20 ∧ ∀ st : Station Device,
      (Engine.spawned Device.gateway {} 20
        [⟨1, "while (true) \x7b".toList⟩, ⟨2, "back()".toList⟩, ⟨3, "\x7d".toList⟩]
        (· = .running 9) st.traced).HeedsCall 9 := by
  have hlook : Device.gateway.Answers .checkpoint := fun _ _ => ⟨(), rfl⟩
  refine ⟨hlook, by decide, fun st => ?_⟩
  exact (stop_is_heeded_once_cleared Device.gateway hlook {} 20 _ (· = .running 9) st).2.2 9
    (by decide) (by decide)

/-! ## Calls that are not heeded -/

/-- The gateway whose actions crash. -/
def Gateway.crashingActions (g : Gateway ω) (crash : Crash) : Gateway ω where
  answer r stopped w :=
    let turn := g.answer r stopped w
    ⟨if r.isDeed && !r.isLook then .error crash else turn.outcome, turn.signal, turn.state⟩

/-- What is seen of a run that has ended with a report: its status, and which lines were taken
up. -/
def Outcome.seen? : Outcome (Station (ω × List Event)) Report → Option (Status × List Nat)
  | .done report t => some (report.status, t.trace.filterMap fun e =>
      match e.request with
      | .visit number => some number
      | _ => none)
  | _ => none

/-- A call while the run waits for its turn is lost: both lines are taken up, and the run completes.
A call while the first of two lines is taken up is heeded, but if that line crashes then, the run
does not report that it was stopped. -/
theorem stop_not_heeded :
    (Engine.spawned Device.gateway {} 20 [⟨1, "back()".toList⟩, ⟨2, "home()".toList⟩]
        (· = .queued) (Station.traced { state := {} })).seen? = some (.completed, [1, 2]) ∧
      (Engine.spawned (Device.gateway.crashingActions ⟨some "boom"⟩) {} 20
        [⟨1, "back()".toList⟩, ⟨2, "home()".toList⟩] (· = .running 3)
        (Station.traced { state := {} })).seen? = some (.crashed "boom", [1]) := by
  decide +kernel

end TapScript
