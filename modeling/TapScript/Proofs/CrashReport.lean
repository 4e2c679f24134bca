import TapScript.Gateway.Device
import TapScript.Proofs.Transcript

/-! # What becomes of a crash

Whatever a run asks for may crash: an action, a look at the screen, a line of the log. A crash
inside the script is caught and becomes the status of the report. But the engine asks for two things
outside of the script: before it, whether the device is ready, and behind a crash, for a last line
of the log. A crash there is a crash of the engine.

* `Station.incidents` are the requests that have crashed, read off the transcript.
* `execute_reports_crash` says how a run of the engine ends, and which requests have crashed by
  then: none, or the one that the report tells of, or one for which the engine itself has crashed.
* `execute_passes_crash_on` is a run whose crash reaches the caller. -/

namespace TapScript

variable {ω : Type}

/-- The gateway never crashes at the request. -/
def Gateway.Answers (g : Gateway ω) (r : Request) : Prop :=
  ∀ stopped w, ∃ reply, (g.answer r stopped w).outcome = .ok reply

/-- The request with the crash that it ended in, if it did. -/
def Exchange.incident? (e : Exchange) : Option (Request × Crash) :=
  match e.outcome with
  | .ok _ => none
  | .error c => some (e.request, c)

namespace Station

/-- The requests that have crashed so far, with their crashes. -/
def incidents (st : Station (ω × List Exchange)) : List (Request × Crash) :=
  st.transcript.filterMap Exchange.incident?

/-- The incidents are read off the gateway's state alone. -/
theorem incidents_congr {s t : Station (ω × List Exchange)} (h : s.state = t.state) :
    s.incidents = t.incidents :=
  congrArg (List.filterMap Exchange.incident?) (transcript_congr h)

end Station

/-- The last line of the log behind a crash. -/
def fatalLine (c : Crash) : String := s!"Fatal error: {c.message}"

section Requests

variable {g : Gateway ω} (hclose : ∀ session, g.Answers (.closeRecognizer session))

include hclose

/-- If no close crashes, a request adds its own crash to the incidents and nothing else. -/
theorem Station.incidents_answered (r : Request) (s : Station (ω × List Exchange)) :
    (s.answered g.transcribed r).incidents = s.incidents ++ (s.exchange g r).incident?.toList := by
  refine Station.filterMap_answered (fun session stopped w => ?_) r s
  obtain ⟨reply, hreply⟩ := hclose session stopped w
  simp only [Exchange.incident?, Gateway.exchange, hreply]

/-- A request crashes only if the gateway may crash there, and then it is the next incident. -/
theorem ask_incidents (r : Request) (s : Station (ω × List Exchange)) :
    (ask g.transcribed r s).Ends (fun _ t => t.incidents = s.incidents)
      (fun c t => t.incidents = s.incidents ++ [(r, c)] ∧ ¬ g.Answers r) False := by
  have hanswered := s.incidents_answered hclose r
  obtain ⟨reply, houtcome, hask⟩ | ⟨crash, houtcome, hask⟩ := ask_cases g.transcribed r s
  · have hnone : (s.exchange g r).incident? = none := by
      have houtcome : (g.answer r s.stopped s.state.1).outcome = .ok reply := houtcome
      simp only [Exchange.incident?, Station.exchange, Gateway.exchange, houtcome]
    rw [hask]
    rw [hnone] at hanswered
    exact hanswered.trans (List.append_nil _)
  · have houtcome : (g.answer r s.stopped s.state.1).outcome = .error crash := houtcome
    have hsome : (s.exchange g r).incident? = some (r, crash) := by
      simp only [Exchange.incident?, Station.exchange, Gateway.exchange, houtcome]
    rw [hask]
    rw [hsome] at hanswered
    refine ⟨hanswered, fun hanswers => ?_⟩
    obtain ⟨reply, hreply⟩ := hanswers s.stopped s.state.1
    rw [houtcome] at hreply
    cases hreply

/-- A script goes on as long as nothing has crashed, and a crash of it is the only incident. -/
theorem counterparts_incidents :
    Counterparts g.transcribed g.transcribed (Held fun s => s.incidents = [])
      fun c => Held fun s => ∃ r, r ≠ .ready ∧ s.incidents = [(r, c)] := by
  have asks : ∀ r, r ≠ .ready → Exec.Alike (Held fun s => s.incidents = [])
      (fun c => Held fun s => ∃ r, r ≠ .ready ∧ s.incidents = [(r, c)]) (ask g.transcribed r)
      (ask g.transcribed r) := by
    intro r hr
    refine Exec.alike_held_iff.2 fun s hs => (ask_incidents hclose r s).imp
      (fun _ t ht => ht.trans hs) (fun c t ht => ⟨r, hr, ?_⟩) False.elim
    rw [ht.1, hs]
    rfl
  refine Counterparts.of_asks (Matching.held fun hs hst => ?_) (fun r hr => asks r ?_)
    fun a => asks _ nofun
  · rwa [← Station.incidents_congr hst]
  · rintro rfl
    cases hr

/-! ## The engine -/

/-- A run is announced without a crash, unless the gateway cannot tell whether it is ready. -/
theorem announce_incidents (lines : List Line) (s : Station (ω × List Exchange)) :
    (Engine.announce g.transcribed lines s).Ends (fun _ t => t.incidents = s.incidents)
      (fun c t => t.incidents = s.incidents ++ [(.ready, c)] ∧ ¬ g.Answers .ready) False := by
  refine Outcome.Ends.bind ((ask_incidents hclose .ready s).imp (fun ready t ht => ?_)
    fun _ _ hc => hc)
  cases ready with
  | true => exact ht
  | false => exact ht

/-- Closing the recognizer never crashes. -/
theorem close_incidents (s : Station (ω × List Exchange)) :
    (Recognizer.close g.transcribed s).Ends (fun _ t => t.incidents = s.incidents)
      (fun _ _ => False) False := by
  rw [Recognizer.close, Exec.gets_bind]
  cases s.recognizer with
  | none => exact rfl
  | some session =>
    dsimp only
    rw [record, Exec.modify_bind, Exec.modify_bind]
    have hask := ask_incidents hclose (.closeRecognizer session)
      { s.note ⟨.debug, "Closing text recognizer", []⟩ with recognizer := none }
    exact Outcome.Ends.bind (hask.imp (fun _ t ht => ht) fun c t ht => ht.2 (hclose session))

variable (hlook : g.Answers .checkpoint)

include hlook

/-- A run that has not crashed is judged without a crash; one that has is judged with its message,
unless the line about it crashes. -/
theorem conclude_incidents (outcome : Except Crash Flow) (s : Station (ω × List Exchange)) :
    (Engine.conclude g.transcribed outcome s).Ends
      (fun status t => t.incidents = s.incidents ∧ match outcome with
        | .ok _ => status = .completed ∨ status = .stopped
        | .error crash => status = .crashed crash.message)
      (fun c t => ∃ crash, outcome = .error crash ∧
        t.incidents = s.incidents ++ [(.log (fatalLine crash), c)] ∧
          ¬ g.Answers (.log (fatalLine crash)))
      False := by
  cases outcome with
  | ok flow =>
    refine Outcome.Ends.bind (Outcome.Ends.bind
      ((ask_incidents hclose .checkpoint s).imp (fun _ t ht => ?_) fun c t ht => absurd hlook ht.2))
    show ((if t.stopped then return .stopped else return .completed : Exec _ Status) t).Ends _ _ _
    cases t.stopped with
    | true => exact ⟨ht, .inr rfl⟩
    | false => exact ⟨ht, .inl rfl⟩
  | error crash =>
    rw [Engine.conclude, record, Exec.modify_bind]
    have hask := ask_incidents hclose (.log (fatalLine crash))
      (s.note ⟨.error, "Script run crashed", [("error", crash.message)]⟩)
    refine Outcome.Ends.bind (hask.imp (fun _ t ht => ⟨ht, rfl⟩) fun c t ht => ?_)
    exact ⟨crash, rfl, ht⟩

end Requests

/-- **A crash is reported, unless the engine crashes.** If neither closing a recognizer nor a look
at the stop flag crashes, a run of the engine ends in one of four ways. It reports that the script
has completed or was stopped, and nothing has crashed. It reports a crash, with the message of the
one request that has crashed. It crashes since the gateway crashes when it is asked whether it is
ready. Or it crashes since a request of the script has crashed and then the line of the log about
that. It uses up its steps only if the script does. -/
theorem execute_reports_crash (g : Gateway ω)
    (hclose : ∀ session, g.Answers (.closeRecognizer session)) (hlook : g.Answers .checkpoint)
    (config : Config) (fuel : Nat) (lines : List Line) (st : Station ω) :
    (Engine.execute g.transcribed config fuel lines st.transcribed).Ends
      (fun report t =>
        t.incidents = [] ∧ (report.status = .completed ∨ report.status = .stopped) ∨
        ∃ r c, r ≠ .ready ∧ t.incidents = [(r, c)] ∧ report.status = .crashed c.message)
      (fun c t =>
        t.incidents = [(.ready, c)] ∧ ¬ g.Answers .ready ∨
        ∃ r crash, r ≠ .ready ∧ t.incidents = [(r, crash), (.log (fatalLine crash), c)] ∧
          ¬ g.Answers (.log (fatalLine crash)))
      (∃ s, Engine.interpret g.transcribed config fuel lines s = .exhausted) := by
  let cleared : Station (ω × List Exchange) := { st.transcribed with stopped := false }
  show (Engine.proceed g.transcribed config fuel lines cleared).Ends _ _ _
  -- before the script, the engine crashes if the readiness check does
  refine Outcome.Ends.bind ((announce_incidents hclose lines cleared).imp (fun _ s hs => ?_)
    (fun c t ht => .inl ht) False.elim)
  -- a crash of the script is a value from here on, so only the last line of the log may still crash
  have hscript := (counterparts_incidents hclose).interpret_ends config fuel lines hs
  refine Outcome.Ends.bind (hscript.imp (fun result u hu => ?_) (fun _ _ hc => hc.elim)
    fun hx => ⟨s, hx⟩)
  obtain ⟨outcome, frame⟩ := result
  refine Outcome.Ends.bind (Outcome.Ends.bind ((close_incidents hclose u).imp (fun _ v hv => ?_)
    (fun _ _ hc => hc.elim) False.elim))
  refine Outcome.Ends.bind ((conclude_incidents hclose hlook outcome v).imp (fun status t ht => ?_)
    (fun c t ht => ?_) False.elim)
  · obtain ⟨hincidents, hstatus⟩ := ht
    rw [hv] at hincidents
    cases outcome with
    | ok flow =>
      have hnone : u.incidents = [] := hu
      exact .inl ⟨hincidents.trans hnone, hstatus⟩
    | error crash =>
      obtain ⟨r, hr, hcrash⟩ : ∃ r, r ≠ .ready ∧ u.incidents = [(r, crash)] := hu
      exact .inr ⟨r, crash, hr, hincidents.trans hcrash, hstatus⟩
  · obtain ⟨crash, rfl, hincidents, hfatal⟩ := ht
    obtain ⟨r, hr, hcrash⟩ : ∃ r, r ≠ .ready ∧ u.incidents = [(r, crash)] := hu
    rw [hv, hcrash] at hincidents
    exact .inr ⟨r, crash, hr, hincidents, hfatal⟩

/-! ## Crashes that are caught and crashes that are not -/

/-- The gateway that crashes at some requests. -/
def Gateway.crashingAt (g : Gateway ω) (faulty : Request → Bool) (c : Crash) : Gateway ω where
  answer r stopped w := if faulty r then ⟨.error c, .none, w⟩ else g.answer r stopped w

/-- The crash that a computation has ended in, if it has. -/
def Outcome.crash? {σ α : Type} : Outcome σ α → Option Crash
  | .crashed c _ => some c
  | _ => none

/-- A script at a device whose actions crash. -/
theorem execute_reports_crash_device :
    let g := Device.gateway.crashingAt (· matches .act _) ⟨some "boom"⟩
    (∀ session, g.Answers (.closeRecognizer session)) ∧ g.Answers .checkpoint ∧
      ∀ st : Station Device, (Engine.execute g.transcribed {} 20 [⟨1, "back()".toList⟩]
        st.transcribed).Ends (fun report t =>
          t.incidents = [] ∧ (report.status = .completed ∨ report.status = .stopped) ∨
          ∃ r c, r ≠ .ready ∧ t.incidents = [(r, c)] ∧ report.status = .crashed c.message)
        (fun c t =>
          t.incidents = [(.ready, c)] ∧ ¬ g.Answers .ready ∨
          ∃ r crash, r ≠ .ready ∧ t.incidents = [(r, crash), (.log (fatalLine crash), c)] ∧
            ¬ g.Answers (.log (fatalLine crash)))
        (∃ s, Engine.interpret g.transcribed {} 20 [⟨1, "back()".toList⟩] s = .exhausted) := by
  intro g
  have hclose : ∀ session, g.Answers (.closeRecognizer session) := fun _ _ _ => ⟨(), rfl⟩
  have hlook : g.Answers .checkpoint := fun _ _ => ⟨(), rfl⟩
  exact ⟨hclose, hlook, fun st => execute_reports_crash g hclose hlook {} 20 _ st⟩

/-- If only the callback of the log crashes, then already the trace of an action is the end of the
engine: the crash is caught, and the line about it crashes again. -/
theorem execute_passes_crash_on :
    let g := Device.gateway.crashingAt (· matches .log _) ⟨some "boom"⟩
    (∀ session, g.Answers (.closeRecognizer session)) ∧ g.Answers .ready ∧
      (Engine.execute g {} 20 [⟨1, "back()".toList⟩] { state := {} }).crash? =
        some ⟨some "boom"⟩ := by
  intro g
  exact ⟨fun _ _ _ => ⟨(), rfl⟩, fun _ d => ⟨d.ready, rfl⟩, by decide +kernel⟩

end TapScript
