import TapScript.Gateway.Device
import TapScript.Proofs.Recognizers
import TapScript.Proofs.RunConduct

/-! # The recognizer of a run

What a run does with recognizers is observed through a gateway that keeps **minutes**: which
recognizers were opened, queried and closed, and how often somebody else has closed the engine
meanwhile.

* `Gateway.minuted` keeps the minutes. `Station.answered_minuted` says all that a request may do to
  the recognizer that is open.
* `Contract.serving` is the contract of a script: recognizers are used in order, and only somebody
  else closes them. `Contract.resting` is the contract of what comes before and behind it.
* `recognizers_balanced` says that no recognizer is left open, by the tasks at the handle or by a
  run. -/

namespace TapScript

open Usage (openings closings)

variable {ω : Type}

/-! ## Minutes -/

/-- What is written down about recognizers. -/
structure Minutes where
  usage : List (Usage SessionId)
  /-- How often somebody else has closed the engine. -/
  closes : Nat

/-- What a request that has ended so means to a recognizer. -/
def Request.usage : (r : Request) → Except Crash r.Reply → List (Usage SessionId)
  | .openRecognizer, .ok (.ok session) => [.opened session]
  | .recognize session .., _ => [.queried session]
  | .closeRecognizer session, _ => [.closed session]
  | _, _ => []

/-- Only requests to the recognizer use it. -/
theorem Request.usage_eq_nil {r : Request} (hr : r.isSession = false)
    (outcome : Except Crash r.Reply) : r.usage outcome = [] := by
  cases r with
  | openRecognizer => cases hr
  | recognize => cases hr
  | closeRecognizer => cases hr
  | _ => rfl

/-- The gateway that answers as `g` does and keeps minutes. -/
def Gateway.minuted (g : Gateway ω) : Gateway (ω × Minutes) where
  answer r stopped w :=
    let turn := g.answer r stopped w.1
    ⟨turn.outcome, turn.signal, turn.state,
      ⟨w.2.usage ++ r.usage turn.outcome, w.2.closes + if turn.signal = .close then 1 else 0⟩⟩

namespace Station

/-- The station whose minutes start now. -/
def minuted (st : Station ω) : Station (ω × Minutes) :=
  ⟨(st.state, ⟨[], 0⟩), st.stopped, st.recognizer, st.dice, st.journal⟩

/-- What has happened to recognizers so far. -/
def usage (st : Station (ω × Minutes)) : List (Usage SessionId) := st.state.2.usage

/-- How often somebody else has closed the engine so far. -/
def closes (st : Station (ω × Minutes)) : Nat := st.state.2.closes

/-- Who releases the recognizer closes the one that is open. -/
theorem release_minuted (g : Gateway ω) (s : Station (ω × Minutes)) :
    s.release g.minuted = s ∨
    ∃ session, s.recognizer = some session ∧ (s.release g.minuted).recognizer = none ∧
      (s.release g.minuted).usage = s.usage ++ [.closed session] ∧
      s.closes ≤ (s.release g.minuted).closes := by
  unfold release
  split
  · exact .inl rfl
  · rename_i session hopen
    exact .inr ⟨session, hopen, rfl, rfl, Nat.le_add_right ..⟩

/-- A request is written down. Then, if somebody else closes the engine meanwhile, the recognizer
that is open is closed. -/
theorem answered_minuted (g : Gateway ω) (r : Request) (s : Station (ω × Minutes)) :
    ((s.answered g.minuted r).recognizer = s.recognizer ∧
      (s.answered g.minuted r).usage =
        s.usage ++ r.usage (g.minuted.answer r s.stopped s.state).outcome ∧
      s.closes ≤ (s.answered g.minuted r).closes) ∨
    ∃ session, s.recognizer = some session ∧ (s.answered g.minuted r).recognizer = none ∧
      (s.answered g.minuted r).usage =
        s.usage ++ r.usage (g.minuted.answer r s.stopped s.state).outcome ++ [.closed session] ∧
      s.closes + 1 ≤ (s.answered g.minuted r).closes := by
  have hcloses : s.closes ≤ (g.minuted.answer r s.stopped s.state).state.2.closes :=
    Nat.le_add_right ..
  simp only [answered]
  cases hsignal : (g.minuted.answer r s.stopped s.state).signal with
  | none => exact .inl ⟨rfl, rfl, hcloses⟩
  | stop => exact .inl ⟨rfl, rfl, hcloses⟩
  | close =>
    let asked : Station (ω × Minutes) :=
      { s with state := (g.minuted.answer r s.stopped s.state).state, stopped := true }
    have hmore : asked.closes = s.closes + 1 := by
      have hsignal : (g.answer r s.stopped s.state.1).signal = .close := hsignal
      simp [asked, Gateway.minuted, hsignal, closes]
    simp only [receive]
    obtain hsame | ⟨session, hopen, hclosed, husage, hreleased⟩ := asked.release_minuted g
    · rw [hsame]
      exact .inl ⟨rfl, rfl, hcloses⟩
    · exact .inr ⟨session, hopen, hclosed, husage, hmore ▸ hreleased⟩

/-- From the first station to the second one recognizers were used in order, and only somebody else
has closed them. -/
def Serves (s t : Station (ω × Minutes)) : Prop :=
  ∃ es, t.usage = s.usage ++ es ∧ Used s.recognizer es t.recognizer ∧
    s.closes + (closings es).length ≤ t.closes

namespace Serves

variable {s t u : Station (ω × Minutes)}

/-- Where nothing has changed nothing was used. -/
theorem of_eq (hopen : t.recognizer = s.recognizer) (hstate : t.state = s.state) : s.Serves t := by
  refine ⟨[], ?_, ?_, ?_⟩
  · rw [usage, usage, hstate, List.append_nil]
  · rw [hopen]
    exact .nil _
  · rw [closes, closes, hstate]
    exact Nat.le_refl _

/-- What is in order on two stretches is in order on both together. -/
theorem trans (hst : s.Serves t) (htu : t.Serves u) : s.Serves u := by
  obtain ⟨es, husage, hused, hcloses⟩ := hst
  obtain ⟨es', husage', hused', hcloses'⟩ := htu
  refine ⟨es ++ es', ?_, hused.append hused', ?_⟩
  · rw [husage', husage, List.append_assoc]
  · rw [Usage.closings_append, List.length_append]
    omega

variable (g : Gateway ω)

/-- A request does to the recognizer what is written down of it, if that is in order. -/
theorem answered {r : Request} {es : List (Usage SessionId)}
    (hes : r.usage (g.minuted.answer r s.stopped s.state).outcome = es) (hnone : closings es = [])
    (hused : Used s.recognizer es s.recognizer) : s.Serves (s.answered g.minuted r) := by
  subst hes
  obtain ⟨hopen, husage, hcloses⟩ | ⟨session, hsession, hopen, husage, hcloses⟩ :=
    s.answered_minuted g r
  · refine ⟨_, husage, ?_, ?_⟩
    · rw [hopen]
      exact hused
    · rw [hnone]
      exact hcloses
  · refine ⟨_, husage.trans (List.append_assoc ..), ?_, ?_⟩
    · rw [hopen]
      refine hused.append ?_
      rw [hsession]
      exact .closed (.nil none)
    · rw [Usage.closings_append, hnone]
      exact hcloses

end Serves

/-- If no recognizer was open at the first station, none was opened since. -/
def Rests (s t : Station (ω × Minutes)) : Prop :=
  s.recognizer = none → t.recognizer = none ∧ t.usage = s.usage ∧ s.closes ≤ t.closes

/-- A recognizer that is not opened on either of two stretches is not opened at all. -/
theorem Rests.trans {s t u : Station (ω × Minutes)} (hst : s.Rests t) (htu : t.Rests u) :
    s.Rests u := by
  intro hs
  obtain ⟨ht, husage, hcloses⟩ := hst hs
  obtain ⟨hu, husage', hcloses'⟩ := htu ht
  exact ⟨hu, husage'.trans husage, Nat.le_trans hcloses hcloses'⟩

end Station

/-! ## Contracts -/

/-- The contract of a script. -/
def Contract.serving : Contract (Station (ω × Minutes)) where
  done := Station.Serves
  crashed := Station.Serves
  refl _ := .of_eq rfl rfl
  trans := .trans
  late := .trans

/-- The contract of what comes before and behind a script. -/
def Contract.resting : Contract (Station (ω × Minutes)) where
  done := Station.Rests
  crashed := Station.Rests
  refl _ hs := ⟨hs, rfl, Nat.le_refl _⟩
  trans := .trans
  late := .trans

/-- What holds behind the answer holds however the request has ended. -/
theorem ask_meets {g : Gateway ω} {r : Request} {st : Station ω} {P : Station ω → Prop} {X : Prop}
    (h : P (st.answered g r)) : (ask g r st).Meets (fun _ => P) P X := by
  obtain ⟨reply, -, hask⟩ | ⟨crash, -, hask⟩ := ask_cases g r st
  · rw [hask]
    exact h
  · rw [hask]
    exact h

section Recognition

variable (g : Gateway ω)

/-- Behind getting a recognizer, that one is open. Between the answer of the gateway and keeping the
new recognizer the minutes are ahead of the station, so this is one move. -/
theorem opened_serves (s : Station (ω × Minutes)) : (Recognizer.opened g.minuted s).Meets
    (fun result t => s.Serves t ∧ ∀ session, result = .ok session → t.recognizer = some session)
    s.Serves := by
  have hgets : Exec.gets Station.recognizer s = .done s.recognizer s := rfl
  unfold Recognizer.opened
  cases hopen : s.recognizer with
  | some session =>
    rw [hopen] at hgets
    rw [Exec.bind_done hgets]
    refine ⟨.of_eq rfl rfl, fun session' h => ?_⟩
    cases h
    exact hopen
  | none =>
    rw [hopen] at hgets
    let noted := s.note ⟨.debug, "Opening text recognizer", []⟩
    have hnoted : s.Serves noted := .of_eq rfl rfl
    have hrecord : record .debug "Opening text recognizer" [] s = .done () noted := rfl
    rw [Exec.bind_done hgets]
    dsimp only
    rw [Exec.bind_done hrecord]
    -- an attempt that fails leaves everything as it is
    have hfailed : Request.usage .openRecognizer
        (g.minuted.answer .openRecognizer noted.stopped noted.state).outcome = [] →
        s.Serves (noted.answered g.minuted .openRecognizer) :=
      fun hnil => hnoted.trans (.answered g hnil rfl (.nil _))
    obtain ⟨reply, hout, hask⟩ | ⟨crash, hout, hask⟩ := ask_cases g.minuted .openRecognizer noted
    · rw [Exec.bind_done hask]
      rw [hout] at hfailed
      cases reply with
      | error fault => exact ⟨hfailed rfl, nofun⟩
      | ok session =>
        refine ⟨?_, fun session' h => by cases h; rfl⟩
        obtain ⟨-, husage, hcloses⟩ | ⟨session', hopen', -⟩ :=
          noted.answered_minuted g .openRecognizer
        · rw [hout] at husage
          refine ⟨[.opened session], husage, ?_, hcloses⟩
          rw [hopen]
          exact .opened (.nil _)
        · have hnone : noted.recognizer = none := hopen
          rw [hnone] at hopen'
          cases hopen'
    · rw [Exec.bind_crashed hask]
      rw [hout] at hfailed
      exact hfailed rfl

/-- A recognizer that is consulted is the one that is open. -/
theorem consult_serves {n : Nat} (bound : Duration) (interval : Option Duration) (looked : Bool)
    (image : Screenshot) :
    (Recognizer.consult g.minuted bound interval looked image).Obeys Contract.serving n := by
  intro s
  refine Outcome.Meets.bind ((opened_serves g s).imp (fun result t ht => ?_) fun _ hc => hc)
  obtain ⟨hst, hopen⟩ := ht
  cases result with
  | error fault => exact hst
  | ok session =>
    have hgets : Exec.gets Station.stopped t = .done t.stopped t := rfl
    dsimp only
    rw [Exec.bind_done hgets]
    have hquery : Used t.recognizer [.queried session] t.recognizer := by
      rw [hopen session rfl]
      exact .queried (.nil _)
    have hasked := hst.trans (.answered g
      (r := .recognize session image bound (interval.map fun i => ⟨!looked && t.stopped, i⟩))
        rfl rfl hquery)
    refine Outcome.Meets.bind ((ask_meets hasked).imp (fun recognition u hu => ?_) fun _ hc => hc)
    cases recognition with
    | answered blocks => exact hu
    | late => exact hu
    | dropped => exact hu.trans (.of_eq rfl rfl)

end Recognition

/-- The moves of a script keep its contract: no script closes the recognizer. -/
theorem conduct_serving (g : Gateway ω) : Conduct g.minuted .serving
    fun r => r.isClose = false where
  note _ _ := .of_eq rfl rfl
  dice _ _ := .of_eq rfl rfl
  stop _ := .of_eq rfl rfl
  routine _ := Request.isClose_eq_false_of_isRoutine
  rest _ := trivial
  look _ _ _ _ := trivial
  ask _ _ _ hr _ _ := ask_meets (.answered g (Request.usage_eq_nil hr _) rfl (.nil _))
  consult _ _ := consult_serves g
  close _ hclose := nomatch hclose 0

/-- Requests that are not for the recognizer open none. -/
theorem conduct_resting (g : Gateway ω) : Conduct g.minuted .resting
    fun r => r.isSession = false where
  note _ _ hs := ⟨hs, rfl, Nat.le_refl _⟩
  dice _ _ hs := ⟨hs, rfl, Nat.le_refl _⟩
  stop _ hs := ⟨hs, rfl, Nat.le_refl _⟩
  routine _ := Request.isSession_eq_false_of_isRoutine
  rest _ := trivial
  look _ _ _ _ := trivial
  ask _ r _ hr st _ := by
    refine ask_meets fun hnone => ?_
    obtain ⟨hopen, husage, hcloses⟩ | ⟨session, hopen, -⟩ := st.answered_minuted g r
    · rw [Request.usage_eq_nil hr, List.append_nil] at husage
      exact ⟨hopen.trans hnone, husage, hcloses⟩
    · rw [hnone] at hopen
      cases hopen
  consult _ hr := nomatch hr .openRecognizer rfl
  close _ hclose := nomatch hclose 0

/-! ## Runs -/

namespace Station

/-- From the first station to the second one nothing has happened to recognizers but that the one
that was open, if any, was closed. -/
def Closes (s t : Station (ω × Minutes)) : Prop :=
  t.recognizer = none ∧ t.usage = s.usage ++ s.recognizer.toList.map .closed ∧ s.closes ≤ t.closes

/-- What was closed stays so if none is opened since. -/
theorem Closes.rests {s t u : Station (ω × Minutes)} (hst : s.Closes t) (htu : t.Rests u) :
    s.Closes u := by
  obtain ⟨hnone, husage, hcloses⟩ := hst
  obtain ⟨hnone', husage', hcloses'⟩ := htu hnone
  exact ⟨hnone', husage'.trans husage, Nat.le_trans hcloses hcloses'⟩

/-- What has been written down at `t`, where the minutes were started at `st`, was in order, and
could have been the work of tasks at a handle. No more recognizers were opened than others have
closed the engine, but for one. -/
structure Orderly (st : Station ω) (t : Station (ω × Minutes)) : Prop where
  used : Used st.recognizer t.usage t.recognizer
  few : (openings t.usage).length ≤ t.closes + 1
  admitted : ∀ (s : Handle) (i : Nat), s.place i = .away → s.lock = none →
    s.held.map Lease.id = st.recognizer → s.Admits t.usage t.recognizer

variable {st : Station ω} {t u : Station (ω × Minutes)}

/-- What is in order since the minutes were started is orderly, and tasks at a handle could have
done it. -/
theorem Serves.orderly (h : st.minuted.Serves t) : st.Orderly t := by
  obtain ⟨es, husage, hused, hcloses⟩ := h
  have husage : t.usage = es := husage
  subst husage
  have hused : Used st.recognizer t.usage t.recognizer := hused
  refine ⟨hused, ?_, fun s i hi hfree hheld => hused.admits hi hfree hheld⟩
  have hlength := hused.length_openings
  have hopen : t.recognizer.toList.length ≤ 1 := by cases t.recognizer <;> simp
  omega

/-- Closing what is open in the end is in order. -/
theorem Orderly.closes (h : st.Orderly t) (htu : t.Closes u) : st.Orderly u := by
  obtain ⟨hnone, husage, hcloses⟩ := htu
  have hclose : Used t.recognizer (t.recognizer.toList.map .closed) u.recognizer := by
    rw [hnone]
    cases t.recognizer with
    | none => exact .nil none
    | some session => exact .closed (.nil none)
  have hused : Used st.recognizer u.usage u.recognizer := by
    rw [husage]
    exact h.used.append hclose
  refine ⟨hused, ?_, fun s i hi hfree hheld => hused.admits hi hfree hheld⟩
  have hsame : openings u.usage = openings t.usage := by
    rw [husage, Usage.openings_append]
    cases t.recognizer <;> simp [openings]
  have hfew := h.few
  rw [hsame]
  omega

/-- If none is left open, all were closed that were open at the start or opened since. -/
theorem Orderly.closings_eq (h : st.Orderly t) (hnone : t.recognizer = none) :
    closings t.usage = st.recognizer.toList ++ openings t.usage := by
  have hbalance := h.used.balance
  rw [hnone] at hbalance
  exact (hbalance.trans (List.append_nil _)).symm

end Station

variable (g : Gateway ω)

/-- However closing the recognizer ends, none is open then. -/
theorem close_meets (s : Station (ω × Minutes)) :
    (Recognizer.close g.minuted s).Meets (fun _ => s.Closes) s.Closes := by
  have hgets : Exec.gets Station.recognizer s = .done s.recognizer s := rfl
  unfold Recognizer.close
  cases hopen : s.recognizer with
  | none =>
    rw [hopen] at hgets
    rw [Exec.bind_done hgets]
    refine ⟨hopen, ?_, Nat.le_refl _⟩
    rw [hopen]
    exact (List.append_nil _).symm
  | some session =>
    rw [hopen] at hgets
    let noted := s.note ⟨.debug, "Closing text recognizer", []⟩
    let taken : Station (ω × Minutes) := { noted with recognizer := none }
    have hrecord : record .debug "Closing text recognizer" [] s = .done () noted := rfl
    have htake : Exec.modify (fun st => { st with recognizer := none }) noted = .done () taken :=
      rfl
    rw [Exec.bind_done hgets]
    dsimp only
    rw [Exec.bind_done hrecord, Exec.bind_done htake]
    -- the handle is empty before the recognizer is told, so nobody else closes it once more
    have hasked : s.Closes (taken.answered g.minuted (.closeRecognizer session)) := by
      obtain ⟨hnone, husage, hcloses⟩ | ⟨session', hopen', -⟩ :=
        taken.answered_minuted g (.closeRecognizer session)
      · refine ⟨hnone, ?_, hcloses⟩
        rw [hopen]
        exact husage
      · cases hopen'
    exact Outcome.Meets.bind (ask_meets hasked)

/-- However winding up a run ends, none is open then. -/
theorem finish_closes (outcome : Except Crash Flow) (s : Station (ω × Minutes)) :
    (Engine.finish g.minuted outcome s).Meets (fun _ => s.Closes) s.Closes := by
  refine Outcome.Meets.bind ((close_meets g s).imp (fun _ t ht => ?_) fun _ hc => hc)
  have hconclude := (conduct_resting g).conclude_meets (n := 0) outcome t
  exact Outcome.Meets.bind (hconclude.imp (fun status u hu => ht.rests hu.1)
    (fun u hu => ht.rests hu) fun _ => trivial)

/-- However a run of the engine ends, recognizers were used in order, and it leaves none open if it
found none open. -/
theorem execute_orderly (config : Config) (fuel : Nat) (lines : List Line) (st : Station ω) :
    (Engine.execute g.minuted config fuel lines st.minuted).Meets
      (fun _ t => t.recognizer = none ∧ st.Orderly t)
      fun t => (st.recognizer = none → t.recognizer = none) ∧ st.Orderly t := by
  let cleared : Station (ω × Minutes) := { st.minuted with stopped := false }
  have hcleared : st.minuted.Serves cleared := .of_eq rfl rfl
  have hserves := (conduct_serving g).announce_obeys (n := 0) rfl lines cleared
  have hrests := (conduct_resting g).announce_obeys (n := 0) rfl lines cleared
  show (Engine.proceed g.minuted config fuel lines cleared).Meets _ _
  refine Outcome.Meets.bind ((hserves.and hrests).imp (fun _ s hs => ?_) fun t ht => ?_)
  · have hscript := (conduct_serving g).interpret_meets (fun _ hr => hr) config fuel lines s
    refine Outcome.Meets.bind (hscript.imp (fun result u hu => ?_) fun _ hc => hc.elim)
    obtain ⟨outcome, frame⟩ := result
    -- a crash of the script keeps the contract too
    have hsu : s.Serves u := by cases outcome <;> exact hu
    have horderly := (hcleared.trans (hs.1.trans hsu)).orderly
    exact Outcome.Meets.bind ((finish_closes g outcome u).imp
      (fun _ t ht => ⟨ht.1, horderly.closes ht⟩) fun t ht => ⟨fun _ => ht.1, horderly.closes ht⟩)
  · exact ⟨fun hnone => (ht.2 hnone).1, (hcleared.trans ht.1).orderly⟩

/-- **No recognizer is lost.** Any number of tasks recognize texts and close the recognizer, each of
them with the lock from its start to its end. In every state that can be reached, one recognizer
more was opened than closed if one is open, and as many otherwise; none was closed twice, and each
query was started while its recognizer was open. What a recognition, a close of the engine and a run
of the engine do at a station, however they end, can be done by tasks at the handle. Behind a close
and behind the report of a run none is open, so all were closed that the run has opened; and it has
opened no more than one, if nobody has closed the engine meanwhile. -/
theorem recognizers_balanced (g : Gateway ω) (config : Config) :
    (∀ s : Handle, Handle.Steps .start s →
      ((openings s.history).length : Int) - (closings s.history).length =
        (if s.held.isSome then 1 else 0) ∧
      (openings s.history).Nodup ∧ (closings s.history).Nodup ∧
      ∀ front lease back, s.history = front ++ .queried lease :: back →
        lease ∈ openings front ∧ lease ∉ closings front) ∧
    ∀ st : Station ω,
      (∀ bound interval image,
        (Recognizer.recognize? g.minuted bound interval image st.minuted).Meets
        (fun _ => st.Orderly) st.Orderly) ∧
      (Engine.close g.minuted st.minuted).Meets (fun _ t => t.recognizer = none ∧ st.Orderly t)
        (fun t => t.recognizer = none ∧ st.Orderly t) ∧
      ∀ fuel lines, (Engine.execute g.minuted config fuel lines st.minuted).Meets
        (fun _ t => t.recognizer = none ∧
          closings t.usage = st.recognizer.toList ++ openings t.usage ∧
          (t.closes = 0 → (openings t.usage).length ≤ 1) ∧ st.Orderly t)
        fun t =>
          (st.recognizer = none → t.recognizer = none ∧ closings t.usage = openings t.usage) ∧
          st.Orderly t := by
  -- the states of the tasks first, then a recognition, a close and a run at a station
  refine ⟨fun s hs => ?_, fun st => ⟨fun bound interval image => ?_, ?_, fun fuel lines => ?_⟩⟩
  · have hsound := Handle.sound_start.steps hs
    refine ⟨hsound.balance, hsound.nodup, hsound.used.nodup_closings hsound.nodup,
      fun front lease back heq => ?_⟩
    have hused := hsound.used
    have hnodup := hsound.nodup
    rw [heq] at hused hnodup
    exact hused.query_of_nodup hnodup
  · have hreading : ∀ r : Request, r.isReading → r.isClose = false := by
      rintro (_ | _) h <;> first | rfl | cases h
    exact ((conduct_serving g).recognize_obeys (n := 0) hreading bound interval image
      st.minuted).imp (fun _ t ht => ht.orderly) fun t ht => ht.orderly
  · let stopped : Station (ω × Minutes) := { st.minuted with stopped := true }
    have hstopped : st.minuted.Serves stopped := .of_eq rfl rfl
    exact (close_meets g stopped).imp (fun _ t ht => ⟨ht.1, hstopped.orderly.closes ht⟩)
      fun t ht => ⟨ht.1, hstopped.orderly.closes ht⟩
  · refine (execute_orderly g config fuel lines st).imp (fun _ t ht => ?_) fun t ht => ?_
    · obtain ⟨hnone, horderly⟩ := ht
      refine ⟨hnone, horderly.closings_eq hnone, fun hcloses => ?_, horderly⟩
      have hfew := horderly.few
      rwa [hcloses] at hfew
    · obtain ⟨hnone, horderly⟩ := ht
      refine ⟨fun hst => ⟨hnone hst, ?_⟩, horderly⟩
      have hclosings := horderly.closings_eq (hnone hst)
      rwa [hst] at hclosings

/-- A close waits while a recognition has the lock, and then takes its recognizer away; the next
recognition opens another one, to which the gateway gives the same number. -/
theorem recognizers_balanced_reopened : ∃ s : Handle, Handle.Steps .start s ∧
    s.held = some ⟨1, 7⟩ ∧ s.history = [.opened ⟨0, 7⟩, .queried ⟨0, 7⟩, .closed ⟨0, 7⟩,
      .opened ⟨1, 7⟩] ++ .queried ⟨1, 7⟩ :: [] ∧
    ((openings s.history).length : Int) - (closings s.history).length = 1 ∧
    (closings s.history).Nodup ∧ ⟨1, 7⟩ ∉ closings
      [.opened ⟨0, 7⟩, .queried ⟨0, 7⟩, .closed ⟨0, 7⟩, (.opened ⟨1, 7⟩ : Usage Lease)] := by
  have hwaiting : Handle.Steps .start (Handle.start.moved 1 (.waiting .close)) :=
    .single (.issue .close rfl)
  have hfirst := (hwaiting.trans (Handle.steps_opened (i := 0) rfl rfl 7 rfl)).trans
    (Handle.steps_queried (i := 0) rfl rfl rfl)
  have hclosed := (hfirst.tail (.enter (i := 1) rfl rfl)).tail (.shut (i := 1) rfl rfl rfl)
  have hsecond := (hclosed.trans (Handle.steps_opened (i := 0) rfl rfl 7 rfl)).trans
    (Handle.steps_queried (i := 0) rfl rfl rfl)
  have hbalanced := (recognizers_balanced Device.gateway {}).1 _ hsecond
  exact ⟨_, hsecond, rfl, rfl, hbalanced.1, hbalanced.2.2.1, (hbalanced.2.2.2 _ _ [] rfl).2⟩

end TapScript
