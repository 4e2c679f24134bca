import Mathlib.Logic.Relation
import TapScript.Proofs.Lock
import TapScript.Proofs.Stop

/-! # The interval of a run

All runs of an engine share one stop flag, and each of them clears it when it starts. Here any
number of runs wait for one lock, while anybody may set the flag at any time. The interval of a run
goes from the moment when it clears the flag to the moment when it reads how it has ended. Since a
run clears the flag behind taking the lock, and reads its status before giving the lock back, no
other run clears the flag in between.

* `Occurrence` is what happens to the flag, `Occurrence.flagAfter` is the flag behind some moments.
* `Runs` is the state of all runs, `Runs.Step` is one step of one of them, or of somebody who sets
  the flag or looks at it. `Runs.Sound` is the invariant.
* `Contract.drifting` sees a run at a station as such moments.
* `status_tells_interval` says what the status of a run tells about its interval, and that the runs
  of the engine go through these steps. -/

namespace TapScript

/-! ## What happens to the stop flag -/

/-- What happens to the stop flag. -/
inductive Occurrence where
  /-- A run clears the flag. -/
  | reset (run : Nat)
  /-- Somebody sets the flag: whoever stops or closes the engine, or the script of a run. -/
  | set
  /-- Somebody looks at the flag. -/
  | seen (stopped : Bool)
  /-- A run reads how it has ended. -/
  | judged (run : Nat) (status : Status)
deriving DecidableEq, Repr

namespace Occurrence

/-- The flag behind the moment. -/
def after (stopped : Bool) : Occurrence → Bool
  | reset _ => false
  | set => true
  | seen _ | judged .. => stopped

/-- The flag behind some moments. -/
def flagAfter (stopped : Bool) (ms : List Occurrence) : Bool := ms.foldl after stopped

/-- Moments come one after the other. -/
theorem flagAfter_append (stopped : Bool) (ms ms' : List Occurrence) :
    flagAfter stopped (ms ++ ms') = flagAfter (flagAfter stopped ms) ms' :=
  List.foldl_append

/-- As long as nobody clears the flag, it is set if it was set before or somebody has set it. -/
theorem flagAfter_eq_true_iff {ms : List Occurrence} (h : ∀ i, reset i ∉ ms) (stopped : Bool) :
    flagAfter stopped ms = true ↔ stopped = true ∨ set ∈ ms := by
  induction ms generalizing stopped with
  | nil => simp [flagAfter]
  | cons m ms ih =>
    have hms : ∀ i, reset i ∉ ms := fun i hi => h i (List.mem_cons_of_mem m hi)
    rw [flagAfter, List.foldl_cons, ← flagAfter, ih hms, List.mem_cons]
    cases m with
    | reset i => exact absurd (List.mem_cons_self) (h i)
    | set => simp [after]
    | seen b => simp [after]
    | judged i status => simp [after]

end Occurrence

/-- Unless the run has crashed, its status tells whether the flag was set at some of the moments. -/
def Status.Tells (ms : List Occurrence) : Status → Prop
  | .completed => .set ∉ ms
  | .stopped => .set ∈ ms
  | .crashed _ => True

/-- The history ends with the interval of the run: `before` are the moments before it has cleared
the flag, for the first time, and `between` the moments since then, in which nobody has cleared the
flag. -/
structure Interval (history : List Occurrence) (i : Nat) (before between : List Occurrence) :
    Prop where
  split : history = before ++ .reset i :: between
  first : .reset i ∉ before
  alone : ∀ j, .reset j ∉ between

namespace Interval

variable {history before between : List Occurrence} {i : Nat}
  (h : Interval history i before between)

include h

/-- The interval of a run grows until somebody clears the flag. -/
theorem concat {m : Occurrence} (hm : ∀ j, m ≠ .reset j) :
    Interval (history ++ [m]) i before (between ++ [m]) where
  split := by rw [h.split, List.append_assoc, List.cons_append]
  first := h.first
  alone j hj := by
    rcases List.mem_append.1 hj with hj | hj
    · exact h.alone j hj
    · exact hm j (List.mem_singleton.1 hj).symm

/-- The flag is set in the end if somebody has set it in the interval. -/
theorem flagAfter_iff : Occurrence.flagAfter false history = true ↔ .set ∈ between := by
  have hreset : Occurrence.after (Occurrence.flagAfter false before) (.reset i) = false := rfl
  rw [h.split, Occurrence.flagAfter_append, Occurrence.flagAfter, List.foldl_cons, hreset,
    ← Occurrence.flagAfter, Occurrence.flagAfter_eq_true_iff h.alone]
  simp

/-- In the interval the flag is not cleared once it is set. -/
theorem lasting {u v w : List Occurrence} (hbetween : between = u ++ v ++ w)
    (hset : Occurrence.flagAfter false (before ++ .reset i :: u) = true) :
    Occurrence.flagAfter false (before ++ .reset i :: (u ++ v)) = true := by
  have hv : ∀ j, .reset j ∉ v := by
    intro j hj
    apply h.alone j
    rw [hbetween]
    simp [hj]
  have hsplit : before ++ .reset i :: (u ++ v) = (before ++ .reset i :: u) ++ v := by simp
  rw [hsplit, Occurrence.flagAfter_append, Occurrence.flagAfter_eq_true_iff hv]
  exact .inl hset

end Interval

/-! ## Histories -/

/-- What the moment has to be like behind a history: who looks at the flag sees how it is, and the
status of a run tells what has happened in its interval. -/
def Occurrence.Fits (history : List Occurrence) : Occurrence → Prop
  | .seen stopped => stopped = flagAfter false history
  | .judged i status => ∃ before between, Interval history i before between ∧ status.Tells between
  | _ => True

/-- All moments of the history are as they have to be. -/
def Lawful (history : List Occurrence) : Prop :=
  ∀ front m back, history = front ++ m :: back → m.Fits front

/-- One more moment that is as it has to be leaves the history lawful. -/
theorem Lawful.concat {history : List Occurrence} (h : Lawful history) {m : Occurrence}
    (hm : m.Fits history) : Lawful (history ++ [m]) := by
  intro front m' back heq
  rcases List.eq_nil_or_concat back with rfl | ⟨back', last, rfl⟩
  · obtain ⟨rfl, hlast⟩ := List.append_inj' heq rfl
    cases hlast
    exact hm
  · rw [List.concat_eq_append, ← List.cons_append, ← List.append_assoc] at heq
    exact h front m' back' (List.append_inj' heq rfl).1

/-! ## The runs of an engine -/

/-- How far a run has come. -/
inductive Stage where
  /-- It has not been called. -/
  | away
  /-- It waits for the lock. -/
  | waiting
  /-- It has the lock. -/
  | entered
  /-- It has cleared the flag; the script is run. -/
  | running
  /-- The script has ended, with a crash or without; the recognizer is being closed. -/
  | ended (crash : Option String)
  | cleaned (crash : Option String)
  /-- It has read its status. -/
  | judged (status : Status)
  /-- It has given the lock back and reported its status. -/
  | left (status : Status)
  /-- It was given up before it could report. -/
  | gone
deriving DecidableEq, Repr

namespace Stage

/-- Whether a run at this stage has the lock. -/
def holdsLock : Stage → Bool
  | entered | running | ended _ | cleaned _ | judged _ => true
  | _ => false

/-- Whether the run has not cleared the flag yet, but may do so. -/
def isEarly : Stage → Bool
  | away | waiting | entered => true
  | _ => false

/-- Whether the run is in its interval. -/
def isInside : Stage → Bool
  | running | ended _ | cleaned _ => true
  | _ => false

/-- A run that is inside has the lock. -/
theorem holdsLock_of_isInside {x : Stage} (h : x.isInside) : x.holdsLock := by
  cases x <;> first | rfl | cases h

end Stage

/-- What a run that has ended, with a crash or without, reads from the flag. -/
def Status.read (crash : Option String) (stopped : Bool) : Status :=
  match crash with
  | some message => .crashed message
  | none => if stopped then .stopped else .completed

/-- The state of all runs of an engine. -/
structure Runs where
  /-- The run that has the lock. -/
  lock : Option Nat
  flag : Bool
  stage : Nat → Stage
  history : List Occurrence

namespace Runs

/-- No run has been called. -/
def start : Runs := ⟨none, false, fun _ => .away, []⟩

/-- One run has come to another stage. -/
def moved (s : Runs) (i : Nat) (x : Stage) : Runs := { s with stage := Function.update s.stage i x }

/-- Something has happened to the flag. -/
def marked (s : Runs) (m : Occurrence) : Runs :=
  { s with flag := m.after s.flag, history := s.history ++ [m] }

/-- A step of one of the runs, or of somebody else. -/
inductive Step : Runs → Runs → Prop
  | call {s : Runs} {i : Nat} (h : s.stage i = .away) : Step s (s.moved i .waiting)
  | enter {s : Runs} {i : Nat} (h : s.stage i = .waiting) (hfree : s.lock = none) :
    Step s { s.moved i .entered with lock := some i }
  | reset {s : Runs} {i : Nat} (h : s.stage i = .entered) :
    Step s ((s.moved i .running).marked (.reset i))
  /-- Anybody looks at the flag at any time. -/
  | look (s : Runs) : Step s (s.marked (.seen s.flag))
  /-- Anybody sets the flag at any time. -/
  | stop (s : Runs) : Step s (s.marked .set)
  | finish {s : Runs} {i : Nat} (crash : Option String) (h : s.stage i = .running) :
    Step s (s.moved i (.ended crash))
  | clean {s : Runs} {i : Nat} {crash : Option String} (h : s.stage i = .ended crash) :
    Step s (s.moved i (.cleaned crash))
  | judge {s : Runs} {i : Nat} {crash : Option String} (h : s.stage i = .cleaned crash) :
    Step s ((s.moved i (.judged (.read crash s.flag))).marked (.judged i (.read crash s.flag)))
  | leave {s : Runs} {i : Nat} {status : Status} (h : s.stage i = .judged status) :
    Step s { s.moved i (.left status) with lock := none }
  /-- A run is given up while it waits. -/
  | abandon {s : Runs} {i : Nat} (h : s.stage i = .waiting) : Step s (s.moved i .gone)
  /-- A run is given up while it has the lock, or crashes outside of its script. -/
  | drop {s : Runs} {i : Nat} (h : (s.stage i).holdsLock) :
      Step s { s.moved i .gone with lock := none }

/-- Some steps one after the other. -/
abbrev Steps : Runs → Runs → Prop := Relation.ReflTransGen Step

/-! ## The invariant -/

/-- Only the run with the lock is in its interval, and the history is as it has to be. -/
structure Sound (s : Runs) : Prop where
  flag : s.flag = Occurrence.flagAfter false s.history
  owned : Locked Stage.holdsLock s.lock s.stage
  early : ∀ i, (s.stage i).isEarly → .reset i ∉ s.history
  inside : ∀ i, (s.stage i).isInside → ∃ before between, Interval s.history i before between
  lawful : Lawful s.history

/-- At the start there are no runs, and nothing has happened. -/
theorem sound_start : start.Sound where
  flag := rfl
  owned i := by simp [start, Stage.holdsLock]
  early _ _ := List.not_mem_nil
  inside _ h := nomatch h
  lawful front m back h := by simp [start] at h

variable {s : Runs} (h : s.Sound)

include h

/-- A run may come to another stage if it does not come into its interval by that. -/
theorem Sound.moved {i : Nat} {x : Stage} {lock : Option Nat}
    (howned : Locked Stage.holdsLock lock (Function.update s.stage i x))
    (hearly : x.isEarly → (s.stage i).isEarly) (hinside : x.isInside → (s.stage i).isInside) :
    Sound { s.moved i x with lock } where
  flag := h.flag
  owned := howned
  early j hj := by
    by_cases hji : j = i
    · subst hji
      simp only [Runs.moved, Function.update_self] at hj
      exact h.early j (hearly hj)
    · simp only [Runs.moved, Function.update_of_ne hji] at hj
      exact h.early j hj
  inside j hj := by
    by_cases hji : j = i
    · subst hji
      simp only [Runs.moved, Function.update_self] at hj
      exact h.inside j (hinside hj)
    · simp only [Runs.moved, Function.update_of_ne hji] at hj
      exact h.inside j hj
  lawful := h.lawful

/-- Everything but clearing the flag leaves the intervals of the runs open. -/
theorem Sound.marked {m : Occurrence} (hm : ∀ j, m ≠ .reset j) (hfits : m.Fits s.history) :
    (s.marked m).Sound where
  flag := by
    simp only [Runs.marked, Occurrence.flagAfter_append, ← h.flag]
    rfl
  owned := h.owned
  early j hj hmem := by
    rcases List.mem_append.1 hmem with hmem | hmem
    · exact h.early j hj hmem
    · exact hm j (List.mem_singleton.1 hmem).symm
  inside j hj := by
    obtain ⟨before, between, hinterval⟩ := h.inside j hj
    exact ⟨before, between ++ [m], hinterval.concat hm⟩
  lawful := h.lawful.concat hfits

/-- The run that clears the flag has the lock, so no other run is in its interval. -/
theorem Sound.reset {i : Nat} (hi : s.stage i = .entered) :
    ((s.moved i .running).marked (.reset i)).Sound := by
  have hholds : (s.stage i).holdsLock = true := by
    rw [hi]
    rfl
  constructor
  · simp only [Runs.marked, Occurrence.flagAfter_append]
    rfl
  · exact h.owned.move hholds.symm
  · intro j hj hmem
    by_cases hji : j = i
    · subst hji
      simp [Runs.marked, Runs.moved, Stage.isEarly] at hj
    · simp only [Runs.marked, Runs.moved, Function.update_of_ne hji] at hj
      rcases List.mem_append.1 hmem with hmem | hmem
      · exact h.early j hj hmem
      · cases List.mem_singleton.1 hmem
        exact hji rfl
  · intro j hj
    by_cases hji : j = i
    · subst hji
      exact ⟨s.history, [], rfl, h.early j (by rw [hi]; rfl), fun _ => List.not_mem_nil⟩
    · simp only [Runs.marked, Runs.moved, Function.update_of_ne hji] at hj
      exact absurd (h.owned.unique (Stage.holdsLock_of_isInside hj) hholds) hji
  · exact h.lawful.concat trivial

/-- What a run reads in the end tells about its interval. -/
theorem Sound.tells {i : Nat} {crash : Option String} (hi : s.stage i = .cleaned crash) :
    (Occurrence.judged i (.read crash s.flag)).Fits s.history := by
  obtain ⟨before, between, hinterval⟩ := h.inside i (by rw [hi]; rfl)
  refine ⟨before, between, hinterval, ?_⟩
  cases crash with
  | some message => trivial
  | none =>
    have hflag := hinterval.flagAfter_iff
    rw [← h.flag] at hflag
    cases hs : s.flag with
    | true => exact hflag.1 hs
    | false => exact fun hset => absurd (hflag.2 hset) (by simp [hs])

/-- Every step keeps the invariant. -/
theorem Sound.step {t : Runs} (hstep : Step s t) : t.Sound := by
  cases hstep with
  | call hi => exact h.moved (h.owned.move (by rw [hi]; rfl)) (fun _ => by rw [hi]; rfl) nofun
  | enter hi hfree => exact h.moved (h.owned.take hfree rfl) (fun _ => by rw [hi]; rfl) nofun
  | reset hi => exact h.reset hi
  | look => exact h.marked nofun h.flag
  | stop => exact h.marked nofun trivial
  | finish crash hi =>
    exact h.moved (h.owned.move (by rw [hi]; rfl)) nofun fun _ => by rw [hi]; rfl
  | clean hi => exact h.moved (h.owned.move (by rw [hi]; rfl)) nofun fun _ => by rw [hi]; rfl
  | @judge i crash hi =>
    have hmoved : (s.moved i (.judged (.read crash s.flag))).Sound :=
      h.moved (h.owned.move (by rw [hi]; rfl)) nofun nofun
    exact hmoved.marked nofun (h.tells hi)
  | leave hi => exact h.moved (h.owned.giveBack (by rw [hi]; rfl) rfl) nofun nofun
  | abandon hi => exact h.moved (h.owned.move (by rw [hi]; rfl)) nofun nofun
  | drop hi => exact h.moved (h.owned.giveBack hi rfl) nofun nofun

/-- The invariant holds behind any number of steps. -/
theorem Sound.steps {t : Runs} (hsteps : Steps s t) : t.Sound := by
  induction hsteps with
  | refl => exact h
  | tail _ hstep ih => exact ih.step hstep

end Runs

/-! ## Runs at a station -/

/-- From the first flag to the second one, nothing has happened but looks at the flag and that it
was set. -/
inductive Drift : Bool → List Occurrence → Bool → Prop
  | nil (stopped : Bool) : Drift stopped [] stopped
  | seen {stopped stopped' : Bool} {ms : List Occurrence} (h : Drift stopped ms stopped') :
    Drift stopped (.seen stopped :: ms) stopped'
  | set {stopped stopped' : Bool} {ms : List Occurrence} (h : Drift true ms stopped') :
    Drift stopped (.set :: ms) stopped'

namespace Drift

variable {b c : Bool} {ms : List Occurrence} (h : Drift b ms c)

include h

/-- What drifts up to a moment, and from there on, drifts as a whole. -/
theorem append {d : Bool} {ms' : List Occurrence} (h' : Drift c ms' d) : Drift b (ms ++ ms') d := by
  induction h with
  | nil => exact h'
  | seen _ ih => exact .seen (ih h')
  | set _ ih => exact .set (ih h')

/-- Nobody clears a flag that drifts. -/
theorem not_mem_reset (i : Nat) : .reset i ∉ ms := by
  induction h with
  | nil => exact List.not_mem_nil
  | seen _ ih => simp [ih]
  | set _ ih => simp [ih]

/-- The moments lead from the first flag to the second one. -/
theorem flagAfter_eq : Occurrence.flagAfter b ms = c := by
  induction h with
  | nil => rfl
  | seen _ ih => exact ih
  | set _ ih => exact ih

/-- Whatever the runs are doing, somebody may look at the flag and set it. -/
theorem steps {s : Runs} (hs : s.flag = b) :
    Runs.Steps s { s with flag := c, history := s.history ++ ms } := by
  induction h generalizing s with
  | nil =>
    subst hs
    rw [List.append_nil]
  | @seen b c ms _ ih =>
    subst hs
    refine .head (.look s) ?_
    have hrest := ih (s := s.marked (.seen s.flag)) rfl
    simp only [Runs.marked, List.append_assoc, List.singleton_append] at hrest
    exact hrest
  | @set b c ms _ ih =>
    refine .head (.stop s) ?_
    have hrest := ih (s := s.marked .set) rfl
    simp only [Runs.marked, List.append_assoc, List.singleton_append] at hrest
    exact hrest

end Drift

/-- How the flag was found by those who have looked at it. -/
def Occurrence.samples (ms : List Occurrence) : List Bool :=
  ms.filterMap fun
    | .seen stopped => some stopped
    | _ => none

variable {ω : Type}

/-- From the first station to the second one the flag has drifted, and each request was a look at
it. -/
def Station.Drifts (s t : Station (ω × List Event)) : Prop :=
  ∃ (ms : List Occurrence) (es : List Event), Drift s.stopped ms t.stopped ∧
    t.trace = s.trace ++ es ∧ Occurrence.samples ms = es.map Event.stopped

namespace Station.Drifts

/-- Where nothing happens the flag stays. -/
theorem refl (s : Station (ω × List Event)) :
    s.Drifts s := ⟨[], [], .nil _, (List.append_nil _).symm, rfl⟩

/-- Two drifts, one behind the other, are one. -/
theorem trans {s t u : Station (ω × List Event)} (hst : s.Drifts t) (htu : t.Drifts u) :
    s.Drifts u := by
  obtain ⟨ms, es, hdrift, htrace, hsamples⟩ := hst
  obtain ⟨ms', es', hdrift', htrace', hsamples'⟩ := htu
  refine ⟨ms ++ ms', es ++ es', hdrift.append hdrift', ?_, ?_⟩
  · rw [htrace', htrace, List.append_assoc]
  · rw [Occurrence.samples, List.filterMap_append, ← Occurrence.samples, ← Occurrence.samples,
      hsamples, hsamples', List.map_append]

/-- What was traced before is still in the trace. -/
theorem subset {s t : Station (ω × List Event)} (h : s.Drifts t) : s.trace ⊆ t.trace := by
  obtain ⟨_, es, -, htrace, -⟩ := h
  rw [htrace]
  exact List.subset_append_left _ es

/-- What has nothing to do with the flag. -/
theorem of_eq {s t : Station (ω × List Event)} (hstop : t.stopped = s.stopped)
    (htrace : t.trace = s.trace) : s.Drifts t :=
  ⟨[], [], hstop ▸ .nil _, by rw [htrace, List.append_nil], rfl⟩

/-- Setting the flag is a drift. -/
theorem stop (s : Station (ω × List Event)) : s.Drifts { s with stopped := true } :=
  ⟨[.set], [], .set (.nil true), (List.append_nil _).symm, rfl⟩

/-- One request that leaves the flag alone. -/
theorem request {s t : Station (ω × List Event)} {e : Event} (he : e.stopped = s.stopped)
    (hstop : t.stopped = s.stopped) (htrace : t.trace = s.trace ++ [e]) : s.Drifts t :=
  ⟨[.seen s.stopped], [e], hstop ▸ .seen (.nil _), htrace, by simp [Occurrence.samples, he]⟩

variable (g : Gateway ω) (s : Station (ω × List Event))

/-- Closing the recognizer does not touch the flag. -/
theorem release : s.Drifts (s.release g.traced) := by
  unfold Station.release
  split
  · exact refl s
  · exact request (e := g.event (fun _ => false) _ s.stopped s.state) rfl rfl rfl

/-- A request is a look at the flag, and whatever somebody else does meanwhile can only set it. -/
theorem answered (r : Request) : s.Drifts (s.answered g.traced r) ∧
    g.event (fun _ => false) r s.stopped s.state ∈ (s.answered g.traced r).trace := by
  let asked : Station (ω × List Event) :=
    { s with state := (g.traced.answer r s.stopped s.state).state }
  have hasked : s.Drifts asked :=
    request (e := g.event (fun _ => false) r s.stopped s.state) rfl rfl rfl
  have hmem : g.event (fun _ => false) r s.stopped s.state ∈ asked.trace :=
    List.mem_append_right _ List.mem_cons_self
  simp only [Station.answered]
  cases (g.traced.answer r s.stopped s.state).signal with
  | none => exact ⟨hasked, hmem⟩
  | stop => exact ⟨hasked.trans (stop _), hmem⟩
  | close =>
    have hrelease := release g { asked with stopped := true }
    exact ⟨(hasked.trans (stop _)).trans hrelease, hrelease.subset hmem⟩

end Station.Drifts

/-- The contract that the flag only drifts; behind a crash there is a crash in the trace. -/
def Contract.drifting : Contract (Station (ω × List Event)) where
  done := Station.Drifts
  crashed s t := s.Drifts t ∧ ∃ e ∈ t.trace, e.crashed
  refl := .refl
  trans := .trans
  late hst htu := ⟨hst.trans htu.1, htu.2⟩

/-- Whatever a script does, the flag only drifts. -/
theorem conduct_drifting (g : Gateway ω) : Conduct g.traced .drifting fun _ => True := by
  refine .of_moves ⟨fun _ _ => .of_eq rfl rfl, fun _ _ => .of_eq rfl rfl, Station.Drifts.stop,
    fun _ _ => trivial, fun _ => trivial, fun _ _ _ _ => trivial⟩ (fun n r _ st _ => ?_)
    fun _ _ => .of_eq rfl rfl
  obtain ⟨hanswered, hmem⟩ := Station.Drifts.answered g st r
  obtain ⟨reply, -, hask⟩ | ⟨crash, hcrash, hask⟩ := ask_cases g.traced r st
  · rw [hask]
    exact hanswered
  · rw [hask]
    refine ⟨hanswered, _, hmem, ?_⟩
    have hcrash : (g.answer r st.stopped st.state.1).outcome = .error crash := hcrash
    simp only [Gateway.event, hcrash]

/-- How a run of the engine has gone that was the run `i`. There are the moments of its interval, in
which the looks at the flag are the requests of the run. Its status tells whether the flag was set
at some of them, unless there was a crash. Wherever the run waits for a free lock, it goes through
the steps of a run with these moments. -/
def Outcome.IsTurn (i : Nat) (o : Outcome (Station (ω × List Event)) Report) : Prop :=
  o.Meets
    (fun report t => ∃ ms, Drift false ms t.stopped ∧ Occurrence.samples ms =
      t.trace.map Event.stopped ∧ report.status.Tells ms ∧
      ((∀ e ∈ t.trace, e.crashed = false) → ∀ m, report.status ≠ .crashed m) ∧ ∀ s : Runs,
      s.stage i = .waiting → s.lock = none →
        Runs.Steps s ⟨none, t.stopped, Function.update s.stage i (.left report.status),
          s.history ++ .reset i :: (ms ++ [.judged i report.status])⟩)
    fun t => ∃ ms, Drift false ms t.stopped ∧ Occurrence.samples ms = t.trace.map Event.stopped ∧
      ∀ s : Runs, s.stage i = .waiting → s.lock = none →
        Runs.Steps s ⟨none, t.stopped, Function.update s.stage i .gone, s.history ++ .reset i :: ms⟩

namespace Runs

variable {s : Runs} {i : Nat} (hi : s.stage i = .waiting) (hfree : s.lock = none)
  {ms : List Occurrence} {stopped : Bool} (hdrift : Drift false ms stopped)

include hi hfree hdrift

/-- A run that finds the lock free clears the flag, and then the flag drifts. -/
theorem steps_running :
    Steps s ⟨some i, stopped, Function.update s.stage i .running, s.history ++ .reset i :: ms⟩ := by
  have hself : ∀ {x : Stage}, Function.update s.stage i x i = x := Function.update_self ..
  have hentered : Steps s { s.moved i .entered with lock := some i } := .single (.enter hi hfree)
  have hreset := hentered.tail (.reset (i := i) hself)
  simp only [moved, marked, Function.update_idem, Occurrence.after] at hreset
  refine hreset.trans ?_
  have hrest := hdrift.steps
    (s := ⟨some i, false, Function.update s.stage i .running, s.history ++ [.reset i]⟩) rfl
  simp only [List.append_assoc, List.singleton_append] at hrest
  exact hrest

/-- It reads its status, gives the lock back and reports. -/
theorem steps_left (crash : Option String) :
    Steps s ⟨none, stopped, Function.update s.stage i (.left (.read crash stopped)),
      s.history ++ .reset i :: (ms ++ [.judged i (.read crash stopped)])⟩ := by
  have hself : ∀ {x : Stage}, Function.update s.stage i x i = x := Function.update_self ..
  have hrunning := steps_running hi hfree hdrift
  have hended := hrunning.tail (.finish (i := i) crash hself)
  simp only [moved, Function.update_idem] at hended
  have hcleaned := hended.tail (.clean (i := i) hself)
  simp only [moved, Function.update_idem] at hcleaned
  have hjudged := hcleaned.tail (.judge (i := i) hself)
  simp only [moved, marked, Function.update_idem, List.append_assoc, List.cons_append] at hjudged
  have hleft := hjudged.tail (.leave (i := i) hself)
  simp only [moved, Function.update_idem] at hleft
  exact hleft

/-- Or it is given up. -/
theorem steps_gone :
    Steps s ⟨none, stopped, Function.update s.stage i .gone, s.history ++ .reset i :: ms⟩ := by
  have hrunning := steps_running hi hfree hdrift
  have hgone := hrunning.tail (.drop (i := i) (by simp [Stage.holdsLock]))
  simp only [moved, Function.update_idem] at hgone
  exact hgone

end Runs

/-- Every run of the engine is such a run. -/
theorem execute_isTurn (g : Gateway ω) (config : Config) (fuel : Nat) (lines : List Line)
    (st : Station ω) (i : Nat) :
    (Engine.execute g.traced config fuel lines st.traced).IsTurn i := by
  have hproceed := (conduct_drifting g).proceed_meets (fun _ => trivial) And.left config fuel lines
    { st.traced with stopped := false }
  refine hproceed.imp (fun report t ht => ?_) (fun t ht => ?_) fun h => h
  · obtain ⟨⟨ms, es, hdrift, htrace, hsamples⟩, hexplains⟩ := ht
    have htrace : t.trace = es := htrace
    have hflag := (Occurrence.flagAfter_eq_true_iff hdrift.not_mem_reset false).symm
    rw [hdrift.flagAfter_eq] at hflag
    refine ⟨ms, hdrift, htrace ▸ hsamples, ?_⟩
    -- the status tells the flag, and the flag whether somebody has set it meanwhile
    cases hstatus : report.status with
    | completed =>
      rw [hstatus] at hexplains
      have hclear : t.stopped = false := hexplains
      refine ⟨fun hset => ?_, fun _ => nofun, fun s hi hfree => ?_⟩
      · rw [hflag.1 (.inr hset)] at hclear
        cases hclear
      · rw [hclear]
        exact Runs.steps_left hi hfree (hclear ▸ hdrift) none
    | stopped =>
      rw [hstatus] at hexplains
      have hset : t.stopped = true := hexplains
      refine ⟨(hflag.2 hset).resolve_left nofun, fun _ => nofun, fun s hi hfree => ?_⟩
      rw [hset]
      exact Runs.steps_left hi hfree (hset ▸ hdrift) none
    | crashed message =>
      rw [hstatus] at hexplains
      obtain ⟨u, ⟨-, e, he, hcrash⟩, hrest⟩ := hexplains
      refine ⟨trivial, fun hnone => ?_,
        fun s hi hfree => Runs.steps_left hi hfree hdrift (some message)⟩
      rw [hnone e (Station.Drifts.subset hrest he)] at hcrash
      cases hcrash
  · obtain ⟨⟨ms, es, hdrift, htrace, hsamples⟩, -⟩ := ht
    have htrace : t.trace = es := htrace
    exact ⟨ms, hdrift, htrace ▸ hsamples, fun s hi hfree => Runs.steps_gone hi hfree hdrift⟩

/-- Somebody has stopped the engine, whatever else has happened to the flag meanwhile, and however
it has ended for them. -/
def Outcome.IsStop {α : Type} (stopped : Bool) (o : Outcome (Station (ω × List Event)) α) : Prop :=
  let stops := fun t : Station (ω × List Event) => ∃ ms, .set ∈ ms ∧ Drift stopped ms t.stopped ∧
    ∀ s : Runs, s.flag = stopped → Runs.Steps s
      { s with flag := t.stopped, history := s.history ++ ms }
  o.Meets (fun _ => stops) stops

/-- Who closes the engine stops it. -/
theorem close_isStop (g : Gateway ω) (st : Station ω) :
    (Engine.close g.traced st.traced).IsStop st.stopped := by
  have hclose := (conduct_drifting g).close 0 (fun _ => trivial) { st.traced with stopped := true }
  have hstops : ∀ t : Station (ω × List Event),
      Station.Drifts { st.traced with stopped := true } t → ∃ ms, .set ∈ ms ∧
        Drift st.stopped ms t.stopped ∧ ∀ s : Runs, s.flag = st.stopped →
          Runs.Steps s { s with flag := t.stopped, history := s.history ++ ms } := by
    rintro t ⟨ms, es, hdrift, -, -⟩
    have hset : Drift st.stopped (.set :: ms) t.stopped := .set hdrift
    exact ⟨.set :: ms, List.mem_cons_self, hset, fun s hs => hset.steps hs⟩
  exact hclose.imp (fun _ t ht => hstops t ht) (fun t ht => hstops t ht.1) fun h => h

/-- **The stop flag lasts and decides the status.** Any number of runs wait for the lock of one
engine, while anybody may set the flag at any time. In every state that can be reached, the interval
of a run, which goes from where it has cleared the flag to where it reads its status, holds no
moment at which a run clears the flag. So the flag stays set in it once it is set, and unless the
run has crashed, its status is `stopped` if the flag was set at some moment of the interval, and
`completed` otherwise. Every run of the engine goes through these steps, and does not report a crash
if there was none; and so does everybody who closes the engine. -/
theorem status_tells_interval (g : Gateway ω) (config : Config) :
    (∀ s : Runs, Runs.Steps .start s →
      (∀ i, (s.stage i).isInside → ∃ before between, Interval s.history i before between) ∧
      (∀ front stopped back, s.history = front ++ .seen stopped :: back →
        stopped = Occurrence.flagAfter false front) ∧
      ∀ i status front back, s.history = front ++ .judged i status :: back →
        ∃ before between, Interval front i before between ∧
          (∀ u v w, between = u ++ v ++ w →
            Occurrence.flagAfter false (before ++ .reset i :: u) = true →
            Occurrence.flagAfter false (before ++ .reset i :: (u ++ v)) = true) ∧
          status.Tells between) ∧
    (∀ fuel lines st i, (Engine.execute g.traced config fuel lines (Station.traced st)).IsTurn i) ∧
    ∀ st : Station ω, (Engine.close g.traced st.traced).IsStop st.stopped := by
  refine ⟨fun s hs => ?_, execute_isTurn g config, close_isStop g⟩
  have hsound := Runs.sound_start.steps hs
  refine ⟨hsound.inside, fun front stopped back heq => hsound.lawful front _ back heq,
    fun i status front back heq => ?_⟩
  obtain ⟨before, between, hinterval, htells⟩ := hsound.lawful front _ back heq
  exact ⟨before, between, hinterval, fun u v w => hinterval.lasting, htells⟩

/-- Two runs are called at once. The first one is stopped, and the second one completes although it
was waiting then. -/
theorem status_tells_interval_queued : ∃ s : Runs, Runs.Steps .start s ∧
    s.history = [.reset 0, .seen false, .set, .judged 0 .stopped, .reset 1, .seen false] ++
      .judged 1 .completed :: [] ∧
    ∃ before between,
      Interval [.reset 0, .seen false, .set, .judged 0 .stopped, .reset 1, .seen false] 1
        before between ∧
      (∀ u v w, between = u ++ v ++ w →
        Occurrence.flagAfter false (before ++ .reset 1 :: u) = true →
        Occurrence.flagAfter false (before ++ .reset 1 :: (u ++ v)) = true) ∧
      Status.completed.Tells between := by
  have hcalled : Runs.Steps .start ((Runs.start.moved 0 .waiting).moved 1 .waiting) :=
    (Relation.ReflTransGen.single (.call rfl)).tail (.call rfl)
  have hfirst := hcalled.trans
    (Runs.steps_left (i := 0) rfl rfl (.seen (.set (.nil true)) : Drift false _ _) none)
  have hsecond := hfirst.trans
    (Runs.steps_left (i := 1) rfl rfl (.seen (.nil false) : Drift false _ _) none)
  refine ⟨_, hsecond, rfl, ?_⟩
  exact ((status_tells_interval Device.gateway {}).1 _ hsecond).2.2 1 .completed _ [] rfl

end TapScript
