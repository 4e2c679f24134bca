import Mathlib.Algebra.Ring.Nat
import TapScript.Proofs.Transcript
import TapScript.Proofs.Waiting

/-! # Sleeping in slices

A sleep looks at the stop flag, reads the clock and sleeps for a slice, again and again. What it
does can be read off the transcript, and then it does not matter what the clock shows or when the
stop comes.

* `Tick` is what a wait does; `Station.ticks` reads it off the transcript, and `Station.Waits` says
  that nothing else has happened between two stations.
* `sleepUntil_meets` gives the course of a sleep: naps, each of them a look that finds the flag
  clear, a reading and a slice that fits into the time left, and at the end the look or the reading
  that decides.
* `Tick.Paced` says that the clock never goes back and that no slice is shorter than requested. Then
  all slices together fit into the duration (`Tick.Paced.add_requested_le`), and a sleep ends.
* `PollTimer.next_meets` is about one turn of a poll timer, which sleeps for its share of the
  budget.
* `sleep_keeps_to_its_time` puts this together. -/

namespace TapScript

variable {ω : Type}

/-! ## What a wait does -/

/-- What a wait does: it looks at the stop flag and finds it set or not, it reads the clock, behind
which the flag is set or not, or it sleeps for a slice, which begins with the flag set or not. -/
inductive Tick where
  | look (stopped : Bool)
  | reading (now : Nat) (stopped : Bool)
  | slice (length : Duration) (stopped : Bool)
deriving DecidableEq, Repr

/-- What a request with its answer is to a wait. The flag before it is `stopped`. -/
def Request.tick? (stopped : Bool) (signal : Signal) :
    (r : Request) → Except Crash r.Reply → Option Tick
  | .checkpoint, .ok _ => some (.look (stopped || signal != .none))
  | .clock, .ok now => some (.reading now (stopped || signal != .none))
  | .pause duration, _ => some (.slice duration stopped)
  | _, _ => none

namespace Exchange

/-- What an exchange is to a wait. -/
def tick? (stopped : Bool) (e : Exchange) : Option Tick :=
  e.request.tick? stopped e.signal e.outcome

/-- The stop flag behind the exchanges. -/
def flag (stopped : Bool) (es : List Exchange) : Bool := stopped || es.any (·.signal != .none)

/-- What the exchanges are to a wait that begins with the flag `stopped`. -/
def ticks : Bool → List Exchange → List Tick
  | _, [] => []
  | stopped, e :: es => (e.tick? stopped).toList ++ ticks (stopped || e.signal != .none) es

/-- Exchanges set the flag one after the other. -/
theorem flag_append (stopped : Bool) (es fs : List Exchange) :
    flag stopped (es ++ fs) = flag (flag stopped es) fs := by
  simp [flag, Bool.or_assoc]

/-- The ticks of two stretches are those of both, where the second one begins with the flag as the
first has left it. -/
theorem ticks_append (stopped : Bool) (es fs : List Exchange) :
    ticks stopped (es ++ fs) = ticks stopped es ++ ticks (flag stopped es) fs := by
  induction es generalizing stopped with
  | nil => simp [ticks, flag]
  | cons e es ih => simp [ticks, ih, flag, Bool.or_assoc]

/-- Once the flag is set, no look finds it clear. -/
theorem look_false_notMem_ticks (es : List Exchange) : .look false ∉ ticks true es := by
  induction es with
  | nil => exact List.not_mem_nil
  | cons e es ih =>
    have htick : .look false ∉ (e.tick? true).toList := by
      unfold tick? Request.tick?
      split <;> simp
    exact fun h => (List.mem_append.1 h).elim htick ih

end Exchange

/-! ## Keeping pace with the clock -/

namespace Tick

/-- The clock keeps pace: it shows `start` or less before the ticks and `finish` or more behind
them, it never goes back, and no slice takes less time than requested. -/
def Paced : (start : Nat) → List Tick → (finish : Nat) → Prop
  | start, [], finish => start ≤ finish
  | start, look _ :: ts, finish => Paced start ts finish
  | start, reading now _ :: ts, finish => start ≤ now ∧ Paced now ts finish
  | start, slice length _ :: ts, finish => Paced (start + length) ts finish

/-- The slice that a tick requests. -/
def length : Tick → Nat
  | slice length _ => length
  | _ => 0

/-- All slices together. -/
def requested (ts : List Tick) : Nat := (ts.map length).sum

/-- Without ticks nothing is requested. -/
@[simp] theorem requested_nil : requested [] = 0 := rfl

/-- A tick adds the slice that it requests. -/
@[simp] theorem requested_cons (t : Tick) (ts : List Tick) :
    requested (t :: ts) = t.length + requested ts := rfl

/-- What is requested on two stretches is the sum of both. -/
@[simp] theorem requested_append (ts us : List Tick) :
    requested (ts ++ us) = requested ts + requested us := by
  simp [requested]

/-- An earlier start is kept pace with too. -/
theorem Paced.of_le {before start finish : Nat} {ts : List Tick} (h : Paced start ts finish)
    (hle : before ≤ start) : Paced before ts finish := by
  induction ts generalizing before start with
  | nil => exact Nat.le_trans hle h
  | cons t ts ih =>
    cases t with
    | look stopped => exact ih h hle
    | reading now stopped => exact ⟨Nat.le_trans hle h.1, h.2⟩
    | slice length stopped => exact ih h (Nat.add_le_add_right hle length)

/-- To keep pace on two stretches is to keep pace up to a time between them, and from there on. -/
theorem paced_append {start finish : Nat} {ts us : List Tick} :
    Paced start (ts ++ us) finish ↔ ∃ now, Paced start ts now ∧ Paced now us finish := by
  induction ts generalizing start with
  | nil => exact ⟨fun h => ⟨start, Nat.le_refl _, h⟩, fun ⟨_, hle, h⟩ => h.of_le hle⟩
  | cons t ts ih =>
    cases t with
    | look stopped => exact ih
    | slice length stopped => exact ih
    | reading now stopped => simp only [List.cons_append, Paced, ih, and_assoc, exists_and_left]

/-- A later finish is kept pace with too. -/
theorem Paced.to_le {start finish after : Nat} {ts : List Tick} (h : Paced start ts finish)
    (hle : finish ≤ after) : Paced start ts after := by
  have hbehind : Paced start (ts ++ []) after := paced_append.2 ⟨finish, h, hle⟩
  rwa [List.append_nil] at hbehind

end Tick

/-- The gateway keeps pace by `time`: no answer turns it back, a slice takes the time requested, and
the clock shows a time between the one at which it is asked and the one at which it has answered. -/
structure Gateway.KeepsPace (g : Gateway ω) (time : ω → Nat) : Prop where
  onward : ∀ r stopped w, time w ≤ time (g.answer r stopped w).state
  slice : ∀ length stopped w, time w + length ≤ time (g.answer (.pause length) stopped w).state
  shown : ∀ stopped w (now : Nat), (g.answer .clock stopped w).outcome = .ok now →
    time w ≤ now ∧ now ≤ time (g.answer .clock stopped w).state

namespace Gateway.KeepsPace

variable {g : Gateway ω} {time : ω → Nat}

/-- A transcript does not change the pace. -/
theorem transcribed (h : g.KeepsPace time) : g.transcribed.KeepsPace fun w => time w.1 :=
  ⟨fun r stopped w => h.onward r stopped w.1, fun length stopped w => h.slice length stopped w.1,
    fun stopped w now => h.shown stopped w.1 now⟩

/-- What a request is to a wait keeps pace. -/
theorem paced_tick? (h : g.KeepsPace time) (r : Request) (stopped : Bool) (w : ω) :
    Tick.Paced (time w) ((g.exchange r stopped w).tick? stopped).toList
      (time (g.answer r stopped w).state) := by
  unfold Exchange.tick? Gateway.exchange Request.tick?
  dsimp only
  split
  · exact h.onward _ _ _
  · next hnow => exact h.shown _ _ _ hnow
  · exact h.slice _ _ _
  · exact h.onward _ _ _

end Gateway.KeepsPace

/-! ## Stations between which a wait goes on -/

namespace Station

variable {g : Gateway ω} {s t u : Station (ω × List Exchange)} {ts us : List Tick}

/-- What the run has done since `s` to wait, read off the transcript at `t`. -/
def ticks (s t : Station (ω × List Exchange)) : List Tick :=
  Exchange.ticks s.stopped (t.transcript.drop s.transcript.length)

/-- Between the stations `s` and `t` the run has done nothing but wait, by the given ticks. They
keep pace if the gateway does. -/
def Waits (g : Gateway ω) (s t : Station (ω × List Exchange)) (ts : List Tick) : Prop :=
  ∃ es, t.transcript = s.transcript ++ es ∧ (∀ e ∈ es, e.request.isWait ∨ e.request.isClose) ∧
    t.stopped = Exchange.flag s.stopped es ∧ Exchange.ticks s.stopped es = ts ∧
    ∀ time, g.KeepsPace time → Tick.Paced (time s.state.1) ts (time t.state.1)

/-- Two waits, one behind the other, are one. -/
theorem Waits.trans (h : s.Waits g t ts) (h' : t.Waits g u us) : s.Waits g u (ts ++ us) := by
  obtain ⟨es, htranscript, hwaits, hflag, rfl, hpaced⟩ := h
  obtain ⟨fs, htranscript', hwaits', hflag', rfl, hpaced'⟩ := h'
  refine ⟨es ++ fs, by rw [htranscript', htranscript, List.append_assoc], ?_, ?_, ?_, ?_⟩
  · intro e he
    exact (List.mem_append.1 he).elim (hwaits e) (hwaits' e)
  · rw [hflag', hflag, Exchange.flag_append]
  · rw [Exchange.ticks_append, hflag]
  · exact fun time htime => Tick.paced_append.2 ⟨_, hpaced time htime, hpaced' time htime⟩

/-- A wait keeps pace if the gateway does. -/
theorem Waits.paced (h : s.Waits g t ts) {time : ω → Nat} (htime : g.KeepsPace time) :
    Tick.Paced (time s.state.1) ts (time t.state.1) := by
  obtain ⟨es, -, -, -, -, hpaced⟩ := h
  exact hpaced time htime

/-- A flag that is set stays set. -/
theorem Waits.stopped_eq_true (h : s.Waits g t ts) (hs : s.stopped = true) : t.stopped = true := by
  obtain ⟨es, -, -, hflag, -⟩ := h
  rw [hflag, hs]
  rfl

/-- If the flag is set from the start, then no look finds it clear. -/
theorem Waits.look_false_notMem (h : s.Waits g t ts) (hs : s.stopped = true) :
    .look false ∉ ts := by
  obtain ⟨es, -, -, -, rfl, -⟩ := h
  rw [hs]
  exact Exchange.look_false_notMem_ticks es

/-- A request of a wait is one step of it. -/
theorem waits_answered {r : Request} (hr : r.isWait) (s : Station (ω × List Exchange)) :
    s.Waits g (s.answered g.transcribed r) ((s.exchange g r).tick? s.stopped).toList := by
  obtain ⟨es, hes, hclose, htranscript⟩ := s.transcript_answered g r
  have hrelease : ∀ e ∈ es, e.request.isClose = true := by
    rcases hes with rfl | ⟨session, stopped, w, rfl⟩
    · exact fun e he => nomatch he
    · exact fun e he => List.mem_singleton.1 he ▸ rfl
  have hticks : ∀ stopped, Exchange.ticks stopped es = [] := by
    rcases hes with rfl | ⟨session, stopped, w, rfl⟩ <;> exact fun _ => rfl
  -- a recognizer is released only where the answer has set the flag
  have hsignals : ((s.exchange g r).signal != .none || es.any (·.signal != .none)) =
      ((s.exchange g r).signal != .none) := by
    by_cases hnil : es = []
    · rw [hnil, List.any_nil, Bool.or_false]
    · rw [hclose hnil]
      rfl
  refine ⟨s.exchange g r :: es, htranscript, ?_, ?_, ?_, ?_⟩
  · intro e he
    rcases List.mem_cons.1 he with rfl | he
    · exact .inl hr
    · exact .inr (hrelease e he)
  · rw [stopped_answered_eq, Exchange.flag, List.any_cons, hsignals]
    rfl
  · rw [Exchange.ticks, hticks, List.append_nil]
  · intro time htime
    exact (htime.paced_tick? r s.stopped s.state.1).to_le
      (time_answered htime.transcribed.onward r s)

end Station

/-! ## Looks, readings and slices -/

section Requests

variable (g : Gateway ω) (s : Station (ω × List Exchange))

/-- What a request of a wait does, by the two ways in which it may end. -/
theorem ask_waits (r : Request) (hr : r.isWait) :
    (ask g.transcribed r s).Meets
      (fun reply t => t = s.answered g.transcribed r ∧
        s.Waits g t (r.tick? s.stopped (s.exchange g r).signal (.ok reply)).toList)
      (fun t => ∃ crash,
        s.Waits g t (r.tick? s.stopped (s.exchange g r).signal (.error crash)).toList) False := by
  have hwaits := s.waits_answered (g := g) hr
  obtain ⟨reply, hreply, hask⟩ | ⟨crash, hcrash, hask⟩ := ask_cases g.transcribed r s
  · have houtcome : (s.exchange g r).outcome = .ok reply := hreply
    rw [Exchange.tick?, houtcome] at hwaits
    rw [hask]
    exact ⟨rfl, hwaits⟩
  · have houtcome : (s.exchange g r).outcome = .error crash := hcrash
    rw [Exchange.tick?, houtcome] at hwaits
    rw [hask]
    exact ⟨crash, hwaits⟩

/-- Looking at the flag is a tick that tells what it was, and the flag is so behind it. -/
theorem stopRequested_waits :
    (stopRequested g.transcribed s).Meets
      (fun found t => s.Waits g t [.look found] ∧ t.stopped = found) (fun t => s.Waits g t [])
      False := by
  refine Outcome.Meets.bind ((ask_waits g s .checkpoint rfl).imp ?_ fun t ⟨_, ht⟩ => ht)
  rintro ⟨⟩ t ⟨rfl, ht⟩
  refine ⟨?_, rfl⟩
  rw [Station.stopped_answered_eq]
  exact ht

/-- Reading the clock. -/
theorem clock_waits :
    (clock g.transcribed s).Meets (fun now t => s.Waits g t [.reading now t.stopped])
      (fun t => s.Waits g t []) False := by
  refine (ask_waits g s .clock rfl).imp ?_ fun t ⟨_, ht⟩ => ht
  rintro now t ⟨rfl, ht⟩
  rw [Station.stopped_answered_eq]
  exact ht

/-- A panic of the wait itself is no tick. -/
theorem raise_waits {α : Type} {Q : α → Station (ω × List Exchange) → Prop} (message : String) :
    (raise g.transcribed message s).Meets Q (fun t => s.Waits g t []) False :=
  Outcome.Meets.bind ((ask_waits g s (.panic message) rfl).imp (fun never _ _ => never.elim)
    fun _ ⟨_, ht⟩ => ht)

/-- A pause is a tick that requests a slice, also if the gateway crashes. -/
theorem pause_waits (length : Duration) :
    (pause g.transcribed length s).Meets (fun _ t => s.Waits g t [.slice length s.stopped])
      (fun t => s.Waits g t [.slice length s.stopped]) False :=
  (ask_waits g s (.pause length) rfl).imp (fun _ _ ht => ht.2) fun _ ⟨_, ht⟩ => ht

end Requests

/-! ## The course of a sleep -/

/-- One round of a sleep: the reading of the clock, and the slice that is requested after it. -/
structure Nap where
  now : Nat
  length : Nat
  /-- Whether a stop has been requested between the look and the slice. -/
  stopped : Bool

namespace Nap

/-- A round begins with a look that finds the flag clear. What the flag is when the slice begins is
decided by the time the clock is read. -/
def ticks (nap : Nap) : List Tick :=
  [.look false, .reading nap.now nap.stopped, .slice nap.length nap.stopped]

/-- A nap as it should be: the time has not come, the slice is short enough and fits into the time
left. -/
structure Fits (slice : Duration) (deadline : Nat) (nap : Nap) : Prop where
  early : nap.now < deadline
  short : nap.length ≤ slice
  due : nap.now + nap.length ≤ deadline

/-- The naps of a sleep: all of them are as they should be, and only the last one may meet a stop
between its look and its slice. -/
structure Series (slice : Duration) (deadline : Nat) (naps : List Nap) : Prop where
  fits : ∀ nap ∈ naps, nap.Fits slice deadline
  last : ∀ nap ∈ naps.dropLast, nap.stopped = false

/-- A sleep may take no naps. -/
theorem Series.nil {slice : Duration} {deadline : Nat} : Series slice deadline [] :=
  ⟨nofun, nofun⟩

/-- A nap can be put in front of others if it meets no stop. -/
theorem Series.cons {slice : Duration} {deadline : Nat} {nap : Nap} {naps : List Nap}
    (hnap : nap.Fits slice deadline) (hnaps : Series slice deadline naps)
    (hlast : naps ≠ [] → nap.stopped = false) :
    Series slice deadline (nap :: naps) where
  fits := List.forall_mem_cons.2 ⟨hnap, hnaps.fits⟩
  last := by
    cases naps with
    | nil => exact nofun
    | cons next naps => exact List.forall_mem_cons.2 ⟨hlast (List.cons_ne_nil _ _), hnaps.last⟩

/-- Every nap begins with a look. -/
theorem look_false_mem {naps : List Nap} (hnaps : naps ≠ []) (ending : List Tick) :
    .look false ∈ naps.flatMap ticks ++ ending := by
  cases naps with
  | nil => exact absurd rfl hnaps
  | cons nap naps => simp [ticks]

end Nap

/-- How a sleep ends: with a look that finds the flag set, or with one that finds it clear and a
reading that shows that the time has come. -/
inductive Wakes (deadline : Nat) : List Tick → Bool → Prop
  | stopped : Wakes deadline [.look true] false
  | due {now : Nat} {stopped : Bool} (h : deadline ≤ now) :
      Wakes deadline [.look false, .reading now stopped] true

/-- The slice that is requested fits if the time has not come. -/
theorem Nap.fits_of_lt {slice : Duration} {deadline now : Nat} (hnow : now < deadline)
    (stopped : Bool) : Fits slice deadline ⟨now, min (deadline - now) slice, stopped⟩ where
  early := hnow
  short := Nat.min_le_right _ _
  due := by
    have hle : min (deadline - now) slice ≤ deadline - now := Nat.min_le_left _ _
    show now + min (deadline - now) slice ≤ deadline
    omega

/-- A round takes time: it uses up one of the rounds that the time left is good for. -/
theorem Nap.add_succ_le {slice deadline now before after fuel : Nat} {stopped : Bool}
    (hround : Tick.Paced before (Nap.ticks ⟨now, min (deadline - now) slice, stopped⟩) after)
    (hdue : ¬deadline ≤ now) (hpos : 0 < slice) (hrest : fuel = 0 ∨ after + fuel ≤ deadline) :
    before + (fuel + 1) ≤ deadline := by
  have hlength : 0 < min (deadline - now) slice :=
    Nat.lt_min.2 ⟨Nat.sub_pos_of_lt (Nat.lt_of_not_le hdue), hpos⟩
  obtain ⟨hbefore, hafter⟩ : before ≤ now ∧ now + min (deadline - now) slice ≤ after := hround
  omega

/-- The course of a sleep, by induction on the rounds that are allowed. With a clock that keeps
pace, each round takes time, so the rounds are not all used if there are more of them than there is
time left. -/
theorem sleepUntil_meets (g : Gateway ω) (slice : Duration) (deadline fuel : Nat)
    (s : Station (ω × List Exchange)) :
    (sleepUntil g.transcribed slice deadline fuel s).Meets
      (fun slept t => ∃ (naps : List Nap) (ending : List Tick),
        s.Waits g t (naps.flatMap Nap.ticks ++ ending) ∧ Nap.Series slice deadline naps ∧
        Wakes deadline ending slept)
      (fun t => ∃ (naps : List Nap) (ending : List Tick),
        s.Waits g t (naps.flatMap Nap.ticks ++ ending) ∧ Nap.Series slice deadline naps ∧
        (ending = [] ∨ ending = [.look false]))
      (∀ time, g.KeepsPace time → 0 < slice → fuel = 0 ∨ time s.state.1 + fuel ≤ deadline) := by
  induction fuel generalizing s with
  | zero => exact fun _ _ _ => .inl rfl
  | succ fuel ih =>
    refine Outcome.Meets.bind ((stopRequested_waits g s).imp ?_
      (fun t ht => ⟨[], [], ht, .nil, .inl rfl⟩) False.elim)
    rintro found t ⟨hlook, hfound⟩
    cases found with
    | true => exact ⟨[], [.look true], hlook, .nil, .stopped⟩
    | false =>
      refine Outcome.Meets.bind ((clock_waits g t).imp ?_
        (fun u hu => ⟨[], [.look false], hlook.trans hu, .nil, .inr rfl⟩) False.elim)
      rintro now u hreading
      by_cases hdue : deadline ≤ now
      · rw [if_pos hdue]
        exact ⟨[], [.look false, .reading now u.stopped], hlook.trans hreading, .nil, .due hdue⟩
      · rw [if_neg hdue]
        let nap : Nap := ⟨now, min (deadline - now) slice, u.stopped⟩
        have hfits : nap.Fits slice deadline :=
          Nap.fits_of_lt (Nat.lt_of_not_le hdue) _
        have hnap : ∀ {v}, u.Waits g v [.slice nap.length nap.stopped] → s.Waits g v nap.ticks :=
          (hlook.trans hreading).trans
        refine Outcome.Meets.bind ((pause_waits g u nap.length).imp ?_
          (fun v hv => ⟨[nap], [], hnap hv, .cons hfits .nil fun h => absurd rfl h, .inl rfl⟩)
          False.elim)
        rintro ⟨⟩ v hslice
        -- the rounds behind this one, as the induction gives them, go on from here
        have hcons : ∀ {naps : List Nap} {ending : List Tick} {w},
            v.Waits g w (naps.flatMap Nap.ticks ++ ending) → Nap.Series slice deadline naps →
            s.Waits g w ((nap :: naps).flatMap Nap.ticks ++ ending) ∧
              Nap.Series slice deadline (nap :: naps) := by
          intro naps ending w hwaits hseries
          refine ⟨(hnap hslice).trans hwaits, hseries.cons hfits fun hnaps => ?_⟩
          refine Bool.eq_false_iff.2 fun hstopped => ?_
          exact hwaits.look_false_notMem (hslice.stopped_eq_true hstopped)
            (Nap.look_false_mem hnaps ending)
        refine (ih v).imp ?_ ?_ ?_
        · rintro slept w ⟨naps, ending, hwaits, hseries, hwakes⟩
          obtain ⟨hwaits, hseries⟩ := hcons hwaits hseries
          exact ⟨nap :: naps, ending, hwaits, hseries, hwakes⟩
        · rintro w ⟨naps, ending, hwaits, hseries, hending⟩
          obtain ⟨hwaits, hseries⟩ := hcons hwaits hseries
          exact ⟨nap :: naps, ending, hwaits, hseries, hending⟩
        · intro htired time htime hpos
          have hround := (hnap hslice).paced htime
          exact .inr (Nap.add_succ_le hround hdue hpos (htired time htime hpos))

/-! ## All slices together -/

/-- What a sleep of `duration` in slices of at most `slice` does, if its deadline is a time of the
clock: it reads the clock, takes its naps and ends as given. With a clock that keeps pace, all
slices together are no longer than the sleep should be. -/
structure Sleeps (duration slice : Duration) (start : Nat) (naps : List Nap)
    (ending ts : List Tick) :
    Prop where
  course : ∃ stopped, ts = .reading start stopped :: (naps.flatMap Nap.ticks ++ ending)
  inTime : start + duration < endOfTime
  series : Nap.Series slice (start + duration) naps
  total : (∃ before after, Tick.Paced before ts after) → Tick.requested ts ≤ duration

/-- The slices of the naps fit one behind the other between the first reading and the deadline. -/
theorem Tick.Paced.add_requested_le {slice : Duration} {deadline start finish : Nat}
    {naps : List Nap} (hnaps : ∀ nap ∈ naps, nap.Fits slice deadline) (hstart : start ≤ deadline)
    (h : Paced start (naps.flatMap Nap.ticks) finish) :
    start + requested (naps.flatMap Nap.ticks) ≤ deadline := by
  induction naps generalizing start with
  | nil => exact hstart
  | cons nap naps ih =>
    obtain ⟨hnap, hnaps⟩ := List.forall_mem_cons.1 hnaps
    obtain ⟨after, ⟨hle, hafter⟩, hrest⟩ := paced_append.1 h
    have hrounds : nap.now + nap.length + requested (naps.flatMap Nap.ticks) ≤ deadline :=
      ih hnaps hnap.due (hrest.of_le hafter)
    have hround : requested nap.ticks = nap.length := by simp [Nap.ticks, length]
    rw [List.flatMap_cons, requested_append, hround]
    omega

/-- The naps of a sleep are no longer than the sleep, if nothing is requested behind them. -/
theorem Nap.Series.sleeps {duration slice : Duration} {start : Nat} {naps : List Nap}
    {ending : List Tick} {stopped : Bool} (htime : start + duration < endOfTime)
    (hnaps : Series slice (start + duration) naps) (hending : Tick.requested ending = 0) :
    Sleeps duration slice start naps ending
      (.reading start stopped :: (naps.flatMap Nap.ticks ++ ending)) where
  course := ⟨stopped, rfl⟩
  inTime := htime
  series := hnaps
  total := by
    rintro ⟨before, after, -, hpaced⟩
    obtain ⟨now, hpaced, -⟩ := Tick.paced_append.1 hpaced
    have hsum := hpaced.add_requested_le hnaps.fits (Nat.le_add_right _ _)
    have htotal : Tick.requested (naps.flatMap Nap.ticks) ≤ duration :=
      Nat.le_of_add_le_add_left hsum
    simpa [Tick.length, hending] using htotal

/-- Nothing is requested at the end of a sleep. -/
theorem Wakes.requested_eq {deadline : Nat} {ending : List Tick} {slept : Bool}
    (h : Wakes deadline ending slept) : Tick.requested ending = 0 := by
  cases h <;> rfl

/-- The course of a sleep: it panics if its deadline is no time of the clock, and otherwise it
sleeps until then. -/
theorem sleep_meets (g : Gateway ω) (fuel : Nat) (duration slice : Duration)
    (s : Station (ω × List Exchange)) :
    (sleep g.transcribed fuel duration slice s).Meets
      (fun slept t => ∃ start naps ending ts, s.Waits g t ts ∧
        Sleeps duration slice start naps ending ts ∧ Wakes (start + duration) ending slept)
      (fun t => s.Waits g t [] ∨
        (∃ start stopped, endOfTime ≤ start + duration ∧ s.Waits g t [.reading start stopped]) ∨
        ∃ start naps ending ts, s.Waits g t ts ∧ Sleeps duration slice start naps ending ts ∧
          (ending = [] ∨ ending = [.look false]))
      (∀ time, g.KeepsPace time → 0 < slice → fuel ≤ duration) := by
  refine Outcome.Meets.bind ((clock_waits g s).imp ?_ (fun t ht => .inl ht) False.elim)
  intro start t hreading
  by_cases hlate : endOfTime ≤ start + duration
  · rw [if_pos hlate]
    exact (raise_waits g t _).imp (fun _ _ h => h)
      (fun u hu => .inr (.inl ⟨start, _, hlate, hreading.trans hu⟩)) False.elim
  · rw [if_neg hlate]
    have htime : start + duration < endOfTime := Nat.lt_of_not_le hlate
    refine (sleepUntil_meets g slice (start + duration) fuel t).imp ?_ ?_ ?_
    · rintro slept u ⟨naps, ending, hwaits, hseries, hwakes⟩
      exact ⟨start, naps, ending, _, hreading.trans hwaits,
        hseries.sleeps htime hwakes.requested_eq, hwakes⟩
    · rintro u ⟨naps, ending, hwaits, hseries, hending⟩
      have hzero : Tick.requested ending = 0 := by rcases hending with rfl | rfl <;> rfl
      exact .inr (.inr
        ⟨start, naps, ending, _, hreading.trans hwaits, hseries.sleeps htime hzero, hending⟩)
    · intro htired time htime hpos
      obtain ⟨-, hshown⟩ := hreading.paced htime
      have hshown : start ≤ time t.state.1 := hshown
      rcases htired time htime hpos with rfl | hle
      · exact Nat.zero_le _
      · have hle : start + fuel ≤ start + duration :=
          Nat.le_trans (Nat.add_le_add_right hshown fuel) hle
        exact Nat.le_of_add_le_add_left hle

namespace PollTimer

variable {slice : Duration} {timer : PollTimer} {ts : List Tick}

/-- How long the timer sleeps if the clock shows `now`: until the next sample is due, but not longer
than the budget lasts. -/
def share (timer : PollTimer) (now : Nat) : Duration :=
  min timer.interval (timer.budget - (now - timer.started))

/-- What one turn of the timer does, and whether it then asks for another sample. -/
inductive Takes (slice : Duration) (timer : PollTimer) : List Tick → Bool → Prop
  | stopped : Takes slice timer [.look true] false
  | spent {now : Nat} {stopped : Bool} (h : timer.budget ≤ now - timer.started) :
      Takes slice timer [.look false, .reading now stopped] false
  | cut {now again start : Nat} {stopped stopped' : Bool} {naps : List Nap} {ts : List Tick}
      (left : now - timer.started < timer.budget)
      (sleeps : Sleeps (timer.share again) slice start naps [.look true] ts) :
      Takes slice timer
        (.look false :: .reading now stopped :: .reading again stopped' :: ts) false
  | slept {now again start later : Nat} {stopped stopped' stopped'' found : Bool}
      {naps : List Nap} {ts : List Tick}
      (left : now - timer.started < timer.budget)
      (sleeps :
        Sleeps (timer.share again) slice start naps [.look false, .reading later stopped''] ts)
      (due : start + timer.share again ≤ later) :
      Takes slice timer (.look false :: .reading now stopped :: .reading again stopped' ::
        (ts ++ [.look found])) (!found)

/-- If the clock keeps pace, then all slices together last no longer than the interval, and no
longer than what is left of the budget by the first reading. -/
def Spares (timer : PollTimer) (ts : List Tick) : Prop :=
  (∃ before after, Tick.Paced before ts after) → Tick.requested ts ≤ timer.interval ∧
    ∀ now stopped us, ts = .look false :: .reading now stopped :: us →
      Tick.requested ts ≤ timer.budget - (now - timer.started)

/-- Where nothing is requested, none of the time left is taken. -/
theorem spares_of_requested_eq (h : Tick.requested ts = 0) : timer.Spares ts :=
  fun _ => ⟨h ▸ Nat.zero_le _, fun _ _ _ _ => h ▸ Nat.zero_le _⟩

/-- A turn that sleeps keeps to the interval and the budget, whatever it does behind the sleep
without another slice. -/
theorem spares_of_sleeps {again start : Nat} {naps : List Nap} {ending : List Tick}
    (h : Sleeps (timer.share again) slice start naps ending ts) (now : Nat)
    (stopped stopped' : Bool) (us : List Tick) (hus : Tick.requested us = 0) :
    timer.Spares
      (.look false :: .reading now stopped :: .reading again stopped' :: (ts ++ us)) := by
  rintro ⟨before, after, -, hagain, hpaced⟩
  obtain ⟨later, hpaced, -⟩ := Tick.paced_append.1 hpaced
  have htotal : Tick.requested ts ≤ timer.share again := h.total ⟨again, later, hpaced⟩
  have hrequested : Tick.requested
      (.look false :: .reading now stopped :: .reading again stopped' :: (ts ++ us)) =
        Tick.requested ts := by
    simp [Tick.length, hus]
  rw [hrequested]
  refine ⟨Nat.le_trans htotal (Nat.min_le_left _ _), ?_⟩
  rintro now' flag vs hcons
  obtain rfl : now = now' := by
    injection hcons with _ hcons
    injection hcons with hnow _
    injection hnow
  -- the second reading leaves no more of the budget than the first
  have hless : timer.budget - (again - timer.started) ≤ timer.budget - (now - timer.started) :=
    Nat.sub_le_sub_left (Nat.sub_le_sub_right hagain _) _
  exact Nat.le_trans (Nat.le_trans htotal (Nat.min_le_right _ _)) hless

/-- The time that has passed is read off the clock in one tick. -/
theorem elapsed_waits (g : Gateway ω) (timer : PollTimer) (s : Station (ω × List Exchange)) :
    (timer.elapsed g.transcribed s).Meets
      (fun elapsed t => ∃ now, elapsed = now - timer.started ∧ s.Waits g t [.reading now t.stopped])
      (fun t => s.Waits g t []) False :=
  Outcome.Meets.bind ((clock_waits g s).imp (fun now _ ht => ⟨now, rfl, ht⟩) fun _ ht => ht)

/-- Between two samples a timer looks at the clock and sleeps, and no longer than there is time
left. -/
theorem next_meets (g : Gateway ω) (fuel : Nat) (timer : PollTimer) (slice : Duration)
    (s : Station (ω × List Exchange)) :
    (timer.next g.transcribed fuel slice s).Meets
      (fun more t => ∃ ts, s.Waits g t ts ∧ timer.Takes slice ts more ∧ timer.Spares ts ∧
        (t.stopped = true → more = false))
      (fun t => ∃ ts, s.Waits g t ts ∧ timer.Spares ts)
      (∀ time, g.KeepsPace time → 0 < slice → fuel ≤ timer.interval) := by
  refine Outcome.Meets.bind ((stopRequested_waits g s).imp ?_
    (fun t ht => ⟨_, ht, spares_of_requested_eq rfl⟩) False.elim)
  rintro found t ⟨hlook, -⟩
  cases found with
  | true => exact ⟨_, hlook, .stopped, spares_of_requested_eq rfl, fun _ => rfl⟩
  | false =>
    refine Outcome.Meets.bind ((elapsed_waits g timer t).imp ?_
      (fun u hu => ⟨_, hlook.trans hu, spares_of_requested_eq rfl⟩) False.elim)
    rintro elapsed u ⟨now, rfl, hreading⟩
    by_cases hspent : timer.budget ≤ now - timer.started
    · rw [if_pos hspent]
      exact ⟨_, hlook.trans hreading, .spent hspent, spares_of_requested_eq rfl, fun _ => rfl⟩
    · rw [if_neg hspent]
      have hleft : now - timer.started < timer.budget := Nat.lt_of_not_le hspent
      refine Outcome.Meets.bind ((elapsed_waits g timer u).imp ?_
        (fun v hv => ⟨_, (hlook.trans hreading).trans hv, spares_of_requested_eq rfl⟩) False.elim)
      rintro elapsed v ⟨again, rfl, hagain⟩
      -- a look and two readings lie before the sleep
      have hbefore : ∀ {w ts}, v.Waits g w ts →
          s.Waits g w (.look false :: .reading now u.stopped :: .reading again v.stopped :: ts) :=
        ((hlook.trans hreading).trans hagain).trans
      refine Outcome.Meets.bind ((sleep_meets g fuel (timer.share again) slice v).imp ?_ ?_ ?_)
      · rintro slept w ⟨start, naps, ending, ts, hwaits, hsleeps, hwakes⟩
        have hspares := spares_of_sleeps hsleeps now u.stopped v.stopped
        cases hwakes with
        | stopped =>
          have hsparesNil := hspares [] rfl
          rw [List.append_nil] at hsparesNil
          exact ⟨_, hbefore hwaits, .cut hleft hsleeps, hsparesNil, fun _ => rfl⟩
        | due hdue =>
          refine Outcome.Meets.bind ((stopRequested_waits g w).imp ?_
            (fun x hx => ⟨_, hbefore (hwaits.trans hx), hspares [] rfl⟩) False.elim)
          rintro found x ⟨hexit, hfound⟩
          refine ⟨_, hbefore (hwaits.trans hexit), .slept hleft hsleeps hdue,
            hspares [.look found] rfl, ?_⟩
          exact fun hstopped => by rw [← hfound, hstopped]; rfl
      · rintro w
          (hwaits | ⟨start, stopped, -, hwaits⟩ | ⟨start, naps, ending, ts, hwaits, hsleeps, -⟩)
        · exact ⟨_, hbefore hwaits, spares_of_requested_eq rfl⟩
        · exact ⟨_, hbefore hwaits, spares_of_requested_eq rfl⟩
        · exact ⟨_, hbefore ((List.append_nil ts).symm ▸ hwaits),
            spares_of_sleeps hsleeps now _ _ [] rfl⟩
      · exact fun htired time htime hpos =>
          Nat.le_trans (htired time htime hpos) (Nat.min_le_left _ _)

end PollTimer

/-! ## Sleeping and polling with any clock and any stop -/

/-- A stop that comes between the look of a nap and its slice, here while the clock is read, does
not keep that slice from starting. The look behind the slice sees it. -/
example :
    let g : Gateway Device := ⟨fun r stopped d =>
      { Device.gateway.answer r stopped d with signal := if 0 < d.clock then .stop else .none }⟩
    let st : Station (Device × List Exchange) := ⟨({}, []), false, none, ⟨0⟩, #[]⟩
    ∃ t, sleep g.transcribed 20 5000 1500 st = .done false t ∧ st.ticks t =
      [.reading 0 false, .look false, .reading 2000 true, .slice 1500 true, .look true] :=
  ⟨_, rfl, rfl⟩

end TapScript
