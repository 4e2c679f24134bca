import TapScript.Gateway.Device
import TapScript.Proofs.RunConduct

/-! # The stop flag is heeded

Once the stop flag is set, by the script itself or by somebody else while a request is answered, a
run does nothing more to the device and takes up no further line, neither of the script nor of a
function; what remains is to log, to wait no longer and to close the text recognizer.

The moments of a run are observed through a gateway that keeps a **trace** of the requests: each
with the stop flag as it was when the request was made, and with what happened meanwhile. What a
trace has to look like is an invariant of the station (`Station.Heeds`), which every move of a run
preserves.

* `Gateway.controlled` keeps a trace and lets a controller call for stops at chosen moments,
  `Gateway.traced` only keeps a trace.
* `Contract.heeding` is the contract to preserve the invariant. Under it a run that is called to
  stop after some requests is bound to end, with as many steps.
* `no_deed_after_stop` says that nothing is done in a trace once the flag is set. -/

namespace TapScript

variable {ω : Type}

/-! ## Traces -/

/-- A moment of a run. -/
structure Event where
  request : Request
  /-- Whether the stop flag was set when the request was made. -/
  stopped : Bool
  /-- What somebody else did while the request was answered. -/
  signal : Signal
  /-- Whether the request ended in a crash. -/
  crashed : Bool

/-- Whether the stop flag is set behind the request. -/
def Event.leavesStopped (e : Event) : Bool := e.stopped || e.signal != .none

/-- The signal together with a call for a stop. -/
def Signal.withStop : Signal → Signal
  | .none => .stop
  | signal => signal

namespace Gateway

/-- What is traced of a request. The controller calls for a stop once `n` requests are answered if
`calls n`, that is, together with the answer to the last one of them. -/
def event (g : Gateway ω) (calls : Nat → Bool) (r : Request) (stopped : Bool) (w : ω × List Event) :
    Event :=
  let turn := g.answer r stopped w.1
  { request := r
    stopped
    signal := if calls (w.2.length + 1) then turn.signal.withStop else turn.signal
    crashed := match turn.outcome with
      | .ok _ => false
      | .error _ => true }

/-- The gateway that answers as `g` does under a controller, and keeps a trace of all requests, the
latest one last. -/
def controlled (g : Gateway ω) (calls : Nat → Bool) : Gateway (ω × List Event) where
  answer r stopped w :=
    let turn := g.answer r stopped w.1
    let e := g.event calls r stopped w
    ⟨turn.outcome, e.signal, (turn.state, w.2 ++ [e])⟩

/-- The gateway that answers as `g` does and keeps a trace of all requests. -/
def traced (g : Gateway ω) : Gateway (ω × List Event) := g.controlled fun _ => false

/-- Keeping a trace is no reason for a stop. -/
theorem Quiet.traced {g : Gateway ω} (hg : g.Quiet) : g.traced.Quiet :=
  fun r stopped w hr => hg r stopped w.1 hr

/-- A call of the controller is a signal. -/
theorem signal_event_ne_none {g : Gateway ω} {calls : Nat → Bool} {r : Request} {stopped : Bool}
    {w : ω × List Event} (hcalls : calls (w.2.length + 1)) :
    (g.event calls r stopped w).signal ≠ .none := by
  simp only [event, hcalls, if_true]
  cases (g.answer r stopped w.1).signal <;> simp [Signal.withStop]

end Gateway

namespace Station

/-- The station whose trace starts now. -/
def traced (st : Station ω) : Station (ω × List Event) :=
  ⟨(st.state, []), st.stopped, st.recognizer, st.dice, st.journal⟩

/-- What was asked so far. -/
def trace (st : Station (ω × List Event)) : List Event := st.state.2

/-- In the trace, the flag stays set once it is, `shy` requests are made only while it is clear, and
it is set behind every call of the controller. The flag of the station is as the trace and the
controller left it, or set since. -/
structure Heeds (calls : Nat → Bool) (shy : Request → Bool) (st : Station (ω × List Event)) :
    Prop where
  lasting : st.trace.Pairwise fun e e' => e.leavesStopped → e'.stopped
  idle : ∀ e ∈ st.trace, e.stopped → shy e.request = false
  heard : ∀ n, calls n → ∀ e ∈ st.trace.drop n, e.stopped
  kept : ∀ e ∈ st.trace, e.leavesStopped → st.stopped
  due : ∀ n, calls n → n ≤ st.trace.length → st.stopped

variable {calls : Nat → Bool} {shy : Request → Bool} {st t : Station (ω × List Event)}

/-- A trace that starts now, where the flag is set if the controller has called already. -/
theorem heeds_start (st : Station ω) {stopped : Bool} (hstop : calls 0 → stopped) :
    ({ st.traced with stopped } : Station (ω × List Event)).Heeds calls shy := by
  have hnil : ({ st.traced with stopped } : Station (ω × List Event)).trace = [] := rfl
  refine ⟨?_, ?_, ?_, ?_, fun n hn hle => ?_⟩
  · rw [hnil]
    exact List.Pairwise.nil
  · simp [hnil]
  · simp [hnil]
  · simp [hnil]
  · rw [hnil, List.length_nil, Nat.le_zero] at hle
    exact hstop (hle ▸ hn)

/-- Nothing shy is asked behind a call. -/
theorem Heeds.idle_behind (h : st.Heeds calls shy) {n : Nat} (hn : calls n) :
    ∀ e ∈ st.trace.drop n, shy e.request = false := fun e he =>
  h.idle e (List.mem_of_mem_drop he) (h.heard n hn e he)

/-- Nothing but the trace and the flag matters, and the flag may be set. -/
theorem Heeds.congr (h : st.Heeds calls shy) (htrace : t.trace = st.trace)
    (hstop : st.stopped → t.stopped) : t.Heeds calls shy where
  lasting := htrace ▸ h.lasting
  idle := htrace ▸ h.idle
  heard := htrace ▸ h.heard
  kept e he hs := hstop (h.kept e (htrace ▸ he) hs)
  due n hn hle := hstop (h.due n hn (htrace ▸ hle))

/-- One more request keeps the invariant, if a shy one finds the flag clear, and if the flag is set
behind a signal. -/
theorem Heeds.request (h : st.Heeds calls shy) {e : Event} (htrace : t.trace = st.trace ++ [e])
    (hflag : e.stopped = st.stopped) (hshy : shy e.request → st.stopped = false)
    (hcalls : calls (st.trace.length + 1) → e.signal ≠ .none)
    (hstop : e.leavesStopped → t.stopped) : t.Heeds calls shy := by
  have hkept : st.stopped → t.stopped := fun hs => hstop (by simp [Event.leavesStopped, hflag, hs])
  refine ⟨?_, fun e' he' hs => ?_, fun n hn e' he' => ?_, fun e' he' hs => ?_, fun n hn hle => ?_⟩
  · rw [htrace, List.pairwise_append]
    refine ⟨h.lasting, List.pairwise_singleton _ _, fun e' he' e'' he'' hs => ?_⟩
    rw [List.mem_singleton.1 he'', hflag]
    exact h.kept e' he' hs
  · rw [htrace, List.mem_append, List.mem_singleton] at he'
    rcases he' with he' | rfl
    · exact h.idle e' he' hs
    · cases hr : shy e'.request with
      | false => rfl
      | true => exact absurd (hshy hr) (by simp [← hflag, hs])
  · rw [htrace, List.drop_append, List.mem_append] at he'
    rcases he' with he' | he'
    · exact h.heard n hn e' he'
    · -- the new event stands behind the call only if the call is over
      by_cases hle : n ≤ st.trace.length
      · rw [List.mem_singleton.1 (List.mem_of_mem_drop he'), hflag]
        exact h.due n hn hle
      · rw [List.drop_eq_nil_of_le (by simp; omega)] at he'
        exact absurd he' List.not_mem_nil
  · rw [htrace, List.mem_append, List.mem_singleton] at he'
    rcases he' with he' | rfl
    · exact hkept (h.kept e' he' hs)
    · exact hstop hs
  · rw [htrace, List.length_append, List.length_singleton] at hle
    rcases Nat.lt_or_ge st.trace.length n with hlt | hge
    · obtain rfl : n = st.trace.length + 1 := by omega
      exact hstop (by simp [Event.leavesStopped, hcalls hn])
    · exact hkept (h.due n hn hge)

variable {g : Gateway ω}

/-- Closing the recognizer is nothing shy. -/
theorem Heeds.release (hshy : ∀ r, shy r → r.isDeed) (h : st.Heeds calls shy)
    (hstop : st.stopped = true) :
    (st.release (g.controlled calls)).Heeds calls shy ∧
      st.trace <+: (st.release (g.controlled calls)).trace := by
  unfold Station.release
  split
  · exact ⟨h, List.prefix_refl _⟩
  · rename_i session _
    refine ⟨?_, List.prefix_append _ _⟩
    refine h.request (e := g.event calls (.closeRecognizer session) st.stopped st.state) rfl rfl
      (fun hr => nomatch hshy _ hr) Gateway.signal_event_ne_none fun _ => hstop

/-- A request keeps the invariant, whatever somebody else does meanwhile, if a shy one finds the
flag clear. -/
theorem Heeds.answered (hshy : ∀ r, shy r → r.isDeed) (h : st.Heeds calls shy) {r : Request}
    (hr : shy r → st.stopped = false) :
    (st.answered (g.controlled calls) r).Heeds calls shy ∧
      st.trace ++ [g.event calls r st.stopped st.state] <+:
        (st.answered (g.controlled calls) r).trace := by
  let e := g.event calls r st.stopped st.state
  -- whatever the signal is, the flag behind it is the one that the event leaves
  have hnext : ∀ t : Station (ω × List Event), t.trace = st.trace ++ [e] →
      (e.leavesStopped → t.stopped) → t.Heeds calls shy ∧ st.trace ++ [e] <+: t.trace := by
    intro t htrace hstop
    exact ⟨h.request htrace rfl hr Gateway.signal_event_ne_none hstop, htrace ▸ List.prefix_refl _⟩
  have hsignal : ((g.controlled calls).answer r st.stopped st.state).signal = e.signal := rfl
  simp only [Station.answered, hsignal]
  cases hs : e.signal with
  | none =>
    refine hnext _ rfl fun hleaves => ?_
    have hflag : e.stopped := by simpa [Event.leavesStopped, hs] using hleaves
    exact hflag
  | stop => exact hnext _ rfl fun _ => rfl
  | close =>
    obtain ⟨hset, hgrown⟩ := hnext
      { st with
        state := ((g.controlled calls).answer r st.stopped st.state).state, stopped := true }
      rfl fun _ => rfl
    obtain ⟨hrel, hmore⟩ := hset.release hshy (g := g) rfl
    exact ⟨hrel, hgrown.trans hmore⟩

end Station

/-! ## The contract -/

/-- The contract to heed the stop flag: the trace only grows, and has a crash in it if a computation
has crashed. A run that is called to stop after some requests cannot go on for more steps than there
are requests left. -/
def Contract.heeding (calls : Nat → Bool) (shy : Request → Bool) :
    Contract (Station (ω × List Event)) where
  done s t := s.Heeds calls shy → t.Heeds calls shy ∧ s.trace <+: t.trace
  crashed s t := s.Heeds calls shy →
    (t.Heeds calls shy ∧ s.trace <+: t.trace) ∧ ∃ e ∈ t.trace, e.crashed
  tired m s := s.Heeds calls shy → ∀ n, calls n → m ≤ n - s.trace.length
  refl _ hs := ⟨hs, List.prefix_refl _⟩
  trans hst htu hs :=
    have ⟨ht, hgrown⟩ := hst hs
    have ⟨hu, hmore⟩ := htu ht
    ⟨hu, hgrown.trans hmore⟩
  late hst htu hs :=
    have ⟨ht, hgrown⟩ := hst hs
    have ⟨⟨hu, hmore⟩, hcrash⟩ := htu ht
    ⟨⟨hu, hgrown.trans hmore⟩, hcrash⟩
  early hst htired hs n hn := by
    have ⟨ht, hgrown⟩ := hst hs
    have hle := hgrown.length_le
    have hm := htired ht n hn
    omega
  fewer hmn htired hs n hn := Nat.le_trans hmn (htired hs n hn)

/-- Every move at the station heeds the flag, if shy requests are made only in time. -/
theorem conduct_heeding {g : Gateway ω} (calls : Nat → Bool) {shy : Request → Bool}
    (hshy : ∀ r, shy r → r.isDeed)
    (htimely : ∀ r st, Timely (g.controlled calls) r st → shy r → st.stopped = false) :
    Conduct (g.controlled calls) (.heeding calls shy) fun _ => True := by
  refine .of_moves ⟨fun _ _ h => ?_, fun _ _ h => ?_, fun _ h => ?_, fun _ _ => trivial, ?_, ?_⟩ ?_
    fun _ _ h => ⟨h.congr rfl id, List.prefix_refl _⟩
  · exact ⟨h.congr rfl id, List.prefix_refl _⟩
  · exact ⟨h.congr rfl id, List.prefix_refl _⟩
  · exact ⟨h.congr rfl fun _ => rfl, List.prefix_refl _⟩
  · intro _ _ _ _
    exact Nat.zero_le _
  · intro st hclear m ht h n hn
    have ⟨hnext, hgrown⟩ := h.answered hshy (g := g) (r := .checkpoint) fun hr => nomatch hshy _ hr
    have hlen := hgrown.length_le
    rw [List.length_append, List.length_singleton] at hlen
    -- a call that is over would have set the flag
    have hleft : ¬ n ≤ (st.answered (g.controlled calls) .checkpoint).trace.length := fun hle =>
      absurd (hnext.due n hn hle) (by simp [hclear])
    have hm := ht hnext n hn
    omega
  · intro _ r _ st ht
    have hr := htimely r st ht
    obtain ⟨reply, -, hask⟩ | ⟨crash, hout, hask⟩ := ask_cases (g.controlled calls) r st
    · rw [hask]
      intro h
      have ⟨hnext, hgrown⟩ := h.answered hshy (g := g) hr
      exact ⟨hnext, (List.prefix_append _ _).trans hgrown⟩
    · rw [hask]
      intro h
      have ⟨hnext, hgrown⟩ := h.answered hshy (g := g) hr
      refine ⟨⟨hnext, (List.prefix_append _ _).trans hgrown⟩, g.event calls r st.stopped st.state,
        hgrown.subset (by simp), ?_⟩
      have hout : (g.answer r st.stopped st.state.1).outcome = .error crash := hout
      simp only [Gateway.event, hout]

/-! ## Runs -/

/-- Nothing is done in the trace while the flag is set, nor behind a request that leaves it set. -/
def Station.EndsDeeds (st : Station (ω × List Event)) : Prop :=
  (∀ e ∈ st.trace, e.stopped → e.request.isDeed = false) ∧
    ∀ before e behind, st.trace = before ++ e :: behind → e.leavesStopped →
      ∀ e' ∈ behind, e'.stopped ∧ e'.request.isDeed = false

/-- Where each deed finds the flag clear, nothing is done behind a stop. -/
theorem Station.Heeds.endsDeeds {calls : Nat → Bool} {st : Station (ω × List Event)}
    (h : st.Heeds calls Request.isDeed) : st.EndsDeeds := by
  refine ⟨h.idle, fun before e behind htrace hstop e' he' => ?_⟩
  have hlasting := h.lasting
  rw [htrace, List.pairwise_append, List.pairwise_cons] at hlasting
  have hset : e'.stopped := hlasting.2.1.1 e' he' hstop
  have hmem : e' ∈ st.trace := by
    rw [htrace]
    exact List.mem_append_right _ (List.mem_cons_of_mem _ he')
  exact ⟨hset, h.idle e' hmem hset⟩

/-- **No deed after a stop.** Whatever the script and the gateway are, and whether the run ends or
crashes: from the moment at which the stop flag is set, by a `return`, by `EXIT`, or by somebody
else while the gateway, the log callback or a wait has its turn, the run neither acts on the device
nor takes up another line, be it a `log(...)`, a line of a function, or any other. A run that never
ends is seen at a gateway that crashes at some request, however late. -/
theorem no_deed_after_stop (g : Gateway ω) (hg : g.Quiet) (config : Config) (fuel : Nat)
    (lines : List Line) (st : Station ω) :
    (Engine.execute g.traced config fuel lines st.traced).Meets
      (fun _ t => t.EndsDeeds) fun t => t.EndsDeeds := by
  have htimely : ∀ r st, Timely g.traced r st → r.isDeed → st.stopped = false := by
    intro r st ht hr
    cases r with
    | visit n => exact ht
    | act a => exact ht hg.traced
    | _ => exact absurd hr (by simp [Request.isDeed])
  have hconduct := conduct_heeding (g := g) (fun _ => false) (fun _ hr => hr) htimely
  have hstart : ({ st.traced with stopped := false } : Station (ω × List Event)).Heeds
      (fun _ => false) Request.isDeed := st.heeds_start id
  have hrun := hconduct.proceed_meets (fun _ => trivial) (fun hc hs => (hc hs).1) config fuel lines
    { st.traced with stopped := false }
  exact hrun.imp (fun _ t ht => (ht.1 hstart).1.endsDeeds) (fun t ht => (ht hstart).1.1.endsDeeds)
    fun _ => trivial

/-- The gateway at which somebody requests a stop with every action. -/
def Gateway.stoppedByActions (g : Gateway ω) : Gateway ω where
  answer r stopped w :=
    let turn := g.answer r stopped w
    ⟨turn.outcome, if r.isDeed && !r.isLook then .stop else .none, turn.state⟩

/-- A gateway at which only actions stop the run is quiet. -/
theorem Gateway.quiet_stoppedByActions (g : Gateway ω) : g.stoppedByActions.Quiet := by
  intro r stopped w hr
  simp [stoppedByActions, hr]

/-- The second key of this script is not pressed: with the first one somebody requests a stop. -/
theorem no_deed_after_stop_device :
    Device.gateway.stoppedByActions.Quiet ∧ ∀ st : Station Device,
      (Engine.execute Device.gateway.stoppedByActions.traced {} 20
        [⟨1, "back()".toList⟩, ⟨2, "home()".toList⟩] st.traced).Meets
          (fun _ t => t.EndsDeeds) fun t => t.EndsDeeds :=
  ⟨Gateway.quiet_stoppedByActions _, fun st =>
    no_deed_after_stop _ (Gateway.quiet_stoppedByActions _) {} 20
      [⟨1, "back()".toList⟩, ⟨2, "home()".toList⟩] st⟩

end TapScript
