import TapScript.Gateway.Device
import TapScript.Proofs.Doubles
import TapScript.Proofs.Requests

/-! # Coordinates at the device

A point that a script gives to the device comes from its arguments, which may be any text: a
variable, what the screen shows, a number that is far too large. Each coordinate is checked before a
command is made of it, and there is no other way to a command, so what reaches the device lies
within the bounds of the run.

* `Builtin.Issues.within` says that the points of every command that is issued lie within the
  bounds.
* `only_valid_points_reach_device` says so of every request of a run, and that a call whose
  arguments are refused asks the device for nothing. -/

namespace TapScript

variable {ω : Type}

/-- Both coordinates lie from zero up to the largest allowed one. -/
def Point.Within (max : Int) (p : Point) : Prop := (0 ≤ p.x ∧ p.x ≤ max) ∧ 0 ≤ p.y ∧ p.y ≤ max

instance (max : Int) (p : Point) : Decidable (p.Within max) := inferInstanceAs (Decidable (_ ∧ _))

/-- The points that an action touches. -/
def Action.points : Action → List Point
  | click p => [p]
  | longClick p _ => [p]
  | swipe start finish _ => [start, finish]
  | _ => []

/-- The points that the device is asked about, or is to touch. -/
def Request.points : Request → List Point
  | act a => a.points
  | pixel p => [p]
  | _ => []

/-- The points of a command. -/
def Command.points : Command → List Point
  | act a => a.points
  | tap p _ _ => [p]
  | waitForColor p _ _ => [p]
  | compareColor p _ _ => [p]
  | getColor p => [p]
  | _ => []

/-- A command asks about its own points only. -/
theorem Command.MayAsk.points_subset {c : Command} {r : Request} (h : c.MayAsk r) :
    r.points ⊆ c.points := by
  have hreading : ∀ r : Request, r.isReading → r.points = [] := by
    intro r hr
    cases r with
    | act a => cases hr
    | pixel p => cases hr
    | _ => rfl
  cases c with
  | sleep duration => cases h
  | log text => cases h
  | random lo hi => cases h
  | stepVar builtin name step =>
    rcases h with rfl | ⟨value, rfl⟩
    · exact List.nil_subset _
    · exact List.nil_subset _
  | waitForText area text timeout => rw [hreading r h]; exact List.nil_subset _
  | getText area => rw [hreading r h]; exact List.nil_subset _
  | findText text timeout => rw [hreading r h]; exact List.nil_subset _
  | _ => cases h; exact List.Subset.refl _

/-! ## Reading points -/

namespace Arguments

open Reading

/-- The numbers among the arguments are finite. -/
theorem number_yields (args : Arguments) (i : Nat) (what : String) :
    Yields (fun x => x.isFinite = true) (args.number i what) := by
  refine yields_bind fun v => ?_
  cases v.number? with
  | none => exact yields_throw _
  | some x =>
    dsimp only
    split
    · exact yields_pure ‹_›
    · exact yields_throw _

/-- A coordinate is compared as a double, and lies within the same bounds as an integer. -/
theorem coordinate_yields (args : Arguments) (i : Nat) :
    Yields (fun n => 0 ≤ n ∧ n ≤ args.config.maxCoordinate) (args.coordinate i) := by
  refine yields_bind_of (args.number_yields i "coordinate") fun x hfinite => ?_
  dsimp only
  split
  · exact yields_throw _
  · rename_i hbounds
    rw [Bool.or_eq_true, decide_eq_true_eq, decide_eq_true_eq, not_or] at hbounds
    exact yields_pure (Number.clampTo_mem (by decide) (by decide) (by decide) hfinite
      hbounds.1 hbounds.2)

/-- A point among the arguments lies within the limits. -/
theorem point_yields (args : Arguments) (i : Nat) :
    Yields (fun p => p.Within args.config.maxCoordinate) (args.point i) := by
  refine yields_bind_of (args.coordinate_yields i) fun x hx => ?_
  exact yields_bind_of (args.coordinate_yields (i + 1)) fun y hy => yields_pure ⟨hx, hy⟩

end Arguments

/-- The points of a command that is issued lie within the bounds of the run. -/
theorem Builtin.Issues.within {b : Builtin} {config : Config} {c : Command}
    (h : b.Issues config c) : ∀ p ∈ c.points, p.Within config.maxCoordinate := by
  obtain ⟨args, env, d, d', hread⟩ := h
  refine (?_ : Reading.Yields (fun c => ∀ p ∈ c.points, p.Within config.maxCoordinate)
    (b.read args env config)) d c d' hread
  unfold Builtin.read
  dsimp only
  split
  · open Reading Arguments List in
    cases b with
    | click => exact yields_bind_of (point_yields _ 0) fun p hp =>
      yields_pure (forall_mem_singleton.2 hp)
    | longClick =>
      refine yields_bind_of (point_yields _ 0) fun p hp => ?_
      exact yields_bind fun _ => yields_pure (forall_mem_singleton.2 hp)
    | swipe =>
      refine yields_bind_of (point_yields _ 0) fun p hp => yields_bind_of (point_yields _ 2)
        fun q hq => ?_
      exact yields_bind fun _ => yields_pure (forall_mem_cons.2 ⟨hp, forall_mem_singleton.2 hq⟩)
    | tap =>
      refine yields_bind_of (point_yields _ 0) fun p hp => ?_
      exact yields_bind fun _ => yields_bind fun _ => yields_pure (forall_mem_singleton.2 hp)
    | waitForColor =>
      refine yields_bind_of (point_yields _ 0) fun p hp => ?_
      exact yields_bind fun _ => yields_bind fun _ => yields_pure (forall_mem_singleton.2 hp)
    | compareColor =>
      refine yields_bind_of (point_yields _ 0) fun p hp => ?_
      exact yields_bind fun _ => yields_bind fun _ => yields_pure (forall_mem_singleton.2 hp)
    | getColor =>
      exact yields_bind_of (point_yields _ 0) fun p hp => yields_pure (forall_mem_singleton.2 hp)
    -- the other commands have no points
    | back | home | recents => exact yields_pure (forall_mem_nil _)
    | sleep | log | toast | sendTelegram | vibrate | pushToCb | getVar | incVar | decVar
    | getText =>
      exact yields_bind fun _ => yields_pure (forall_mem_nil _)
    | setVar | findImage | random =>
      exact yields_bind fun _ => yields_bind fun _ => yields_pure (forall_mem_nil _)
    | waitForText =>
      exact yields_bind fun _ => yields_bind fun _ => yields_bind fun _ =>
        yields_pure (forall_mem_nil _)
    | findText =>
      simp only [Arguments.command]
      split <;> exact yields_bind fun _ => yields_bind fun _ => yields_pure (forall_mem_nil _)
  · exact Reading.yields_throw _

/-! ## Refused arguments -/

/-- A statement ends where the arguments of its command are refused. -/
theorem Setup.perform_of_refused (setup : Setup ω) {b : Builtin} {args : Text}
    {s : Session ω} {m : Mishap} {t : Station ω}
    (h : Query.command setup.gateway setup.config s.scope.current b args s.station =
      .done (.error m) t) (line : Nat) :
    setup.perform line b args s = .done (.error m) { s with station := t } := by
  have hframe : Session.frame s = .done s.scope.current s := rfl
  rw [Setup.perform, Exec.bind_done hframe]
  simp only [Session.lift, Exec.zoom, Exec.bind_done h]
  rfl

/-- A text is not expanded any further where the arguments of a query in it are refused. -/
theorem Query.expandUpTo_of_refused {g : Gateway ω} {config : Config} {frame : Frame}
    {text : Text} {q : Query} {st t : Station ω} {m : Mishap} (hlast : Query.last? text = some q)
    (h : Query.command g config frame q.builtin q.args st = .done (.error m) t)
    (fuel line rounds : Nat) :
    Query.expandUpTo g config fuel line frame (rounds + 1) text st = .done (.error m) t := by
  simp only [Query.expandUpTo, hlast, Exec.bind_done h]
  rfl

/-! ## Points at the device -/

/-- All points of the request lie within the bounds. -/
def Request.Within (max : Int) (r : Request) : Prop := ∀ p ∈ r.points, p.Within max

/-- What is asked without a command, or by every command, is about no point. -/
theorem Request.points_eq_nil {r : Request} (h : r.isOwn ∨ r.isRoutine ∨ r.isClose) :
    r.points = [] := by
  cases r with
  | act a => rcases h with h | h | h <;> cases h
  | pixel p => rcases h with h | h | h <;> cases h
  | _ => rfl

/-- In every run, the points that are given to the device lie within the bounds of the run, whatever
the script and the device are. A run that does not end is covered by the second part: what it asks
first is what it asks at a gateway that breaks down after so many requests, and there it ends. A
call of a command whose arguments are refused only looks at the stop flag and ends right there,
whether it is a statement of its own or stands inside a text. -/
theorem only_valid_points_reach_device (g : Gateway ω) (config : Config) (fuel : Nat)
    (lines : List Line) (st : Station ω) :
    (Engine.execute g.transcribed config fuel lines st.transcribed).Meets
        (fun _ t => ∀ e ∈ t.transcript, e.request.Within config.maxCoordinate)
        (fun t => ∀ e ∈ t.transcript, e.request.Within config.maxCoordinate) ∧
      (∀ n, n < fuel → (Engine.execute (g.upTo n).transcribed config fuel lines
          st.counted.transcribed).Meets
        (fun _ t => ∀ e ∈ t.transcript, e.request.Within config.maxCoordinate)
        (fun t => ∀ e ∈ t.transcript, e.request.Within config.maxCoordinate) False) ∧
      ∀ (functions : Registry) (line : Nat) (b : Builtin) (args : Text)
        (s : Session (ω × List Exchange)) (m : Mishap) (t : Station (ω × List Exchange)),
        Query.command g.transcribed config s.scope.current b args s.station = .done (.error m) t →
        s.station.AsksOnly (· = .checkpoint) t ∧
          Setup.perform ⟨g.transcribed, config, functions, fuel⟩ line b args s =
            .done (.error m) { s with station := t } ∧
          ∀ (text : Text) (q : Query) (rounds : Nat), Query.last? text = some q → q.builtin = b →
            q.args = args → Query.expandUpTo g.transcribed config fuel line s.scope.current
            (rounds + 1) text s.station =
              .done (.error m) t := by
  have hissued : ∀ (b : Builtin) (c : Command), b.Issues config c → ∀ r, c.MayAsk r →
      r.Within config.maxCoordinate :=
    fun b c hc r hr p hp => hc.within p (hr.points_subset hp)
  -- what the engine asks by itself, and what every command may ask, has no points
  have hpointless : ∀ r : Request, r.isOwn ∨ r.isRoutine ∨ r.isClose →
      r.Within config.maxCoordinate := by
    intro r hr p hp
    rw [Request.points_eq_nil hr] at hp
    cases hp
  have hrun : ∀ {ω' : Type} (g' : Gateway ω') (st' : Station ω'),
      (Engine.execute g'.transcribed config fuel lines st'.transcribed).Meets
        (fun _ t => ∀ e ∈ t.transcript, e.request.Within config.maxCoordinate)
        (fun t => ∀ e ∈ t.transcript, e.request.Within config.maxCoordinate) := by
    intro ω' g' st'
    have hasks := execute_asksOnly g' (fun r hr => hpointless r (.inr (.inl hr)))
      (fun r hr => hpointless r (.inl hr)) hissued fuel lines st'.transcribed
    have hclose := fun r hr => hpointless r (.inr (.inr hr))
    exact hasks.imp (fun _ _ h => h.forall_mem rfl hclose) fun _ h => h.forall_mem rfl hclose
  refine ⟨hrun g st, fun n hn => ?_, ?_⟩
  · have hends := execute_upTo_ends g config hn lines st.counted.transcribed
    exact (hends.and (hrun (g.upTo n) st.counted)).imp (fun _ _ h => h.2) fun _ h => h.2
  · intro functions line b args s m t hcommand
    refine ⟨?_, ?_, ?_⟩
    · have hobeys : (Query.command g.transcribed config s.scope.current b args).Obeys
          (Contract.asking (· = .checkpoint)) 0 := Query.reading_asking g _ _ 0
      have hobeys := hobeys s.station
      rw [hcommand] at hobeys
      exact hobeys
    · exact Setup.perform_of_refused ⟨g.transcribed, config, functions, fuel⟩ hcommand line
    · rintro text q rounds hlast rfl rfl
      exact Query.expandUpTo_of_refused hlast hcommand fuel line rounds

/-- A click half a pixel beyond the bounds is refused, and the device hears nothing of it. -/
theorem only_valid_points_reach_device_refused :
    let config : Config := {}
    let s : Session (Device × List Exchange) :=
      Session.start (Station.transcribed { state := ({} : Device) })
    ∃ m t, Query.command Device.gateway.transcribed config s.scope.current .click
      "10000.5, 5".toList s.station =
        .done (.error m) t ∧
      m.message = "click: coordinate 10000.5 outside 0..=10000" ∧
        s.station.AsksOnly (· = .checkpoint) t ∧
      Setup.perform ⟨Device.gateway.transcribed, config, .empty, 9⟩ 1 .click "10000.5, 5".toList s =
        .done (.error m) { s with station := t } := by
  intro config s
  have hfailure : (Query.command Device.gateway.transcribed config s.scope.current .click
      "10000.5, 5".toList s.station).failure? =
      some "click: coordinate 10000.5 outside 0..=10000" := by decide +kernel
  obtain ⟨m, t, hcommand, hmessage⟩ := Outcome.eq_error_of_failure? hfailure
  obtain ⟨-, -, hrefused⟩ := only_valid_points_reach_device Device.gateway config 9 []
    { state := ({} : Device) }
  obtain ⟨hasks, hperform, -⟩ := hrefused .empty 1 .click _ s m t hcommand
  exact ⟨m, t, hcommand, hmessage, hasks, hperform⟩

end TapScript
