import Mathlib.Order.Defs.Unbundled
import TapScript.Gateway.Device
import TapScript.Proofs.Expansion
import TapScript.Proofs.Transcript

/-! # Statements that fail

A statement fails for many reasons: the arguments of its command are wrong, the gateway refuses its
action, a counter would overflow, a function is not defined or calls nest too deep. Each of them is
found out before the statement has changed anything, a `tap` apart, which may have clicked before a
click is refused. Then the walk complains once about the line and goes on.

* `Station.Spared` says what a station is spared from one moment to another: no variable was stored,
  no action was accepted unless it may be, and the stop flag was set by nobody but others.
* `perform_spares` says this of a command that fails, and `statement_spares` of a statement.
* `walk_eq_of_failed` is what the walk does then, and `walk_takes_up` how it goes on with the next
  line.
* `failed_statement_is_atomic` puts this together. -/

namespace TapScript

variable {ω α β : Type}

/-! ## Computations that fail -/

namespace Exec

variable {σ ε : Type} {R : σ → σ → Prop}

/-- Wherever the computation ends with a value, `R` holds from its start to its end. -/
def Within (R : σ → σ → Prop) (x : Exec σ α) : Prop :=
  ∀ s, (x s).Ends (fun _ t => R s t) fun _ _ => True

/-- Wherever the computation fails, `R` holds from its start to its end. -/
def FailsWithin (R : σ → σ → Prop) (x : Exec σ (Except ε α)) : Prop :=
  ∀ s, (x s).Ends (fun result t => ∀ e, result = .error e → R s t) fun _ _ => True

/-- A relation that is kept from each state on is kept within the computation. -/
theorem within_of_keeps [Std.Refl R] {x : Exec σ α} (h : ∀ s, x.Keeps (R s) fun _ _ => True) :
    x.Within R :=
  fun s => h s s (Std.Refl.refl s)

/-- What a computation stays within can be added to what came before. -/
theorem Within.keeps [IsTrans σ R] {x : Exec σ α} (h : x.Within R) (s : σ) :
    x.Keeps (R s) fun _ _ => True :=
  fun t ht => (h t).imp (fun _ _ hu => IsTrans.trans _ _ _ ht hu) fun _ _ h => h

/-- A failure that comes at once changes nothing. -/
theorem failsWithin_error [Std.Refl R] (e : ε) :
    (pure (.error e) : Exec σ (Except ε α)).FailsWithin R :=
  fun s _ _ => Std.Refl.refl s

/-- Behind a computation that never fails, anything holds if it has failed. -/
theorem Returns.ends_of_ok {x : Exec σ (Except ε α)}
    (h : x.Returns fun result => ∃ a, result = .ok a) (P : σ → Prop) (s : σ) :
    (x s).Ends (fun result t => ∀ e, result = .error e → P t) fun _ _ => True := by
  refine (Outcome.ends_iff_meets.2 (h s)).imp ?_ fun _ _ h => h
  rintro _ t ⟨a, rfl⟩
  nofun

/-- Of a computation that never fails, nothing is to be shown. -/
theorem Returns.failsWithin {x : Exec σ (Except ε α)}
    (h : x.Returns fun result => ∃ a, result = .ok a) : x.FailsWithin R :=
  fun s => h.ends_of_ok (R s) s

/-- Behind a first part within `R`, the second part may fail. -/
theorem Within.bindReturns [IsTrans σ R] {P : β → Prop} {x : Exec σ β} {f : β → Exec σ (Except ε α)}
    (hx : x.Within R) (hr : x.Returns P) (hf : ∀ b, P b → (f b).FailsWithin R) :
    (x >>= f).FailsWithin R := by
  intro s
  have hends := hx s
  have hreturns := hr s
  rw [bind_apply]
  cases h : x s with
  | done b t =>
    rw [h] at hends hreturns
    exact (hf b hreturns t).imp (fun _ _ hu e he => IsTrans.trans _ _ _ hends (hu e he))
      fun _ _ h => h
  | crashed c t => trivial
  | exhausted => trivial

/-- A sequence fails within what its first part stays within and its second part fails within. -/
theorem Within.bind [IsTrans σ R] {x : Exec σ β} {f : β → Exec σ (Except ε α)} (hx : x.Within R)
    (hf : ∀ b, (f b).FailsWithin R) : (x >>= f).FailsWithin R :=
  hx.bindReturns (returns_true x) fun b _ => hf b

/-- If the first part fails, so may the second one. If not, the second part must not. -/
theorem FailsWithin.bind [IsTrans σ R] {ε' : Type} {x : Exec σ (Except ε' β)}
    {f : Except ε' β → Exec σ (Except ε α)} (hx : x.FailsWithin R)
    (herror : ∀ e, (f (.error e)).FailsWithin R)
    (hok : ∀ b, (f (.ok b)).Returns fun result => ∃ a, result = .ok a) :
    (x >>= f).FailsWithin R := by
  intro s
  have hends := hx s
  rw [bind_apply]
  cases h : x s with
  | done result t =>
    rw [h] at hends
    cases result with
    | error e =>
      exact (herror e t).imp (fun _ _ hu e' he => IsTrans.trans _ _ _ (hends e rfl) (hu e' he))
        fun _ _ h => h
    | ok b => exact (hok b).ends_of_ok (R s) t
  | crashed c t => trivial
  | exhausted => trivial

end Exec

/-! ## What a station is spared -/

namespace Request

/-- Whether the request stores a variable. -/
def isStore : Request → Bool
  | store .. => true
  | _ => false

/-- Whether the gateway has accepted an action. -/
def accepts : (r : Request) → Except Crash r.Reply → Bool
  | act _, .ok (.ok _) => true
  | _, _ => false

/-- Whether a recognition was given up because of a stop. -/
def isDropped : (r : Request) → Except Crash r.Reply → Bool
  | recognize .., .ok .dropped => true
  | _, _ => false

/-- Whether the request changes nothing at the gateway that a script could mean to change. -/
def isQuiet : Request → Bool
  | act _ | store .. => false
  | _ => true

/-- A quiet request stores nothing. -/
theorem isStore_of_isQuiet {r : Request} (h : r.isQuiet) : r.isStore = false := by
  cases r with
  | store name value => cases h
  | _ => rfl

/-- A quiet request asks for no action that could be accepted. -/
theorem accepts_of_isQuiet {r : Request} (h : r.isQuiet) (outcome : Except Crash r.Reply) :
    r.accepts outcome = false := by
  cases r with
  | act a => cases h
  | _ => rfl

/-- What is routine is quiet. -/
theorem isQuiet_of_isRoutine {r : Request} (h : r.isRoutine) : r.isQuiet = true := by
  cases r with
  | act a => cases h
  | store name value => cases h
  | _ => rfl

/-- Only a request to the recognizer can be dropped. -/
theorem isDropped_of_isSession {r : Request} (h : r.isSession = false)
    (outcome : Except Crash r.Reply) : r.isDropped outcome = false := by
  cases r with
  | recognize session image bound watch => cases h
  | _ => rfl

end Request

/-- Queries only look. -/
theorem Command.MayAsk.isQuiet {c : Command} (hc : c.isQuery) {r : Request} (h : c.MayAsk r) :
    r.isQuiet = true := by
  have hinner := h.isInner (Command.acts_eq_false_of_isQuery hc)
  cases r with
  | act a => cases hinner
  | store name value =>
    cases c with
    | setVar => cases hc
    | stepVar => cases hc
    | _ => simp [MayAsk, Request.isReading] at h
  | _ => rfl

namespace Exchange

/-- Whether the gateway has accepted an action. -/
def accepts (e : Exchange) : Bool := e.request.accepts e.outcome

/-- Whether somebody else has set the stop flag meanwhile. -/
def stops (e : Exchange) : Bool := e.signal != .none || e.request.isDropped e.outcome

end Exchange

/-- What is read off the gateway's state changes only when a variable is stored. -/
def Gateway.StoreOnly (g : Gateway ω) (read : ω → β) : Prop :=
  ∀ (r : Request) stopped w, r.isStore = false → read (g.answer r stopped w).state = read w

/-- What a device has stored changes only when a variable is stored. -/
theorem Device.storeOnly_stored : Device.gateway.StoreOnly Device.stored := by
  intro r stopped d hr
  cases r with
  | store name value => cases hr
  | act a =>
    simp only [gateway, answer, act]
    split
    · rfl
    · split <;> rfl
  | openRecognizer =>
    simp only [gateway, answer, openRecognizer]
    split <;> rfl
  | recognize session image bound watch =>
    simp only [gateway, answer, recognize]
    split
    · split
      · rfl
      · split
        · rfl
        · split <;> rfl
    · rfl
    · rfl
  | closeRecognizer session =>
    simp only [gateway, answer, closeRecognizer]
    split <;> rfl
  | _ => rfl

/-- Somebody who requests a stop or closes the engine while a request is answered stores nothing. -/
theorem Gateway.StoreOnly.read_answered {g : Gateway ω} {read : ω → β} (h : g.StoreOnly read)
    (r : Request) (s : Station ω) :
    read (s.answered g r).state = read (g.answer r s.stopped s.state).state := by
  have hrelease : ∀ t : Station ω, read (t.release g).state = read t.state := by
    intro t
    unfold Station.release
    cases t.recognizer with
    | none => rfl
    | some session => exact h (.closeRecognizer session) _ _ rfl
  unfold Station.answered
  dsimp only
  cases (g.answer r s.stopped s.state).signal with
  | none => rfl
  | stop => rfl
  | close => exact hrelease _

/-- From the first station to the second one no variable was stored and, unless `mayAct`, no action
accepted; the stop flag was set by others only. So what only a stored variable changes is as
before. -/
structure Station.Spared (g : Gateway ω) (mayAct : Prop) (s t : Station (ω × List Exchange)) :
    Prop where
  exchanges : ∃ es, t.transcript = s.transcript ++ es ∧
    (∀ e ∈ es, e.request.isStore = false ∧ (e.accepts → mayAct)) ∧
    t.stopped = (s.stopped || es.any Exchange.stops)
  stored : ∀ {β : Type} {read : ω → β}, g.StoreOnly read → read t.state.1 = read s.state.1

namespace Station.Spared

variable {g : Gateway ω} {mayAct : Prop} {s t u : Station (ω × List Exchange)}

/-- Stations that differ neither in the gateway's state nor in the flag are spared. -/
theorem of_eq (hstate : t.state = s.state) (hstopped : t.stopped = s.stopped) :
    s.Spared g mayAct t := by
  refine ⟨⟨[], ?_, fun e he => absurd he List.not_mem_nil, ?_⟩, fun _ => by rw [hstate]⟩
  · rw [transcript, hstate, List.append_nil]
    rfl
  · rw [hstopped]
    exact (Bool.or_false _).symm

/-- What two parts of a run spare is spared by both together. -/
theorem trans (hst : s.Spared g mayAct t) (htu : t.Spared g mayAct u) : s.Spared g mayAct u := by
  obtain ⟨⟨es, ht, hes, hstopped⟩, hstored⟩ := hst
  obtain ⟨⟨es', hu, hes', hstopped'⟩, hstored'⟩ := htu
  refine ⟨⟨es ++ es', ?_, fun e he => ?_, ?_⟩, fun hread => (hstored' hread).trans (hstored hread)⟩
  · rw [hu, ht, List.append_assoc]
  · exact (List.mem_append.1 he).elim (hes e) (hes' e)
  · rw [hstopped', hstopped, List.any_append, Bool.or_assoc]

/-- What only a stored variable changes is as before behind any other request. -/
theorem stored_answered {read : ω → β} (hread : g.StoreOnly read) {r : Request}
    (hr : r.isStore = false) (s : Station (ω × List Exchange)) :
    read (s.answered g.transcribed r).state.1 = read s.state.1 := by
  have honly : g.transcribed.StoreOnly fun w => read w.1 :=
    fun r stopped w hr => hread r stopped w.1 hr
  exact (honly.read_answered r s).trans (hread r s.stopped s.state.1 hr)

/-- What a request that stores nothing adds to the transcript. -/
theorem exchanges_answered {r : Request} (hr : r.isStore = false)
    (haccepts : (s.exchange g r).accepts → mayAct) :
    ∃ es, (s.answered g.transcribed r).transcript = s.transcript ++ s.exchange g r :: es ∧
      (∀ e ∈ s.exchange g r :: es, e.request.isStore = false ∧ (e.accepts → mayAct)) ∧
      (es ≠ [] → (s.exchange g r).signal = .close) := by
  obtain ⟨es, hes, hclose, htranscript⟩ := s.transcript_answered g r
  refine ⟨es, htranscript, fun e he => ?_, hclose⟩
  rcases List.mem_cons.1 he with rfl | he
  · exact ⟨hr, haccepts⟩
  · obtain rfl | ⟨session, stopped, w, rfl⟩ := hes
    · cases he
    · rw [List.mem_singleton.1 he]
      exact ⟨rfl, nofun⟩

/-- A request that stores nothing, if it is no recognition that was dropped. -/
theorem answered {r : Request} (hr : r.isStore = false)
    (haccepts : (s.exchange g r).accepts → mayAct)
    (hdropped : r.isDropped (s.exchange g r).outcome = false) :
    s.Spared g mayAct (s.answered g.transcribed r) := by
  obtain ⟨es, htranscript, hes, hclose⟩ := exchanges_answered hr haccepts
  refine ⟨⟨s.exchange g r :: es, htranscript, hes, ?_⟩, fun hread => stored_answered hread hr s⟩
  have hstops : (s.exchange g r).stops = ((s.exchange g r).signal != .none) :=
    (congrArg _ hdropped).trans (Bool.or_false _)
  have hflag : (s.answered g.transcribed r).stopped =
      (s.stopped || (s.exchange g r).signal != .none) :=
    s.stopped_answered_eq g.transcribed r
  rw [hflag, List.any_cons, hstops]
  by_cases hempty : es = []
  · rw [hempty, List.any_nil, Bool.or_false]
  · -- whoever releases the recognizer has set the flag before
    rw [hclose hempty]
    rfl

/-- A recognition that was dropped, behind which the run has set the flag too. -/
theorem dropped {r : Request} (hr : r.isStore = false)
    (haccepts : (s.exchange g r).accepts → mayAct)
    (hdropped : r.isDropped (s.exchange g r).outcome = true) :
    s.Spared g mayAct { s.answered g.transcribed r with stopped := true } := by
  obtain ⟨es, htranscript, hes, -⟩ := exchanges_answered hr haccepts
  refine ⟨⟨s.exchange g r :: es, htranscript, hes, ?_⟩, fun hread => stored_answered hread hr s⟩
  have hstops : (s.exchange g r).stops = true := (congrArg _ hdropped).trans (Bool.or_true _)
  rw [List.any_cons, hstops, Bool.true_or, Bool.or_true]

end Station.Spared

instance (g : Gateway ω) (mayAct : Prop) : Std.Refl (Station.Spared g mayAct) :=
  ⟨fun _ => .of_eq rfl rfl⟩

instance (g : Gateway ω) (mayAct : Prop) : IsTrans _ (Station.Spared g mayAct) :=
  ⟨fun _ _ _ => .trans⟩

section Station

variable (g : Gateway ω) (mayAct : Prop)

/-- A quiet request that is never dropped spares the station. -/
theorem ask_spares {r : Request} (hr : r.isQuiet)
    (hdropped : ∀ outcome, r.isDropped outcome = false) :
    (ask g.transcribed r).Within (Station.Spared g mayAct) := by
  intro s
  have hanswered : s.Spared g mayAct (s.answered g.transcribed r) := by
    refine .answered (Request.isStore_of_isQuiet hr) (fun ha => ?_) (hdropped _)
    cases (Request.accepts_of_isQuiet hr _).symm.trans ha
  obtain ⟨reply, -, hask⟩ | ⟨crash, -, hask⟩ := ask_cases g.transcribed r s
  · rw [hask]
    exact hanswered
  · rw [hask]
    trivial

/-- Opening the recognizer spares the station, whether it can be opened or not. -/
theorem opened_spares : (Recognizer.opened g.transcribed).Within (Station.Spared g mayAct) := by
  intro s
  rw [Recognizer.opened, Exec.gets_bind]
  cases s.recognizer with
  | some session => exact .of_eq rfl rfl
  | none =>
    dsimp only
    rw [record, Exec.modify_bind]
    -- a note changes nothing that the gateway knows of
    let noted := s.note ⟨.debug, "Opening text recognizer", []⟩
    have hnoted : s.Spared g mayAct noted := .of_eq rfl rfl
    refine Outcome.Ends.bind
      ((ask_spares g mayAct (r := .openRecognizer) rfl (fun _ => rfl) noted).imp
        (fun reply t ht => ?_) fun _ _ h => h)
    cases reply with
    | error fault => exact hnoted.trans ht
    | ok session => exact hnoted.trans (ht.trans (.of_eq rfl rfl))

/-- The run sets the stop flag behind a recognition that was dropped, which somebody else has asked
for. -/
theorem consult_spares (bound : Duration) (interval : Option Duration) (looked : Bool)
    (image : Screenshot) :
    (Recognizer.consult g.transcribed bound interval looked image).Within
      (Station.Spared g mayAct) := by
  intro s
  refine Outcome.Ends.bind ((opened_spares g mayAct s).imp (fun opened t ht => ?_) fun _ _ h => h)
  cases opened with
  | error fault => exact ht
  | ok session =>
    dsimp only
    rw [Exec.gets_bind]
    refine Outcome.Ends.bind ?_
    obtain ⟨recognition, houtcome, hask⟩ | ⟨crash, -, hask⟩ := ask_cases g.transcribed
      (.recognize session image bound (interval.map fun i => ⟨!looked && t.stopped, i⟩)) t
    · rw [hask]
      have hdropped := congrArg (Request.isDropped (.recognize session image bound _)) houtcome
      cases recognition with
      | answered blocks => exact ht.trans (.answered rfl nofun hdropped)
      | late => exact ht.trans (.answered rfl nofun hdropped)
      | dropped => exact ht.trans (.dropped rfl nofun hdropped)
    · rw [hask]
      trivial

/-- Whatever only looks spares the station. -/
theorem attuned_spared (s : Station (ω × List Exchange)) :
    Attuned g.transcribed g.transcribed (fun r => r.isQuiet) (Held (s.Spared g mayAct))
      fun _ => Held fun _ => True where
  stopped := fun h => congrArg _ h.1
  dice := fun h => congrArg _ h.1
  note := fun h r => ⟨congrArg (Station.note · r) h.1, h.2.trans (.of_eq rfl rfl)⟩
  roll := fun h d => ⟨congrArg (fun s => { s with dice := d }) h.1, h.2.trans (.of_eq rfl rfl)⟩
  routine := fun _ hr => Request.isQuiet_of_isRoutine hr
  ask := fun _ hr hs => Exec.alike_held_iff.2
    ((ask_spares g mayAct hr (Request.isDropped_of_isSession hs)).keeps s)
  consult := fun _ bound interval looked image => Exec.alike_held_iff.2
    ((consult_spares g mayAct bound interval looked image).keeps s)

/-- Reading the variables and the dice spares the station. -/
theorem reading_spares (frame : Frame) (read : Environment → Dice → α × Dice) :
    (Query.reading g.transcribed frame read).Within (Station.Spared g mayAct) :=
  Exec.within_of_keeps fun s =>
    Exec.alike_held_iff.1 ((attuned_spared g mayAct s).reading_alike _ _)

/-- Putting the values in the place of the calls spares the station. -/
theorem expand_spares (config : Config) (fuel line : Nat) (frame : Frame) (t : Text) :
    (Query.expand g.transcribed config fuel line frame t).Within (Station.Spared g mayAct) :=
  Exec.within_of_keeps fun s => Exec.alike_held_iff.1 <|
    (attuned_spared g mayAct s).expand_alike (fun _ hc _ hr => hr.isQuiet hc) _ _ _ _ _

/-! ## Commands that fail -/

/-- An action that is refused was not accepted. -/
theorem act_spares (a : Action) :
    (ask g.transcribed (.act a)).FailsWithin (Station.Spared g mayAct) := by
  intro s
  obtain ⟨reply, houtcome, hask⟩ | ⟨crash, -, hask⟩ := ask_cases g.transcribed (.act a) s
  · rw [hask]
    rintro fault rfl
    refine .answered rfl (fun ha => ?_) rfl
    cases (congrArg (Request.accepts (.act a)) houtcome).symm.trans ha
  · rw [hask]
    trivial

/-- Some clicks may have been accepted before one is refused. -/
theorem clicks_spares (hmay : mayAct) (config : Config) (fuel : Nat) (p : Point) (delay : Duration)
    (remaining done : Nat) :
    (clicks g.transcribed config fuel p delay remaining done).Within (Station.Spared g mayAct) := by
  have hact : (ask g.transcribed (.act (.click p))).Within (Station.Spared g mayAct) := by
    intro s
    obtain ⟨reply, -, hask⟩ | ⟨crash, -, hask⟩ := ask_cases g.transcribed (.act (.click p)) s
    · rw [hask]
      exact .answered rfl (fun _ => hmay) rfl
    · rw [hask]
      trivial
  refine Exec.within_of_keeps fun s => Exec.alike_held_iff.1 ?_
  have hs := attuned_spared g mayAct s
  exact clicks_alike hs.stopped (fun _ hr => hs.routine_alike (Request.isRoutine_of_isWait hr))
    (Exec.alike_held_iff.2 (hact.keeps s)) _ _ _ _ _

/-- Whether a sum fits is found out before it is stored. -/
theorem stepVar_spares (b : Builtin) (name : String) (step : Int) :
    (stepVar g.transcribed b name step).FailsWithin (Station.Spared g mayAct) := by
  refine (ask_spares g mayAct (r := .load name) rfl fun _ => rfl).bind fun stored => ?_
  dsimp only
  split
  · exact Exec.failsWithin_error _
  · exact Exec.Returns.failsWithin <| Exec.returns_bind fun _ => Exec.returns_bind fun _ =>
      Exec.returns_pure ⟨_, rfl⟩

end Station

/-- Whether the command taps, which takes several actions. -/
def Command.isTap : Command → Bool
  | tap .. => true
  | _ => false

/-- Only a call of `tap` is read as such a command. -/
theorem Builtin.Issues.eq_tap {b : Builtin} {config : Config} {c : Command} (h : b.Issues config c)
    (hc : c.isTap) : b = .tap := by
  obtain ⟨args, env, d, d', hread⟩ := h
  refine (?_ : Reading.Yields (fun c => c.isTap → b = .tap) (b.read args env config))
    d c d' hread hc
  unfold Builtin.read
  dsimp only
  split
  · open Reading in
    cases b with
    | tap => exact fun _ _ _ _ _ => rfl
    | findText =>
      simp only [Arguments.command]
      split <;> exact yields_bind fun _ => yields_bind fun _ => yields_pure (Bool.noConfusion ·)
    | _ =>
      simp only [Arguments.command]
      repeat first | refine yields_bind fun _ => ?_ | exact yields_pure (Bool.noConfusion ·)
  · exact Reading.yields_throw _

/-- A command that fails has changed nothing, but a `tap` may have clicked. -/
theorem perform_spares (g : Gateway ω) {mayAct : Prop} (config : Config)
    (fuel line : Nat) {c : Command} (hmay : c.isTap → mayAct) :
    (c.perform g.transcribed config fuel line).FailsWithin (Station.Spared g mayAct) := by
  open Exec in
  cases hquery : c.isQuery with
  | true =>
    -- a query always gives a value
    refine Returns.failsWithin fun s => ?_
    exact (c.perform_returns _ _ _ _ hquery s).imp (fun _ _ ⟨v, h, _⟩ => ⟨some v, h⟩) fun _ h => h
  | false =>
    cases c with
    | act a =>
      refine (act_spares g _ a).bind (fun fault => failsWithin_error _) fun _ => ?_
      exact returns_bind fun _ => returns_pure ⟨_, rfl⟩
    | tap p count delay =>
      refine (clicks_spares g _ (hmay rfl) config fuel p delay count 0).bind fun result => ?_
      cases result with
      | error fault => exact failsWithin_error _
      | ok done => exact Returns.failsWithin (returns_bind fun _ => returns_pure ⟨_, rfl⟩)
    | stepVar b name step =>
      refine (stepVar_spares g _ b name step).bind (fun mishap => failsWithin_error _) fun v => ?_
      exact returns_pure ⟨_, rfl⟩
    | sleep duration =>
      refine Returns.failsWithin (returns_bind fun slept => ?_)
      split
      · exact returns_bind fun _ => returns_pure ⟨_, rfl⟩
      · exact returns_pure ⟨_, rfl⟩
    | log text => exact Returns.failsWithin (returns_bind fun _ => returns_pure ⟨_, rfl⟩)
    | setVar name value =>
      exact Returns.failsWithin (returns_bind fun _ => returns_bind fun _ => returns_pure ⟨_, rfl⟩)
    | random lo hi => exact Returns.failsWithin (returns_bind fun _ => returns_pure ⟨_, rfl⟩)
    | _ => cases hquery

/-! ## Statements that fail -/

/-- The same setup at a gateway that keeps a transcript. -/
def Setup.transcribed (setup : Setup ω) : Setup (ω × List Exchange) :=
  setup.movedTo setup.gateway.transcribed

/-- The frames and the loops of the two sessions are the same, and the station was spared. -/
structure Session.Spared (g : Gateway ω) (mayAct : Prop) (s t : Session (ω × List Exchange)) :
    Prop where
  scope : t.scope = s.scope
  loops : t.loops = s.loops
  station : s.station.Spared g mayAct t.station

instance (g : Gateway ω) (mayAct : Prop) : Std.Refl (Session.Spared g mayAct) :=
  ⟨fun s => ⟨rfl, rfl, Std.Refl.refl s.station⟩⟩

instance (g : Gateway ω) (mayAct : Prop) : IsTrans _ (Session.Spared g mayAct) :=
  ⟨fun _ _ _ h h' => ⟨h'.scope.trans h.scope, h'.loops.trans h.loops, h.station.trans h'.station⟩⟩

section Session

variable {g : Gateway ω} {mayAct : Prop}

/-- What spares the station spares the session. -/
theorem Exec.Within.lift {x : Exec (Station (ω × List Exchange)) α}
    (h : x.Within (Station.Spared g mayAct)) :
    (Session.lift x).Within (Session.Spared g mayAct) := by
  intro s
  have hends := h s.station
  rw [Session.lift, Exec.zoom]
  cases hx : x s.station with
  | done a t =>
    rw [hx] at hends
    exact ⟨rfl, rfl, hends⟩
  | crashed c t => trivial
  | exhausted => trivial

/-- What spares the station where it fails spares the session there. -/
theorem Exec.FailsWithin.lift {ε : Type} {x : Exec (Station (ω × List Exchange)) (Except ε α)}
    (h : x.FailsWithin (Station.Spared g mayAct)) :
    (Session.lift x).FailsWithin (Session.Spared g mayAct) := by
  intro s
  have hends := h s.station
  rw [Session.lift, Exec.zoom]
  cases hx : x s.station with
  | done result t =>
    rw [hx] at hends
    exact fun e he => ⟨rfl, rfl, hends e he⟩
  | crashed c t => trivial
  | exhausted => trivial

end Session

/-- The line is a call of `tap`, which may be assigned to a variable. -/
def Line.IsTap (line : Line) : Prop :=
  ∃ args target, Setup.builtinCall? (Text.trim line.text)
    (Assignment.ofText? (Text.trim line.text)) = some (.tap, args, target)

section Statement

open Exec

variable (setup : Setup ω) (mayAct : Prop)

/-- Reading the variables in a session spares it. -/
theorem setup_reading_spares (read : Environment → Dice → α × Dice) :
    (setup.transcribed.reading read).Within (Session.Spared setup.gateway mayAct) :=
  fun s => (reading_spares setup.gateway mayAct _ read).lift s

/-- Putting the values in the place of the calls in a session spares it. -/
theorem setup_expand_spares (line : Nat) (t : Text) :
    (setup.transcribed.expand line t).Within (Session.Spared setup.gateway mayAct) :=
  fun s => (expand_spares setup.gateway mayAct setup.config setup.fuel line _ t).lift s

/-- A command that fails in a session has spared it; only a tap may have acted before. -/
theorem setup_perform_spares {mayAct : Prop} (line : Nat) {b : Builtin} (hmay : b = .tap → mayAct)
    (args : Text) :
    (setup.transcribed.perform line b args).FailsWithin (Session.Spared setup.gateway mayAct) := by
  intro s
  refine FailsWithin.lift ?_ s
  refine (reading_spares setup.gateway mayAct s.scope.current _).bindReturns
    (Query.command_returns setup.gateway.transcribed setup.config s.scope.current b args)
      fun result hissues => ?_
  cases result with
  | error mishap => exact failsWithin_error _
  | ok c => exact perform_spares _ _ _ _ fun hc => hmay ((hissues c rfl).eq_tap hc)

variable (run : Function → Exec (Session (ω × List Exchange)) Flow)

/-- A call fails before the function is entered, if it fails. -/
theorem call_spares (line : Line) (f : Function) (args : Text) (target : Option Text) :
    (setup.transcribed.call run line f args target).FailsWithin
      (Session.Spared setup.gateway mayAct) := by
  have hdepth : (gets fun s => s.scope.depth).Within (Session.Spared setup.gateway mayAct) :=
    fun s => Std.Refl.refl s
  refine hdepth.bind fun depth => ?_
  split
  · exact failsWithin_error _
  · refine (setup_expand_spares setup mayAct _ _).bind fun expanded => ?_
    cases expanded with
    | error mishap => exact failsWithin_error _
    | ok expanded =>
      -- the function is entered, and nothing that it does is a mishap of this line
      refine Returns.failsWithin (returns_bind fun values => ?_)
      dsimp only
      split
      · exact returns_bind fun _ => returns_bind fun _ => returns_bind fun _ =>
          returns_pure ⟨_, rfl⟩
      · exact returns_bind fun _ => returns_bind fun _ => returns_pure ⟨_, rfl⟩

/-- Whether an operator applies to its operands is found out before the variable gets a value. -/
theorem assign_spares (line : Line) (a : Assignment) :
    (setup.transcribed.assign run line a).FailsWithin (Session.Spared setup.gateway mayAct) := by
  unfold Setup.assign
  cases setup.transcribed.assignedCall? a with
  | some call => exact call_spares setup mayAct run line call.1 call.2 _
  | none =>
    refine (setup_expand_spares setup mayAct _ _).bind fun expanded => ?_
    cases expanded with
    | error mishap => exact failsWithin_error _
    | ok expanded =>
      refine (setup_reading_spares setup mayAct _).bind fun value => ?_
      cases a.op with
      | none => exact Returns.failsWithin (returns_bind fun _ => returns_pure ⟨_, rfl⟩)
      | some op =>
        have hcurrent : (gets fun s => (s.scope.get? a.target).getD (.number 0.0)).Within
            (Session.Spared setup.gateway mayAct) := fun s => Std.Refl.refl s
        refine hcurrent.bind fun current => ?_
        cases Assignment.combine current op value with
        | error mishap => exact failsWithin_error _
        | ok v => exact Returns.failsWithin (returns_bind fun _ => returns_pure ⟨_, rfl⟩)

/-- A statement that fails has spared the session, whatever its calls would have run. -/
theorem statement_spares (line : Line) :
    (setup.transcribed.statement run line).FailsWithin
      (Session.Spared setup.gateway line.IsTap) := by
  unfold Setup.statement
  dsimp only
  split
  · exact Returns.failsWithin (returns_pure ⟨_, rfl⟩)
  · split
    -- a command, an assignment, or a call of a function; only a command may be a `tap`
    case h_1 b args target hcall =>
      have hmay : b = .tap → line.IsTap := by
        rintro rfl
        exact ⟨args, target, hcall⟩
      refine (setup_perform_spares setup line.number hmay args).bind
        (fun mishap => failsWithin_error _) fun v => ?_
      exact returns_bind fun _ => returns_pure ⟨_, rfl⟩
    case h_2 a hcall hassignment =>
      split
      · exact Returns.failsWithin (returns_bind fun _ => returns_pure ⟨_, rfl⟩)
      · exact assign_spares setup _ run line a
    case h_3 hcall hassignment =>
      split
      · exact failsWithin_error _
      · split
        · exact failsWithin_error _
        · exact call_spares setup _ run line _ _ _

end Statement

/-! ## Walks behind a statement that has failed -/

/-- A mishap is one entry of the journal and one line of the log, both with the number of the
line. -/
theorem Query.lift_report_eq (g : Gateway ω) (number : Nat) (m : Mishap) :
    (Session.lift (Query.report g number m) : Exec (Session ω) Unit) = (do
      Session.note (if m.isWarning then .warn else .error) m.message [("line", toString number)]
      Session.lift (ask g (.log s!"Line {number}: {m.message}"))) := by
  unfold Query.report
  split <;> rfl

/-- The walk complains about a statement that has failed, and goes on behind it. -/
theorem walk_eq_of_failed {setup : Setup ω} {fuel : Nat} {line : Line}
    {s₀ s₁ s t : Session ω} {m : Mishap} (hkind : Line.kind line.text = .statement)
    (hlook : setup.stopRequested s₀ = .done false s₁) (hvisit : setup.visit line s₁ = .done () s)
    (hfailed : setup.statement (fun f => setup.walk fuel f.body) line s = .done (.error m) t)
    (rest : List Line) :
    setup.walk (fuel + 1) (line :: rest) s₀ = (do
      Session.note (if m.isWarning then .warn else .error) m.message
        [("line", toString line.number)]
      Session.lift (ask setup.gateway (.log s!"Line {line.number}: {m.message}"))
      setup.walk fuel rest) t := by
  rw [← bind_assoc, ← Query.lift_report_eq, Setup.walk, Exec.bind_done hlook, if_neg (by decide),
    Exec.bind_done hvisit, hkind]
  dsimp only
  rw [Exec.bind_done hfailed]

/-- The walk looks at the stop flag. If it is set, that is all; otherwise the walk takes up the next
line, which is the first that is heard of it. -/
theorem walk_takes_up {setup : Setup ω} {stopped : Bool} {s t : Session (ω × List Exchange)}
    (hlook : setup.transcribed.stopRequested s = .done stopped t) (fuel : Nat) (next : Line)
    (rest : List Line) :
    let visited := t.station.transcript ++ [t.station.exchange setup.gateway (.visit next.number)]
    if stopped then setup.transcribed.walk (fuel + 1) (next :: rest) s = .done .normal t
    else (setup.transcribed.walk (fuel + 1) (next :: rest) s).Ends
      (fun _ u => visited <+: u.station.transcript) fun _ u =>
      visited <+: u.station.transcript := by
  intro visited
  -- once the line is written down as visited, it stays so
  have hkeeps : Counterparts setup.transcribed.gateway setup.gateway.transcribed _ _ :=
    .of_transcript setup.gateway visited
  obtain ⟨takeUp, takeUp', halike, hwalk, -⟩ :=
    hkeeps.takeUp_alike (hkeeps.walk_alike fuel) next rest
  rw [hwalk, Exec.bind_done hlook]
  cases stopped with
  | true => rfl
  | false =>
    have hvisited :
        visited <+:
          (t.station.answered setup.gateway.transcribed (.visit next.number)).transcript := by
      obtain ⟨es, -, -, htranscript⟩ :=
        t.station.transcript_answered setup.gateway (.visit next.number)
      exact ⟨es, by rw [htranscript, List.append_assoc]; rfl⟩
    have htakesUp : ∀ st : Station (ω × List Exchange), visited <+: st.transcript →
        (takeUp { t with station := st }).Meets (fun _ u => visited <+: u.station.transcript)
          fun u => visited <+: u.station.transcript :=
            fun st hst => Outcome.ends_iff_meets.1 (halike.ends hst)
    refine Outcome.ends_iff_meets.2 (Outcome.Meets.bind (Session.lift_meets ?_))
    obtain ⟨reply, -, hask⟩ | ⟨crash, -, hask⟩ :=
      ask_cases setup.gateway.transcribed (.visit next.number) t.station
    · exact hask ▸ htakesUp _ hvisited
    · exact hask ▸ hvisited

/-- A statement that fails changes nothing: all frames, the loops and the variables that outlive the
run are as before, the stop flag was set by others if at all, and no action was accepted unless the
statement is a `tap`. The functions of the script belong to the setup, which nothing changes. The
walk then complains once, with the number of the line, and takes up the next line unless the stop
flag is set. -/
theorem failed_statement_is_atomic (setup : Setup ω) :
    (∀ run line s t m, setup.transcribed.statement run line s = .done (.error m) t →
      s.Spared setup.gateway line.IsTap t) ∧
    (∀ fuel line rest s₀ s₁ s t m, Line.kind line.text = .statement →
      setup.transcribed.stopRequested s₀ = .done false s₁ →
        setup.transcribed.visit line s₁ = .done () s →
      setup.transcribed.statement (fun f => setup.transcribed.walk fuel f.body) line s =
        .done (.error m) t →
      setup.transcribed.walk (fuel + 1) (line :: rest) s₀ = (do
        Session.note (if m.isWarning then .warn else .error) m.message
          [("line", toString line.number)]
        Session.lift (ask setup.transcribed.gateway (.log s!"Line {line.number}: {m.message}"))
        setup.transcribed.walk fuel rest) t) ∧
    ∀ fuel next rest s t stopped, setup.transcribed.stopRequested s = .done stopped t →
      let visited := t.station.transcript ++ [t.station.exchange setup.gateway (.visit next.number)]
      if stopped then setup.transcribed.walk (fuel + 1) (next :: rest) s = .done .normal t
      else (setup.transcribed.walk (fuel + 1) (next :: rest) s).Ends
        (fun _ u => visited <+: u.station.transcript) fun _ u =>
        visited <+: u.station.transcript := by
  refine ⟨fun run line s t m hfailed => ?_, ?_, ?_⟩
  · have hspares := statement_spares setup run line s
    rw [hfailed] at hspares
    exact hspares m rfl
  · intro fuel line rest s₀ s₁ s t m hkind hlook hvisit hfailed
    exact walk_eq_of_failed hkind hlook hvisit hfailed rest
  · intro fuel next rest s t stopped hlook
    exact walk_takes_up hlook fuel next rest

/-- A click with one coordinate fails: the walk takes up the line, complains about it and is at its
end. -/
theorem failed_statement_is_atomic_click :
    let setup : Setup Device := ⟨Device.gateway, {}, .empty, 9⟩
    let line : Line := ⟨1, "click(5)".toList⟩
    let s₀ := Session.start (Station.transcribed { state := ({} : Device) })
    ∃ s₁ s t m, setup.transcribed.stopRequested s₀ = .done false s₁ ∧
      setup.transcribed.visit line s₁ = .done () s ∧
      setup.transcribed.statement (fun f => setup.transcribed.walk 8 f.body) line s =
      .done (.error m) t ∧ m.message = "click expects 2 arguments, got 1" ∧
      s.Spared Device.gateway line.IsTap t ∧ t.station.state.1.stored = s.station.state.1.stored ∧
      setup.transcribed.walk 9 [line] s₀ = (do
        Session.note (if m.isWarning then .warn else .error) m.message
          [("line", toString line.number)]
        Session.lift (ask setup.transcribed.gateway (.log s!"Line {line.number}: {m.message}"))
        setup.transcribed.walk 8 []) t := by
  intro setup line s₀
  let s₁ := { s₀ with station := s₀.station.answered setup.transcribed.gateway .checkpoint }
  let s := { s₁ with station := s₁.station.answered setup.transcribed.gateway (.visit 1) }
  have hfailure : (setup.transcribed.statement (fun f => setup.transcribed.walk 8 f.body)
      line s).failure? = some "click expects 2 arguments, got 1" := by decide +kernel
  obtain ⟨m, t, hfailed, hmessage⟩ := Outcome.eq_error_of_failure? hfailure
  obtain ⟨hspared, hwalk, -⟩ := failed_statement_is_atomic setup
  have hst := hspared _ _ _ _ _ hfailed
  exact ⟨s₁, s, t, m, rfl, rfl, hfailed, hmessage, hst, hst.station.stored Device.storeOnly_stored,
    hwalk 8 line [] s₀ s₁ s t m (by decide +kernel) rfl rfl hfailed⟩

end TapScript
