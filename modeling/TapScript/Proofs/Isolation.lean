import TapScript.Proofs.RunConduct

/-! # Isolation of calls

A call of a function works on a frame of its own. Whatever lines are walked through, and however
calls nest, fail or are cut short on the way, a walk gives back the frames of its callers and the
number of loops around it as it found them; a call gives its caller nothing but what it has left in
`result`. The functions of the script belong to the setup of a run, which nothing changes.

* `Contract.isolation` says what a walk leaves alone, and how deep calls may nest meanwhile.
* `Gateway.cutOff` lets a run crash at a chosen request, which shows the session at that moment.
* `walk_restores_callers` puts together what holds behind a walk, during it, and behind every call
  of a function. -/

namespace TapScript

open Exec

variable {ω : Type}

/-! ## The contract -/

/-- Anything may happen at the station. -/
def Contract.anything : Contract (Station ω) where
  done _ _ := True
  crashed _ _ := True
  refl _ := trivial
  trans _ _ := trivial
  late _ _ := trivial

/-- The callers' frames and the loops stay, and meanwhile calls nest no deeper than `limit`, or than
they did at the start. -/
def Contract.isolation (limit : Nat) : Contract (Session ω) where
  done s t := t.scope.callers = s.scope.callers ∧ t.loops = s.loops
  crashed s t := t.scope.depth ≤ max s.scope.depth limit
  refl _ := ⟨rfl, rfl⟩
  trans hst htu := ⟨htu.1.trans hst.1, htu.2.trans hst.2⟩
  late := by
    intro s t u hst htu
    show u.scope.depth ≤ max s.scope.callers.length limit
    rw [← hst.1]
    exact htu

/-- Whatever is done at a station, anything may happen there. -/
theorem conduct_anything (g : Gateway ω) : Conduct g Contract.anything fun _ => True where
  ask _ r _ _ st _ := by cases ask g r st <;> trivial
  consult _ _ bound interval looked image st := by
    cases Recognizer.consult g bound interval looked image st <;> trivial
  close _ _ st := by cases Recognizer.close g st <;> trivial
  note _ _ := trivial
  dice _ _ := trivial
  stop _ := trivial
  routine _ _ := trivial
  rest _ := trivial
  look _ _ _ _ := trivial

/-- A loop gives back the number of loops around it. -/
theorem inLoop_obeys_isolation {limit n : Nat} {turns : Exec (Session ω) Unit}
    (hturns : turns.Obeys (.isolation limit) n) :
    (Session.inLoop turns).Obeys (.isolation limit) n := by
  intro s
  have hbody := hturns { s with loops := s.loops + 1 }
  refine Outcome.Meets.bind (x := turns) (s := { s with loops := s.loops + 1 }) ?_
  exact hbody.imp (fun _ t ht => ⟨ht.1, rfl⟩) fun t ht => ht

/-- The session in which the body of a function starts. -/
def Session.entered (s : Session ω) (st : Station ω) (bindings : List (Text × Value)) : Session ω :=
  ⟨st, s.scope.enter bindings, 0⟩

/-- A call ends with the caller's frames and loops, and gives the `result` in the frame with which
the body has ended. -/
theorem inCall_meets {limit n : Nat} {body : Exec (Session ω) Flow}
    (hbody : body.Obeys (.isolation limit) n) (bindings : List (Text × Value)) (s : Session ω) :
    (Session.inCall bindings body s).Meets
      (fun result t => ∃ flow callee, body (s.entered s.station bindings) = .done flow callee ∧
        result = callee.scope.get? resultName ∧ t = { s with station := callee.station })
      fun t => t.scope.depth ≤ max (s.scope.depth + 1) limit := by
  have hmeets := hbody (s.entered s.station bindings)
  refine Outcome.Meets.bind (x := body) (s := s.entered s.station bindings) ?_
  cases hrun : body (s.entered s.station bindings) with
  | exhausted => trivial
  | crashed crash t =>
    rw [hrun] at hmeets
    exact hmeets
  | done flow callee =>
    rw [hrun] at hmeets
    -- the callee ends with the callers it started with, so leaving it uncovers the caller's frame
    have hcallers : callee.scope.callers = s.scope.current :: s.scope.callers := hmeets.1
    refine ⟨flow, callee, rfl, ?_, ?_⟩
    · simp only [Scope.leave, hcallers, Scope.get?]
    · simp only [Scope.leave, hcallers]

/-- Each part of a run leaves alone what the contract says, if calls nest within the limit. -/
theorem runConduct_isolation (setup : Setup ω) :
    RunConduct setup Contract.anything (fun _ => True) (.isolation setup.config.maxCallDepth) where
  station := conduct_anything _
  commands _ _ _ _ _ := trivial
  visits _ := trivial
  done _ _ _ := ⟨rfl, rfl⟩
  crashed s _ _ := Nat.le_max_left _ _
  tired _ _ _ := trivial
  ahead _ _ _ _ _ := trivial
  assign _ _ _ := ⟨rfl, rfl⟩
  loop _ _ := inLoop_obeys_isolation
  call _ bindings body hbody := by
    intro s hs
    refine (inCall_meets hbody bindings s).imp ?_ fun t ht => ?_
    · rintro result t ⟨flow, callee, -, -, rfl⟩
      exact ⟨rfl, rfl⟩
    · -- the one frame that a call adds is within the limit, since the limit is looked at before
      show t.scope.depth ≤ max s.scope.depth _
      omega

/-! ## Calls of functions -/

/-- What happens at the station leaves variables and loops alone. -/
theorem lift_frames {α : Type} (x : Exec (Station ω) α) (s : Session ω) :
    (Session.lift x s).Meets (fun _ t => ∃ st, t = { s with station := st }) fun _ => True :=
  Session.lift_meets ((returns_true x s.station).imp (fun _ st _ => ⟨st, rfl⟩) fun _ h => h)

/-- Putting the values in the place of the calls changes the station only. -/
theorem expand_frames (setup : Setup ω) (line : Nat) (t : Text) (s : Session ω) :
    (setup.expand line t s).Meets (fun _ u => ∃ st, u = { s with station := st }) fun _ => True :=
  lift_frames _ s

/-- Reading the variables changes the station only. -/
theorem reading_frames {α : Type} (setup : Setup ω) (read : Environment → Dice → α × Dice)
    (s : Session ω) :
    (setup.reading read s).Meets (fun _ u => ∃ st, u = { s with station := st }) fun _ => True :=
  lift_frames _ s

/-- The scope of a caller that has got the result of a call: the variable that the call is assigned
to has the result, if there are both. -/
def Scope.delivered (s : Scope) (target : Option Text) (result : Option Value) : Scope :=
  match target, result with
  | some name, some v => s.set name v
  | _, _ => s

/-- A result is delivered by setting the variable that awaits it, and nothing else. -/
theorem deliver_apply (target : Option Text) (result : Option Value) (s : Session ω) :
    Setup.deliver target result s =
      .done () { s with scope := s.scope.delivered target result } := by
  cases target <;> cases result <;> rfl

/-- What a call of a function comes to that is not nested too deep. Either its arguments could not
be read, or the body was run from a frame of its own, and the caller is as before but for the
result. -/
def Setup.CallEnds (setup : Setup ω) (fuel : Nat) (f : Function) (target : Option Text)
    (s : Session ω) : Except Mishap Unit → Session ω → Prop
  | .error _, t => ∃ st, t = { s with station := st }
  | .ok (), t => ∃ st values flow callee,
      setup.walk fuel f.body (s.entered st (f.params.zip values)) = .done flow callee ∧
        t = ⟨callee.station, s.scope.delivered target (callee.scope.get? resultName), s.loops⟩

/-- A call that is nested too deep changes nothing and asks for nothing. -/
theorem call_eq_of_maxCallDepth_le {setup : Setup ω} {run : Function → Exec (Session ω) Flow}
    {line : Line} {f : Function} {args : Text} {target : Option Text} {s : Session ω}
    (h : setup.config.maxCallDepth ≤ s.scope.depth) :
    setup.call run line f args target s =
      .done (.error (.tooDeep setup.config.maxCallDepth)) s := by
  unfold Setup.call
  rw [gets_bind, if_pos h]
  rfl

/-- A call that is not nested too deep gives its caller nothing but the result. -/
theorem call_meets (setup : Setup ω) (fuel : Nat) (line : Line) (f : Function) (args : Text)
    (target : Option Text) {s : Session ω} (h : s.scope.depth < setup.config.maxCallDepth) :
    (setup.call (fun f => setup.walk fuel f.body) line f args target s).Meets
      (setup.CallEnds fuel f target s) fun _ => True := by
  -- the body and what follows it, from the session in which the arguments have been read
  have body : ∀ st values, ((do
      Setup.deliver target (← Session.inCall (f.params.zip values) (setup.walk fuel f.body))
      return .ok () : Exec (Session ω) (Except Mishap Unit)) { s with station := st }).Meets
      (setup.CallEnds fuel f target s) fun _ => True := by
    intro st values
    have hwalk := (runConduct_isolation setup).walk_obeys fuel f.body
    refine Outcome.Meets.bind ((inCall_meets hwalk _ _).imp ?_ fun _ _ => trivial)
    rintro result t ⟨flow, callee, hrun, rfl, rfl⟩
    rw [bind_done (deliver_apply _ _ _)]
    exact ⟨st, values, flow, callee, hrun, rfl⟩
  unfold Setup.call
  rw [gets_bind, if_neg (by omega)]
  refine Outcome.Meets.bind ((expand_frames _ _ _ s).imp ?_ fun _ hc => hc)
  rintro expanded _ ⟨st, rfl⟩
  cases expanded with
  | error mishap => exact ⟨st, rfl⟩
  | ok expanded =>
    refine Outcome.Meets.bind ((reading_frames _ _ _).imp ?_ fun _ hc => hc)
    rintro values _ ⟨st', rfl⟩
    dsimp only
    split
    · refine Outcome.Meets.bind ((lift_frames _ _).imp ?_ fun _ hc => hc)
      rintro _ _ ⟨st'', rfl⟩
      exact body st'' _
    · exact body st' _

/-- The function of the script that a statement calls, with the text of the arguments and the
variable that the result is assigned to. -/
def Setup.functionCall? (setup : Setup ω) (t : Text) : Option (Function × Text × Option Text) :=
  let t := Text.trim t
  if t.isEmpty || (Text.after? ['/', '/'] t).isSome then none
  else
    match builtinCall? t (Assignment.ofText? t), Assignment.ofText? t with
    | some _, _ => none
    | none, some a =>
      if a.target == exitName then none
      else (setup.assignedCall? a).map fun (f, args) => (f, args, some a.target)
    | none, none => do
      let c ← Text.call? t
      let f ← setup.functions.get? c.name
      some (f, c.args, none)

/-- A line that calls a function of the script is carried out as this call. -/
theorem statement_eq_call {setup : Setup ω} {line : Line} {f : Function} {args : Text}
    {target : Option Text} (h : setup.functionCall? line.text = some (f, args, target))
    (run : Function → Exec (Session ω) Flow) :
    setup.statement run line = setup.call run line f args target := by
  unfold Setup.functionCall? at h
  unfold Setup.statement
  dsimp only at h ⊢
  split at h
  · cases h
  · rename_i hblank
    rw [if_neg hblank]
    -- what is no built-in is an assignment or a call of its own
    split at h
    · cases h
    · rename_i a hb ha
      rw [hb, ha]
      dsimp only
      split at h
      · cases h
      · rename_i htarget
        rw [if_neg htarget]
        obtain ⟨⟨f', args'⟩, hcall, hpair⟩ := Option.map_eq_some_iff.1 h
        cases hpair
        simp only [Setup.assign, hcall]
    · rename_i hb ha
      rw [hb, ha]
      simp only [Option.bind_eq_bind, Option.bind_eq_some_iff] at h
      obtain ⟨c, hc, f', hf, h⟩ := h
      cases h
      simp only [hc, hf]

/-- A statement that calls no function of the script runs no lines. -/
theorem statement_eq_of_functionCall?_eq_none {setup : Setup ω} {line : Line}
    (h : setup.functionCall? line.text = none) (run run' : Function → Exec (Session ω) Flow) :
    setup.statement run line = setup.statement run' line := by
  unfold Setup.functionCall? at h
  unfold Setup.statement
  dsimp only at h ⊢
  -- the text is blank, the call of a command, an assignment, or some other call
  split
  · rfl
  · rename_i hblank
    rw [if_neg hblank] at h
    split at h
    · rename_i hb
      simp only [hb]
    · rename_i a hb ha
      rw [hb, ha]
      dsimp only
      by_cases htarget : (a.target == exitName) = true
      · rw [if_pos htarget, if_pos htarget]
      · rw [if_neg htarget, if_neg htarget]
        rw [if_neg htarget] at h
        simp only [Setup.assign, Option.map_eq_none_iff.1 h]
    · rename_i hb ha
      rw [hb, ha]
      dsimp only
      cases hc : Text.call? (Text.trim line.text) with
      | none => rfl
      | some c =>
        simp only [hc, Option.bind_eq_bind, Option.bind_some, Option.bind_eq_none_iff] at h
        cases hf : setup.functions.get? c.name with
        | none => simp only [hf]
        | some f => cases h f hf

/-- What a statement does to the frame of its caller. A function of the script that is nested too
deep is not called at all; another one runs isolated; any other statement runs no lines. -/
def Setup.Isolates (setup : Setup ω) (fuel : Nat) (line : Line) (s : Session ω) : Prop :=
  match setup.functionCall? line.text with
  | none => ∀ run run', setup.statement run line s = setup.statement run' line s
  | some (f, _, target) =>
    if setup.config.maxCallDepth ≤ s.scope.depth then
      setup.statement (fun f => setup.walk fuel f.body) line s =
        .done (.error (.tooDeep setup.config.maxCallDepth)) s
    else
      (setup.statement (fun f => setup.walk fuel f.body) line s).Meets
        (setup.CallEnds fuel f target s) fun _ => True

/-- Every statement isolates what it calls. -/
theorem statement_isolates (setup : Setup ω) (fuel : Nat) (line : Line) (s : Session ω) :
    setup.Isolates fuel line s := by
  unfold Setup.Isolates
  split
  · rename_i hnone
    intro run run'
    rw [statement_eq_of_functionCall?_eq_none hnone run run']
  · rename_i f args target hcall
    rw [statement_eq_call hcall]
    split
    · rename_i hdeep
      exact call_eq_of_maxCallDepth_le hdeep
    · rename_i hdeep
      exact call_meets setup fuel line f args target (by omega)

/-! ## Every moment of a walk -/

/-- The gateway that answers some requests as `g` does, and crashes at the next one. -/
def Gateway.cutOff (g : Gateway ω) : Gateway (ω × Nat) where
  answer r stopped
    | (w, 0) => ⟨.error ⟨none⟩, .none, (w, 0)⟩
    | (w, n + 1) =>
      let turn := g.answer r stopped w
      ⟨turn.outcome, turn.signal, (turn.state, n)⟩

/-- The same setup with its gateway cut off. -/
def Setup.cutOff (setup : Setup ω) : Setup (ω × Nat) :=
  ⟨setup.gateway.cutOff, setup.config, setup.functions, setup.fuel⟩

/-- The same session at a gateway that is cut off behind `n` requests. -/
def Session.cutAfter (n : Nat) (s : Session ω) : Session (ω × Nat) :=
  ⟨⟨(s.station.state, n), s.station.stopped, s.station.recognizer, s.station.dice,
    s.station.journal⟩, s.scope, s.loops⟩

/-- A walk through any lines gives back its callers' frames and the loops around it. At each of its
requests, calls nest no deeper than the limit, or than they did at the start. Behind every statement
on the way, at whatever session it is carried out, the caller's frame is the one before it, but for
the variable that a function's result is assigned to. -/
theorem walk_restores_callers (setup : Setup ω) (fuel : Nat) (lines : List Line) (s : Session ω) :
    (setup.walk fuel lines s).Meets
        (fun _ t => t.scope.callers = s.scope.callers ∧ t.loops = s.loops)
        (fun t => t.scope.depth ≤ max s.scope.depth setup.config.maxCallDepth) ∧
      (∀ n, (setup.cutOff.walk fuel lines (s.cutAfter n)).Meets (fun _ _ => True)
        fun t => t.scope.depth ≤ max s.scope.depth setup.config.maxCallDepth) ∧
      ∀ line t, setup.Isolates fuel line t := by
  refine ⟨(runConduct_isolation setup).walk_obeys fuel lines s, fun n => ?_, fun line t => ?_⟩
  · have hcut := (runConduct_isolation setup.cutOff).walk_obeys fuel lines (s.cutAfter n)
    exact hcut.imp (fun _ _ _ => trivial) fun t ht => ht
  · exact statement_isolates setup fuel line t

end TapScript
