import TapScript.Engine
import TapScript.Proofs.Correspondence

/-! # Runs that correspond

From the moves at two stations, the comparison is carried to whole runs: two walks through the same
lines go alike, whatever their length, and so do two runs of the engine. Each lemma follows its
definition, so a run that differs from its counterpart would have to differ in a move.

* `Counterparts.walk_alike` compares two walks, `Counterparts.runScript_alike` two scripts and
  `Counterparts.proceed_alike` what two engines do.
* `Engine.EndAlike` is how two scripts end, where a crash is a value for the engine.
* `Gateway.Mirrors` says that two gateways give the same answers from states with a relation between
  them. Then the stations correspond if they differ in the states and in what the journal was
  before, and `Gateway.Mirrors.execute_alike` compares two runs of the engine there. -/

namespace TapScript

variable {α ω ω' : Type}

/-! ## Sessions -/

/-- The sessions have the same variables and loops, and their stations have `R`. -/
structure Session.Over (R : Station ω → Station ω' → Prop) (s : Session ω) (t : Session ω') :
    Prop where
  station : R s.station t.station
  scope : s.scope = t.scope
  loops : s.loops = t.loops

/-- What is alike at the stations is alike as a part of two runs. -/
theorem Session.lift_alike {A : Station ω → Station ω' → Prop}
    {C : Crash → Station ω → Station ω' → Prop} {x : Exec (Station ω) α} {y : Exec (Station ω') α}
    (hxy : Exec.Alike A C x y) :
    Exec.Alike (Session.Over A) (fun c => Session.Over (C c)) (Session.lift x)
      (Session.lift y) := by
  intro s t hst
  have hends := hxy _ _ hst.station
  simp only [Session.lift, Exec.zoom]
  cases hx : x s.station <;> cases hy : y t.station <;> rw [hx, hy] at hends <;> cases hends
  case done.done.done a s' t' h => exact .done ⟨h, hst.scope, hst.loops⟩
  case crashed.crashed.crashed c s' t' h => exact .crashed ⟨h, hst.scope, hst.loops⟩
  case exhausted.exhausted.exhausted => exact .exhausted

/-- Two runs go alike if their stations do and their variables and loops are the same. -/
abbrev Session.Alike (A : Station ω → Station ω' → Prop) (C : Crash → Station ω → Station ω' → Prop)
    (x : Exec (Session ω) α) (y : Exec (Session ω') α) : Prop :=
  Exec.Alike (Session.Over A) (fun c => Session.Over (C c)) x y

/-- What a run that goes alike with another one at the same station does to a property of the
station. -/
theorem Session.Alike.ends {I : Station ω → Prop} {E : Crash → Station ω → Prop}
    {x y : Exec (Session ω) α} (h : Session.Alike (Held I) (fun c => Held (E c)) x y)
    {s : Session ω} (hs : I s.station) :
    (x s).Ends (fun _ t => I t.station) fun c t => E c t.station := by
  have hends := h s s ⟨⟨rfl, hs⟩, rfl, rfl⟩
  generalize x s = o, y s = o' at hends
  cases hends with
  | done hst => exact hst.station.2
  | crashed hst => exact hst.station.2
  | exhausted => trivial

/-- The same setup at another gateway. -/
def Setup.movedTo (setup : Setup ω) (g : Gateway ω') : Setup ω' :=
  ⟨g, setup.config, setup.functions, setup.fuel⟩

namespace Counterparts

open Exec

variable {setup : Setup ω} {g' : Gateway ω'} {A : Station ω → Station ω' → Prop}
  {C : Crash → Station ω → Station ω' → Prop} (h : Counterparts setup.gateway g' A C)

omit h in
/-- The variables are the same on both sides. -/
theorem scope_alike (read : Scope → α) :
    Session.Alike A C (gets fun s => read s.scope) (gets fun t => read t.scope) :=
  .gets fun _ _ hst => congrArg read hst.scope

omit h in
/-- The same change of the variables on both sides keeps them the same. -/
theorem modifyScope_alike (change : Scope → Scope) :
    Session.Alike A C (modify fun s => { s with scope := change s.scope })
      (modify fun t => { t with scope := change t.scope }) :=
  .modify fun _ _ hst => ⟨hst.station, congrArg change hst.scope, hst.loops⟩

include h

/-- Both sides take down the same notice. -/
theorem note_alike (level : Level) (message : String) (fields : List (String × String)) :
    Session.Alike A C (Session.note level message fields) (Session.note level message fields) :=
  Session.lift_alike (h.record_alike _ _ _)

/-- Both sides find the stop flag alike. -/
theorem setup_stopRequested_alike :
    Session.Alike A C setup.stopRequested (setup.movedTo g').stopRequested :=
  Session.lift_alike h.stopRequested_alike

/-- What is read off the variables and the dice is the same on both sides. -/
theorem setup_reading_alike (read : Environment → Dice → α × Dice) :
    Session.Alike A C (setup.reading read) ((setup.movedTo g').reading read) :=
  (scope_alike Scope.current).bind fun _ => Session.lift_alike (h.reading_alike _ _)

/-- Both sides put the same values in the place of the calls. -/
theorem setup_expand_alike (line : Nat) (t : Text) :
    Session.Alike A C (setup.expand line t) ((setup.movedTo g').expand line t) :=
  (scope_alike Scope.current).bind fun _ =>
    Session.lift_alike (h.expand_alike isInner_of_query _ _ _ _ _)

/-- A condition has the same verdict on both sides. -/
theorem setup_test_alike (line : Nat) (condition : Text) :
    Session.Alike A C (setup.test line condition) ((setup.movedTo g').test line condition) :=
  (scope_alike Scope.current).bind fun _ =>
    Session.lift_alike (h.test_alike isInner_of_query _ _ _ _ _)

/-- Both sides read the same arguments and perform the same command. -/
theorem setup_perform_alike (line : Nat) (b : Builtin) (args : Text) :
    Session.Alike A C (setup.perform line b args) ((setup.movedTo g').perform line b args) := by
  refine (scope_alike Scope.current).bind fun frame => Session.lift_alike ?_
  refine (h.reading_alike _ _).bind fun result => ?_
  cases result with
  | error mishap => exact .pure _
  | ok c => exact h.perform_alike _ _ _ _

/-! ### Statements -/

omit h in
/-- Both sides deliver the same result. -/
theorem deliver_alike (target : Option Text) (v : Option Value) :
    Session.Alike A C (Setup.deliver target v) (Setup.deliver target v) := by
  unfold Setup.deliver
  split
  · exact modifyScope_alike fun sc => sc.set _ _
  · exact .pure _

/-- Both sides set the flag, or both leave it. -/
theorem assignExit_alike (line : Line) (condition : Text) :
    Session.Alike A C (setup.assignExit line condition)
      ((setup.movedTo g').assignExit line condition) := by
  refine (h.setup_reading_alike _).bind fun holds => ?_
  split
  · exact (h.note_alike _ _ _).bind fun _ => Session.lift_alike h.requestStop_alike
  · exact .pure _

omit h in
/-- A loop around both runs is one loop more around both. -/
theorem inLoop_alike {x : Exec (Session ω) Unit} {y : Exec (Session ω') Unit}
    (hxy : Session.Alike A C x y) : Session.Alike A C (Session.inLoop x) (Session.inLoop y) := by
  refine (Alike.gets fun _ _ hst => hst.loops).bind fun loops => ?_
  refine (Alike.modify fun _ _ hst => ⟨hst.station, hst.scope, rfl⟩).bind fun _ => ?_
  exact hxy.bind fun _ => .modify fun _ _ hst => ⟨hst.station, hst.scope, rfl⟩

omit h in
/-- Both runs enter a frame of the same variables, and leave it with the same result. -/
theorem inCall_alike {x : Exec (Session ω) Flow} {y : Exec (Session ω') Flow}
    (hxy : Session.Alike A C x y) (bindings : List (Text × Value)) :
    Session.Alike A C (Session.inCall bindings x) (Session.inCall bindings y) := by
  refine (Alike.gets fun _ _ hst => hst.loops).bind fun loops => ?_
  refine (Alike.modify fun _ _ hst =>
    ⟨hst.station, congrArg (Scope.enter · bindings) hst.scope, rfl⟩).bind fun _ => ?_
  refine hxy.bind fun _ => ?_
  refine (scope_alike fun sc => sc.leave.1).bind fun result => ?_
  refine (Alike.modify fun _ _ hst =>
    ⟨hst.station, congrArg (fun sc => sc.leave.2) hst.scope, rfl⟩).bind fun _ => ?_
  exact .pure _

section Run

variable {run : Function → Exec (Session ω) Flow} {run' : Function → Exec (Session ω') Flow}
  (hrun : ∀ f, Session.Alike A C (run f) (run' f))

include hrun

/-- Calls go alike if the bodies of functions do. -/
theorem call_alike (line : Line) (f : Function) (args : Text) (target : Option Text) :
    Session.Alike A C (setup.call run line f args target)
      ((setup.movedTo g').call run' line f args target) := by
  -- the body, with or without a note about missing arguments before it
  have body : ∀ bindings, Session.Alike A C
      (do Setup.deliver target (← Session.inCall bindings (run f))
          return .ok () : Exec (Session ω) (Except Mishap Unit))
      (do Setup.deliver target (← Session.inCall bindings (run' f))
          return .ok ()) := by
    intro bindings
    refine (inCall_alike (hrun f) bindings).bind fun result => ?_
    exact (deliver_alike target result).bind fun _ => .pure _
  refine (scope_alike Scope.depth).bind fun depth => .ite (.pure _) ?_
  refine (h.setup_expand_alike _ _).bind fun expanded => ?_
  cases expanded with
  | error mishap => exact .pure _
  | ok expanded =>
    refine (h.setup_reading_alike _).bind fun values => ?_
    exact .ite ((h.note_alike _ _ _).bind fun _ => body _) (body _)

/-- Assignments go alike if the bodies of functions do. -/
theorem assign_alike (line : Line) (a : Assignment) :
    Session.Alike A C (setup.assign run line a) ((setup.movedTo g').assign run' line a) := by
  have hsame : (setup.movedTo g').assignedCall? a = setup.assignedCall? a := rfl
  unfold Setup.assign
  rw [hsame]
  cases setup.assignedCall? a with
  | some call => exact h.call_alike hrun line call.1 call.2 _
  | none =>
    refine (h.setup_expand_alike _ _).bind fun expanded => ?_
    cases expanded with
    | error mishap => exact .pure _
    | ok expanded =>
      refine (h.setup_reading_alike _).bind fun value => ?_
      cases a.op with
      | none => exact (modifyScope_alike fun sc => sc.set _ _).bind fun _ => .pure _
      | some op =>
        refine (scope_alike fun sc => (sc.get? a.target).getD (.number 0.0)).bind fun current => ?_
        cases Assignment.combine current op value with
        | error mishap => exact .pure _
        | ok v => exact (modifyScope_alike fun sc => sc.set _ _).bind fun _ => .pure _

/-- Statements go alike if the bodies of functions do. -/
theorem statement_alike (line : Line) :
    Session.Alike A C (setup.statement run line) ((setup.movedTo g').statement run' line) := by
  unfold Setup.statement
  dsimp only
  split
  · exact .pure _
  · split
    · refine (h.setup_perform_alike _ _ _).bind fun result => ?_
      cases result with
      | error mishap => exact .pure _
      | ok v => exact (deliver_alike _ _).bind fun _ => .pure _
    · split
      · exact (h.assignExit_alike _ _).bind fun _ => .pure _
      · exact h.assign_alike hrun _ _
    · cases Text.call? (Text.trim line.text) with
      | none => exact .pure _
      | some c =>
        have hsame : (setup.movedTo g').functions.get? c.name = setup.functions.get? c.name := rfl
        dsimp only
        rw [hsame]
        cases setup.functions.get? c.name with
        | none => exact .pure _
        | some f => exact h.call_alike hrun line f _ _

end Run

/-! ### Walks -/

/-- A loop goes on for both sides, or for neither. -/
theorem goesOn_alike (line : Line) (condition : Text) :
    Session.Alike A C (setup.goesOn line condition) ((setup.movedTo g').goesOn line condition) := by
  unfold Setup.goesOn
  dsimp only
  split
  · exact .pure _
  · split
    · exact .pure _
    · split
      · exact h.setup_stopRequested_alike.bind fun _ => .pure _
      · exact h.setup_test_alike _ _

/-- The turns of a loop go alike if its body does. -/
theorem turns_alike (line : Line) (condition : Text) {body : Exec (Session ω) Flow}
    {body' : Exec (Session ω') Flow} (hbody : Session.Alike A C body body') (fuel : Nat) :
    Session.Alike A C (setup.turns line condition body fuel)
      ((setup.movedTo g').turns line condition body' fuel) := by
  induction fuel with
  | zero => exact .exhausted
  | succ fuel ih =>
    refine h.setup_stopRequested_alike.bind fun stopped => ?_
    split
    · exact .pure _
    · refine (h.goesOn_alike _ _).bind fun goesOn => ?_
      split
      · exact .pure _
      · refine hbody.bind fun flow => ?_
        split
        · exact .pure _
        · exact ih

section Branches

variable {run : List Line → Exec (Session ω) Flow} {run' : List Line → Exec (Session ω') Flow}
  (hrun : ∀ lines, Session.Alike A C (run lines) (run' lines))

include hrun

/-- A branch is taken by both sides or by neither, and goes alike if its body does. -/
theorem branch_alike (line : Line) (body : List Line) (condition : Option Text)
    (taken : Option Flow) :
    Session.Alike A C (setup.branch run line body condition taken)
      ((setup.movedTo g').branch run' line body condition taken) := by
  unfold Setup.branch
  split
  · exact .pure _
  · exact .map _ (hrun _)
  · refine (h.setup_test_alike _ _).bind fun holds => ?_
    split
    · exact .map _ (hrun _)
    · exact .pure _

/-- The branches of a chain go alike if their bodies do. -/
theorem chain_alike (condition : Option Text) (taken : Option Flow) (lines : List Line) :
    Session.Alike A C (setup.chain run condition taken lines)
      ((setup.movedTo g').chain run' condition taken lines) := by
  fun_induction Setup.chain setup run condition taken lines with
  | case1 condition taken =>
    rw [Setup.chain]
    exact .pure _
  | case2 condition taken line rest body behind ih =>
    rw [Setup.chain.eq_def (setup.movedTo g')]
    refine (h.branch_alike hrun _ _ _ _).bind fun taken => ?_
    subst behind
    cases (Block.cut (line :: rest)).2.head?.bind fun next => Line.alternative? next.text with
    | none => exact .pure _
    | some condition => exact ih _ _

end Branches

/-- Two walks look at the stop flag, tell which line they take up, and do alike with it whatever it
is, if they go alike in one step less. -/
theorem takeUp_alike {fuel : Nat}
    (hwalk : ∀ lines,
      Session.Alike A C (setup.walk fuel lines) ((setup.movedTo g').walk fuel lines))
    (line : Line) (rest : List Line) :
    ∃ takeUp takeUp', Session.Alike A C takeUp takeUp' ∧
      (setup.walk (fuel + 1) (line :: rest) = do
        if ← setup.stopRequested then return .normal
        setup.visit line
        takeUp) ∧
      ((setup.movedTo g').walk (fuel + 1) (line :: rest) = do
        if ← (setup.movedTo g').stopRequested then return .normal
        (setup.movedTo g').visit line
        takeUp') := by
  -- what the walks do with the line is read off their equations
  refine ⟨_, _, ?_, by rw [Setup.walk], by rw [Setup.walk]⟩
  cases Line.kind line.text with
  | loop condition =>
    exact (inLoop_alike (h.turns_alike _ _ (hwalk _) fuel)).bind fun _ => hwalk _
  | branch condition =>
    refine (h.chain_alike hwalk _ _ _).bind fun ⟨behind, flow⟩ => ?_
    dsimp only
    split
    · refine (Alike.gets fun _ _ hst => hst.loops).bind fun loops => ?_
      split
      · exact .pure _
      · exact (h.note_alike _ _ _).bind fun _ => hwalk _
    · exact hwalk _
  | header =>
    dsimp only
    split
    · exact (Session.lift_alike (h.warn_alike _ _)).bind fun _ => hwalk _
    · exact hwalk _
  | leave => exact .pure _
  | closer => exact hwalk _
  | quit =>
    refine (h.note_alike _ _ _).bind fun _ => ?_
    exact (Session.lift_alike h.requestStop_alike).bind fun _ => .pure _
  | statement =>
    refine (h.statement_alike (fun f => hwalk f.body) line).bind fun result => ?_
    cases result with
    | error mishap => exact (Session.lift_alike (h.report_alike _ _)).bind fun _ => hwalk _
    | ok _ => exact hwalk _

/-- Two walks through the same lines go alike. The induction is on the steps, as the walk's own
recursion is. -/
theorem walk_alike (fuel : Nat) (lines : List Line) :
    Session.Alike A C (setup.walk fuel lines) ((setup.movedTo g').walk fuel lines) := by
  induction fuel generalizing lines with
  | zero => exact .exhausted
  | succ fuel ih =>
    cases lines with
    | nil => exact .pure _
    | cons line rest =>
      obtain ⟨takeUp, takeUp', halike, hwalk, hwalk'⟩ := h.takeUp_alike ih line rest
      rw [hwalk, hwalk']
      refine h.setup_stopRequested_alike.bind fun stopped => ?_
      split
      · exact .pure _
      · exact (Session.lift_alike (h.ask _ rfl rfl)).bind fun _ => halike

end Counterparts

/-! ## The engine -/

namespace Counterparts

open Exec

variable {g : Gateway ω} {g' : Gateway ω'} {A : Station ω → Station ω' → Prop}
  {C : Crash → Station ω → Station ω' → Prop} (h : Counterparts g g' A C)

include h

/-- Two scripts go alike from the start, since the notes about their functions are the same. -/
theorem runScript_alike (config : Config) (fuel : Nat) (lines : List Line) :
    Session.Alike A C (runScript g config fuel lines) (runScript g' config fuel lines) := by
  have notes : ∀ (records : List Record) s t, A s t →
      A (records.foldl Station.note s) (records.foldl Station.note t) := by
    intro records
    induction records with
    | nil => exact fun _ _ hst => hst
    | cons r records ih => exact fun _ _ hst => ih _ _ (h.note hst r)
  let setup : Setup ω := ⟨g, config, (Registry.ofLines lines).1, fuel⟩
  have h : Counterparts setup.gateway g' A C := h
  refine (Session.lift_alike (.modify (notes _))).bind fun _ => ?_
  exact (h.note_alike _ _ _).bind fun _ => h.walk_alike fuel lines

end Counterparts

namespace Engine

/-- Two scripts have ended alike: at stations with `A`, or with `C` if they have crashed. -/
inductive EndAlike (A : Station ω → Station ω' → Prop) (C : Crash → Station ω → Station ω' → Prop) :
    Outcome (Station ω) (Except Crash Flow × Frame) →
      Outcome (Station ω') (Except Crash Flow × Frame) → Prop
  | ok {flow : Flow} {frame : Frame} {s : Station ω} {t : Station ω'} (h : A s t) :
    EndAlike A C (.done (.ok flow, frame) s) (.done (.ok flow, frame) t)
  | error {c : Crash} {frame : Frame} {s : Station ω} {t : Station ω'} (h : C c s t) :
    EndAlike A C (.done (.error c, frame) s) (.done (.error c, frame) t)
  | exhausted : EndAlike A C .exhausted .exhausted

end Engine

namespace Counterparts

open Exec

variable {g : Gateway ω} {g' : Gateway ω'} {A : Station ω → Station ω' → Prop}
  {C : Crash → Station ω → Station ω' → Prop} (h : Counterparts g g' A C)

include h

/-- Two scripts end alike, also if they crash. -/
theorem interpret_endAlike (config : Config) (fuel : Nat) (lines : List Line) {s : Station ω}
    {t : Station ω'} (hst : A s t) :
    Engine.EndAlike A C (Engine.interpret g config fuel lines s)
      (Engine.interpret g' config fuel lines t) := by
  have hends := h.runScript_alike config fuel lines (Session.start s) (Session.start t)
    ⟨hst, rfl, rfl⟩
  unfold Engine.interpret
  cases hx : runScript g config fuel lines (Session.start s) <;>
    cases hy : runScript g' config fuel lines (Session.start t) <;>
      rw [hx, hy] at hends <;> cases hends
  case done.done.done flow s' t' hover =>
    simp only [hover.scope]
    exact .ok hover.station
  case crashed.crashed.crashed c s' t' hover =>
    simp only [hover.scope]
    exact .error hover.station
  case exhausted.exhausted.exhausted => exact .exhausted

omit h in
/-- A script that is compared with itself ends at a station with `I`, or in a crash `c` at a station
with `E c`. -/
theorem interpret_ends {I : Station ω → Prop} {E : Crash → Station ω → Prop}
    (h : Counterparts g g (Held I) fun c => Held (E c)) (config : Config) (fuel : Nat)
    (lines : List Line) {s : Station ω} (hs : I s) :
    (Engine.interpret g config fuel lines s).Ends
      (fun result t => match result.1 with
        | .ok _ => I t
        | .error c => E c t)
      (fun _ _ => False) (Engine.interpret g config fuel lines s = .exhausted) := by
  have hends := h.interpret_endAlike config fuel lines ⟨rfl, hs⟩
  cases hx : Engine.interpret g config fuel lines s <;> rw [hx] at hends <;> cases hends
  case ok h => exact h.2
  case error h => exact h.2
  case exhausted => rfl

/-- Two runs are announced alike, if both gateways tell alike whether they are ready. -/
theorem announce_alike (hready : Alike A C (TapScript.ask g .ready) (TapScript.ask g' .ready))
    (lines : List Line) : Alike A C (Engine.announce g lines) (Engine.announce g' lines) := by
  refine hready.bind fun ready => ?_
  cases ready with
  | true => exact h.record_alike _ _ _
  | false => exact (h.record_alike _ _ _).bind fun _ => h.record_alike _ _ _

/-- Two runs that have ended alike are wound up alike. -/
theorem finish_alike (outcome : Except Crash Flow) :
    Alike A C (Engine.finish g outcome) (Engine.finish g' outcome) := by
  have conclude : Alike A C (Engine.conclude g outcome) (Engine.conclude g' outcome) := by
    cases outcome with
    | ok flow =>
      refine h.stopRequested_alike.bind fun stopped => ?_
      split
      · exact .pure _
      · exact .pure _
    | error crash =>
      exact (h.record_alike _ _ _).bind fun _ => (h.ask _ rfl rfl).bind fun _ => .pure _
  refine h.close.bind fun _ => conclude.bind fun status => ?_
  exact (h.record_alike _ _ _).bind fun _ => .pure _

/-- If the stations correspond behind a crash too, then so do two runs of the engine. -/
theorem proceed_alike (hcrash : ∀ {c s t}, C c s t → A s t)
    (hready : Alike A C (TapScript.ask g .ready) (TapScript.ask g' .ready))
    (config : Config) (fuel : Nat) (lines : List Line) :
    Alike A C (Engine.proceed g config fuel lines) (Engine.proceed g' config fuel lines) := by
  have interpret : Alike A C (Engine.interpret g config fuel lines)
      (Engine.interpret g' config fuel lines) := by
    intro s t hst
    have hends := h.interpret_endAlike config fuel lines hst
    cases hx : Engine.interpret g config fuel lines s <;>
      cases hy : Engine.interpret g' config fuel lines t <;> rw [hx, hy] at hends <;> cases hends
    case done.done.ok h => exact .done h
    case done.done.error h => exact .done (hcrash h)
    case exhausted.exhausted.exhausted => exact .exhausted
  refine (h.announce_alike hready lines).bind fun _ => interpret.bind fun result => ?_
  exact (h.finish_alike result.1).bind fun _ => .pure _

end Counterparts

/-! ## Gateways that mirror each other -/

/-- From states with `R` the two gateways give the same answers, and get to states with `R`
again. -/
def Gateway.Mirrors (g : Gateway ω) (g' : Gateway ω') (R : ω → ω' → Prop) : Prop :=
  ∀ r stopped w w', R w w' →
    (g.answer r stopped w).outcome = (g'.answer r stopped w').outcome ∧
    (g.answer r stopped w).signal = (g'.answer r stopped w').signal ∧
    R (g.answer r stopped w).state (g'.answer r stopped w').state

/-- The stations are the same, but that their gateways are in states with `R`, and that the journal
was `j` before the one and `j'` before the other. -/
structure Station.Mirrors (R : ω → ω' → Prop) (j j' : Array Record) (s : Station ω)
    (t : Station ω') : Prop where
  state : R s.state t.state
  stopped : s.stopped = t.stopped
  recognizer : s.recognizer = t.recognizer
  dice : s.dice = t.dice
  journal : ∃ records, s.journal = j ++ records ∧ t.journal = j' ++ records

namespace Station.Mirrors

variable {g : Gateway ω} {g' : Gateway ω'} {R : ω → ω' → Prop} {j j' : Array Record} {s : Station ω}
  {t : Station ω'}

/-- The same notice on both sides is added to both journals. -/
theorem note (h : s.Mirrors R j j' t) (r : Record) : (s.note r).Mirrors R j j' (t.note r) := by
  obtain ⟨records, hs, ht⟩ := h.journal
  refine ⟨h.state, h.stopped, h.recognizer, h.dice, records.push r, ?_, ?_⟩
  · rw [Station.note, hs, Array.append_push]
  · rw [Station.note, ht, Array.append_push]

/-- The flags are set or cleared together. -/
theorem stop (h : s.Mirrors R j j' t) (b : Bool) :
    Station.Mirrors R j j' { s with stopped := b } { t with stopped := b } :=
  ⟨h.state, rfl, h.recognizer, h.dice, h.journal⟩

/-- The same recognizer is held by both. -/
theorem hold (h : s.Mirrors R j j' t) (r : Option SessionId) :
    Station.Mirrors R j j' { s with recognizer := r } { t with recognizer := r } :=
  ⟨h.state, h.stopped, rfl, h.dice, h.journal⟩

/-- Who closes the recognizer of one station closes that of the other. -/
theorem release (hg : g.Mirrors g' R) (h : s.Mirrors R j j' t) :
    (s.release g).Mirrors R j j' (t.release g') := by
  unfold Station.release
  rw [← h.recognizer]
  cases s.recognizer with
  | none => exact h
  | some session =>
    have hnoted := h.note ⟨.debug, "Closing text recognizer", []⟩
    dsimp only
    rw [← hnoted.stopped]
    have hstate := (hg (.closeRecognizer session) s.stopped _ _ hnoted.state).2.2
    exact ⟨hstate, rfl, rfl, hnoted.dice, hnoted.journal⟩

/-- The same request on both sides leads to stations that mirror each other again. -/
theorem answered (hg : g.Mirrors g' R) (h : s.Mirrors R j j' t) (r : Request) :
    (s.answered g r).Mirrors R j j' (t.answered g' r) := by
  obtain ⟨-, hsignal, hstate⟩ := hg r s.stopped s.state t.state h.state
  have hasked : Station.Mirrors R j j' { s with state := (g.answer r s.stopped s.state).state }
      { t with state := (g'.answer r s.stopped t.state).state, stopped := s.stopped } :=
    ⟨hstate, rfl, h.recognizer, h.dice, h.journal⟩
  unfold Station.answered
  rw [← h.stopped]
  dsimp only
  rw [hsignal]
  cases (g'.answer r s.stopped t.state).signal with
  | none => exact hasked
  | stop => exact hasked.stop true
  | close => exact (hasked.stop true).release hg

/-- Mirrored stations get the same reply. -/
theorem ask_alike (hg : g.Mirrors g' R) (r : Request) :
    Exec.Alike (Station.Mirrors R j j') (fun _ => Station.Mirrors R j j') (ask g r) (ask g' r) := by
  intro s t hst
  have hanswered := hst.answered hg r
  obtain ⟨houtcome, -, -⟩ := hg r s.stopped s.state t.state hst.state
  rw [hst.stopped] at houtcome
  obtain ⟨reply, hs, hask⟩ | ⟨crash, hs, hask⟩ := ask_cases g r s
  · obtain ⟨reply', ht, hask'⟩ | ⟨crash', ht, hask'⟩ := ask_cases g' r t
    · rw [hst.stopped, houtcome, ht] at hs
      cases hs
      rw [hask, hask']
      exact .done hanswered
    · rw [hst.stopped, houtcome, ht] at hs
      cases hs
  · obtain ⟨reply', ht, hask'⟩ | ⟨crash', ht, hask'⟩ := ask_cases g' r t
    · rw [hst.stopped, houtcome, ht] at hs
      cases hs
    · rw [hst.stopped, houtcome, ht] at hs
      cases hs
      rw [hask, hask']
      exact .crashed hanswered

end Station.Mirrors

/-- All moves at gateways that mirror each other are alike. -/
theorem Gateway.Mirrors.counterparts {g : Gateway ω} {g' : Gateway ω'} {R : ω → ω' → Prop}
    (hg : g.Mirrors g' R) (j j' : Array Record) :
    Counterparts g g' (Station.Mirrors R j j') fun _ => Station.Mirrors R j j' := by
  refine Counterparts.of_asks ?_ (fun r _ => Station.Mirrors.ask_alike hg r) fun a =>
    Station.Mirrors.ask_alike hg (.act a)
  exact {
    stopped := fun h => h.stopped
    recognizer := fun h => h.recognizer
    dice := fun h => h.dice
    note := fun h r => h.note r
    roll := fun h _ => ⟨h.state, h.stopped, h.recognizer, rfl, h.journal⟩
    stop := fun h => h.stop true
    hold := fun h r => h.hold r }

namespace Gateway.Mirrors

variable {g : Gateway ω} {g' : Gateway ω'} {R : ω → ω' → Prop} (hg : g.Mirrors g' R)
  (j j' : Array Record)

include hg

/-- Runs of the engine at mirrored stations go alike. -/
theorem execute_alike (config : Config) (fuel : Nat) (lines : List Line) :
    Exec.Alike (Station.Mirrors R j j') (fun _ => Station.Mirrors R j j')
      (Engine.execute g config fuel lines) (Engine.execute g' config fuel lines) :=
  (Exec.Alike.modify fun _ _ h => h.stop false).bind fun _ =>
    (hg.counterparts j j').proceed_alike (fun h => h) (Station.Mirrors.ask_alike hg .ready)
      config fuel lines

/-- Closing the engine at mirrored stations goes alike. -/
theorem close_alike :
    Exec.Alike (Station.Mirrors R j j') (fun _ => Station.Mirrors R j j') (Engine.close g)
      (Engine.close g') :=
  (hg.counterparts j j').requestStop_alike.bind fun _ => (hg.counterparts j j').close

end Gateway.Mirrors

end TapScript
