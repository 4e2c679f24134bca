import TapScript.Engine
import TapScript.Proofs.Conduct

/-! # The conduct of runs

What a run adds to the conduct of commands and queries is its variables and its loops. `RunConduct`
says that assigning a variable, running a loop and running the body of a function keep a contract;
this module carries the contract through statements, branches and loops to every walk through lines,
well formed or not, and to the whole run of a script.

* `RunConduct.statement_obeysFrom` is the contract of a statement, which counts on a clear flag.
* `RunConduct.walk_obeys` is the contract of a walk, `Conduct.runScript_obeys` that of a script.
* `Conduct.proceed_meets` is what a run of the engine keeps, and how its status comes about. -/

namespace TapScript

variable {ω α : Type}

/-- The moves of a run keep the contract `k`, those at its station the contract `k₀`. The body of a
function is run only where calls may nest one level deeper. -/
structure RunConduct (setup : Setup ω) (k₀ : Contract (Station ω)) (allowed : Request → Prop)
    (k : Contract (Session ω)) : Prop where
  station : Conduct setup.gateway k₀ allowed
  commands : ∀ (b : Builtin) (c : Command), b.Issues setup.config c → ∀ r, c.MayAsk r → allowed r
  visits : ∀ n, allowed (.visit n)
  done : ∀ (s : Session ω) st, k₀.done s.station st → k.done s { s with station := st }
  crashed : ∀ (s : Session ω) st, k₀.crashed s.station st → k.crashed s { s with station := st }
  tired : ∀ n (s : Session ω), k₀.tired n s.station → k.tired n s
  ahead : ∀ (s : Session ω) st, k₀.ahead s.station st → k.ahead s { s with station := st }
  assign : ∀ (s : Session ω) name v, k.done s { s with scope := s.scope.set name v }
  loop : ∀ n (turns : Exec (Session ω) Unit), turns.Obeys k n → (Session.inLoop turns).Obeys k n
  call : ∀ n bindings (body : Exec (Session ω) Flow), body.Obeys k n →
    (Session.inCall bindings body).ObeysFrom
      (fun s => s.scope.depth < setup.config.maxCallDepth) k n

namespace RunConduct

open Exec

variable {setup : Setup ω} {k₀ : Contract (Station ω)} {allowed : Request → Prop}
variable {k : Contract (Session ω)} {n : Nat} (h : RunConduct setup k₀ allowed k)

include h

/-! ## Moves at the station -/

/-- What keeps the station's contract from some stations keeps the session's contract there. -/
theorem lift_obeysFrom {P : Station ω → Prop} {x : Exec (Station ω) α} (hx : x.ObeysFrom P k₀ n) :
    (Session.lift x).ObeysFrom (fun s => P s.station) k n := fun s hs =>
  Session.lift_meets ((hx s.station hs).imp (fun _ => h.done s) (h.crashed s) (h.tired n s))

/-- What keeps the station's contract keeps the session's. -/
theorem lift_obeys {x : Exec (Station ω) α} (hx : x.Obeys k₀ n) : (Session.lift x).Obeys k n :=
  fun s => Session.lift_meets ((hx s.station).imp (fun _ => h.done s) (h.crashed s) (h.tired n s))

/-- What happens at the station does not change the variables. -/
theorem lift_keeps_scope (P : Scope → Prop) {x : Exec (Station ω) α} (hx : x.Obeys k₀ n) :
    (Session.lift x).Obeys (k.keeping fun s => P s.scope) n := fun s =>
  Session.lift_meets ((hx s.station).imp (fun _ st hst hs => ⟨h.done s st hst, hs⟩)
    (fun st hst _ => h.crashed s st hst) fun ht _ => h.tired n s ht)

/-- Taking down a notice keeps the contract. -/
theorem note_obeys (level : Level) (message : String) (fields : List (String × String)) :
    (Session.note level message fields : Exec (Session ω) Unit).Obeys k n :=
  h.lift_obeys (h.station.record_obeys _ _ _)

/-- Looking at the flag keeps the contract. -/
theorem stopRequested_obeys : setup.stopRequested.Obeys k n :=
  h.lift_obeys h.station.stopRequested_obeys

/-- Behind a look that finds the flag clear, a computation may count on that and has made a step. -/
theorem unless_stopped {m : Nat} {a : α} {x : Exec (Session ω) α} (hmn : n ≤ m + 1)
    (hx : x.ObeysFrom (fun s => s.station.stopped = false) k m) :
    (do if ← setup.stopRequested then return a else x).Obeys k n := by
  rw [obeys_iff_obeysFrom_true]
  refine ObeysFrom.bindAhead false (fun s _ => Session.lift_meets ?_) hmn hx (obeys_pure a)
  exact (h.station.stopRequested_meets s.station).imp
    (fun _ st hst => ⟨h.done s st hst.1, fun hb => ⟨h.ahead s st (hst.2.2 hb), hst.2.1.trans hb⟩⟩)
    (h.crashed s) (h.tired n s)

/-- A line is taken up where the flag is clear, which leaves it clear. -/
theorem visit_meets (line : Line) {s : Session ω} (hs : s.station.stopped = false) :
    (setup.visit line s).Meets (fun _ t => k.done s t ∧ Clear setup.gateway t.station) (k.crashed s)
      (k.tired n s) :=
  Session.lift_meets ((h.station.visit_meets (h.visits line.number) hs).imp
    (fun _ st hst => ⟨h.done s st hst.1, hst.2⟩) (h.crashed s) (h.tired n s))

/-! ## Queries and commands -/

/-- Reading the variables keeps the contract and leaves them alone. -/
theorem reading_keeps_scope (P : Scope → Prop) (read : Environment → Dice → α × Dice) :
    (setup.reading read).Obeys (k.keeping fun s => P s.scope) n :=
  (obeys_gets _).bind fun _ => h.lift_keeps_scope P (h.station.reading_obeys _ _)

/-- Reading the variables keeps the contract. -/
theorem reading_obeys (read : Environment → Dice → α × Dice) : (setup.reading read).Obeys k n :=
  (h.reading_keeps_scope (fun _ => True) read).of_keeping fun _ => trivial

section Fuel

variable (hn : n ≤ setup.fuel)

include hn

/-- Putting the values in the place of the calls keeps the contract and leaves the variables alone.
-/
theorem expand_keeps_scope (P : Scope → Prop) (line : Nat) (t : Text) :
    (setup.expand line t).Obeys (k.keeping fun s => P s.scope) n :=
  (obeys_gets _).bind fun _ => h.lift_keeps_scope P
    ((h.station.expand_obeys (fun b c _ => h.commands b c) _ _ _ _).fewer hn)

/-- Putting the values in the place of the calls keeps the contract. -/
theorem expand_obeys (line : Nat) (t : Text) : (setup.expand line t).Obeys k n :=
  (h.expand_keeps_scope hn (fun _ => True) line t).of_keeping fun _ => trivial

/-- Testing a condition keeps the contract. -/
theorem test_obeys (line : Nat) (condition : Text) : (setup.test line condition).Obeys k n :=
  (obeys_gets _).bind fun _ => h.lift_obeys
    ((h.station.test_obeys (fun b c _ => h.commands b c) _ _ _ _).fewer hn)

/-- A call of a command is read before it is carried out, which leaves the flag as it is. -/
theorem perform_obeysFrom (line : Nat) (b : Builtin) (args : Text) :
    (setup.perform line b args).ObeysFrom (fun s => Clear setup.gateway s.station) k n := by
  refine ObeysFrom.bind (R := fun _ s => Clear setup.gateway s.station)
    (fun s hs => ⟨k.refl s, hs⟩) fun frame => h.lift_obeysFrom ?_
  refine Obeys.bindFrom (h.station.reading_keeps _ _) (Query.command_returns _ _ _ _ _)
    fun result hr => ?_
  cases result with
  | error mishap => exact (obeys_pure _).obeysFrom
  | ok c =>
    intro st hst
    have hperform := h.station.perform_obeysFrom setup.config setup.fuel line
      (h.commands b c (hr c rfl)) st fun _ => hst
    exact hperform.imp (fun _ _ ht => ht) (fun _ hc => hc) (k₀.fewer hn)

end Fuel

/-! ## Statements -/

/-- Giving a variable a value keeps the contract. -/
theorem bind_obeys (name : Text) (v : Value) :
    (Session.bind name v : Exec (Session ω) Unit).Obeys k n :=
  obeys_modify fun s => h.assign s name v

/-- Delivering a result keeps the contract. -/
theorem deliver_obeys (target : Option Text) (v : Option Value) :
    (Setup.deliver target v : Exec (Session ω) Unit).Obeys k n := by
  unfold Setup.deliver
  split
  · exact h.bind_obeys _ _
  · exact obeys_pure _

/-- Setting the flag by an assignment keeps the contract. -/
theorem assignExit_obeys (line : Line) (condition : Text) :
    (setup.assignExit line condition).Obeys k n := by
  refine (h.reading_obeys _).bind fun holds => ?_
  split
  · exact (h.note_obeys _ _ _).bind fun _ => h.lift_obeys h.station.requestStop_obeys
  · exact obeys_pure _

section Run

variable {run : Function → Exec (Session ω) Flow} (hrun : ∀ f, (run f).Obeys k n)
variable (hn : n ≤ setup.fuel)

include hrun hn

/-- From the look at the depth up to the body, a call only reads its arguments, which leaves the
depth as it is. -/
theorem call_obeys (line : Line) (f : Function) (args : Text) (target : Option Text) :
    (setup.call run line f args target).Obeys k n := by
  let deeper : Session ω → Prop := fun s => s.scope.depth < setup.config.maxCallDepth
  -- the body and what follows it, with or without a note about missing arguments before
  have body : ∀ bindings, (do
      Setup.deliver target (← Session.inCall bindings (run f))
      return .ok () : Exec (Session ω) (Except Mishap Unit)).ObeysFrom deeper k n := by
    intro bindings
    refine ObeysFrom.bind (R := fun _ _ => True) (fun s hs => ?_) fun result => ?_
    · exact (h.call n bindings _ (hrun f) s hs).imp (fun _ _ ht => ⟨ht, trivial⟩) fun _ hc => hc
    · exact Obeys.obeysFrom ((h.deliver_obeys target result).bind fun _ => obeys_pure _)
  rw [obeys_iff_obeysFrom_true]
  refine ObeysFrom.bind (R := fun depth s => s.scope.depth = depth)
    (fun s _ => ⟨k.refl s, rfl⟩) fun depth => ?_
  split
  · exact (obeys_pure _).obeysFrom
  · rename_i hdepth
    intro s hs
    refine (?_ : Exec.ObeysFrom deeper k n _) s (by simp only [deeper]; omega)
    refine Obeys.bindFrom (h.expand_keeps_scope hn (fun sc => sc.depth < _) _ _) (returns_true _)
      fun expanded _ => ?_
    cases expanded with
    | error mishap => exact (obeys_pure _).obeysFrom
    | ok expanded =>
      refine Obeys.bindFrom (h.reading_keeps_scope (fun sc => sc.depth < _) _) (returns_true _)
        fun values _ => ?_
      dsimp only
      split
      · exact Obeys.bindFrom (h.lift_keeps_scope (fun sc => sc.depth < _)
          (h.station.record_obeys _ _ _)) (returns_true _) fun _ _ => body _
      · exact body _

/-- An assignment keeps the contract, if the functions that it may call do. -/
theorem assign_obeys (line : Line) (a : Assignment) : (setup.assign run line a).Obeys k n := by
  unfold Setup.assign
  split
  · exact h.call_obeys hrun hn _ _ _ _
  · refine (h.expand_obeys hn _ _).bind fun expanded => ?_
    cases expanded with
    | error mishap => exact obeys_pure _
    | ok expanded =>
      refine (h.reading_obeys _).bind fun value => ?_
      cases a.op with
      | none => exact (h.bind_obeys _ _).bind fun _ => obeys_pure _
      | some op =>
        refine (obeys_gets _).bind fun current => ?_
        cases Assignment.combine current op value with
        | error mishap => exact obeys_pure _
        | ok v => exact (h.bind_obeys _ _).bind fun _ => obeys_pure _

/-- Only a statement that calls a command counts on the clear flag: what another statement does at
the device happens in the walk through the body of a function. -/
theorem statement_obeysFrom (line : Line) :
    (setup.statement run line).ObeysFrom (fun s => Clear setup.gateway s.station) k n := by
  unfold Setup.statement
  dsimp only
  split
  · exact (obeys_pure _).obeysFrom
  · split
    · rename_i builtin args target _
      refine ObeysFrom.bind (R := fun _ _ => True) (fun s hs => ?_) fun result => ?_
      · exact (h.perform_obeysFrom hn _ _ _ s hs).imp (fun _ _ ht => ⟨ht, trivial⟩) fun _ hc => hc
      · refine Obeys.obeysFrom ?_
        cases result with
        | error mishap => exact obeys_pure _
        | ok v => exact (h.deliver_obeys _ _).bind fun _ => obeys_pure _
    -- from here on nothing is done to the device by the statement itself
    · refine Obeys.obeysFrom ?_
      split
      · exact (h.assignExit_obeys _ _).bind fun _ => obeys_pure _
      · exact h.assign_obeys hrun hn _ _
    · refine Obeys.obeysFrom ?_
      split
      · exact obeys_pure _
      · split
        · exact obeys_pure _
        · exact h.call_obeys hrun hn _ _ _ _

end Run

/-! ## Walks -/

/-- Deciding whether a loop goes on keeps the contract. -/
theorem goesOn_obeys (hn : n ≤ setup.fuel) (line : Line) (condition : Text) :
    (setup.goesOn line condition).Obeys k n := by
  unfold Setup.goesOn
  dsimp only
  split
  · exact obeys_pure _
  · split
    · exact obeys_pure _
    · split
      · exact h.stopRequested_obeys.bind fun _ => obeys_pure _
      · exact h.test_obeys hn _ _

/-- Every turn of a loop starts with a look at the flag, so the turns are the steps of a loop. -/
theorem turns_obeys (hn : n ≤ setup.fuel) (line : Line) (condition : Text)
    {body : Exec (Session ω) Flow} (hbody : body.Obeys k n) (fuel : Nat) :
    (setup.turns line condition body fuel).Obeys k (min fuel n) := by
  induction fuel with
  | zero => rw [Nat.zero_min]; exact fun s => h.tired 0 s (h.station.rest s.station)
  | succ fuel ih =>
    have hless : min fuel n ≤ n := Nat.min_le_right fuel n
    have hstep : min (fuel + 1) n ≤ min fuel n + 1 := by omega
    -- the look at the flag in front of the turn is the step
    refine h.unless_stopped hstep (Obeys.obeysFrom ?_)
    refine (h.goesOn_obeys (Nat.le_trans hless hn) _ _).bind fun goesOn => ?_
    split
    · exact obeys_pure _
    · refine (hbody.fewer hless).bind fun flow => ?_
      split
      · exact obeys_pure _
      · exact ih

section Branches

variable {run : List Line → Exec (Session ω) Flow} (hrun : ∀ lines, (run lines).Obeys k n)
variable (hn : n ≤ setup.fuel)

include hrun hn

/-- Trying a branch keeps the contract, if its body does. -/
theorem branch_obeys (line : Line) (body : List Line) (condition : Option Text)
    (taken : Option Flow) : (setup.branch run line body condition taken).Obeys k n := by
  unfold Setup.branch
  split
  · exact obeys_pure _
  · exact Obeys.map _ (hrun _)
  · refine (h.test_obeys hn _ _).bind fun holds => ?_
    split
    · exact Obeys.map _ (hrun _)
    · exact obeys_pure _

/-- Trying the branches of a chain keeps the contract, if their bodies do. -/
theorem chain_obeys (condition : Option Text) (taken : Option Flow) (lines : List Line) :
    (setup.chain run condition taken lines).Obeys k n := by
  fun_induction Setup.chain setup run condition taken lines with
  | case1 => exact obeys_pure _
  | case2 condition taken line rest body behind ih =>
    refine (h.branch_obeys hrun hn _ _ _ _).bind fun taken => ?_
    split
    · exact ih _ _
    · exact obeys_pure _

end Branches

/-- A walk keeps the contract, whatever the lines are. The induction is on the steps that the walk
is allowed, since the bodies that it cuts out are walked through with one step less. -/
theorem walk_obeys (fuel : Nat) (lines : List Line) :
    (setup.walk fuel lines).Obeys k (min fuel setup.fuel) := by
  induction fuel generalizing lines with
  | zero => rw [Nat.zero_min]; exact fun s => h.tired 0 s (h.station.rest s.station)
  | succ fuel ih =>
    have hless : min fuel setup.fuel ≤ setup.fuel := Nat.min_le_right fuel setup.fuel
    have hstep : min (fuel + 1) setup.fuel ≤ min fuel setup.fuel + 1 := by omega
    cases lines with
    | nil => exact obeys_pure _
    | cons line rest =>
      -- the look at the flag in front of the line is the step
      refine h.unless_stopped hstep ?_
      refine ObeysFrom.bind (R := fun _ s => Clear setup.gateway s.station)
        (fun s hs => h.visit_meets line hs) fun _ => ?_
      cases Line.kind line.text with
      | loop condition =>
        refine Obeys.obeysFrom (Obeys.bind (h.loop _ _ ?_) fun _ => ?_)
        · exact (h.turns_obeys hless _ _ (ih _) fuel).fewer (Nat.le_min.2 ⟨by omega, Nat.le_refl _⟩)
        · exact ih _
      | branch condition =>
        refine Obeys.obeysFrom ((h.chain_obeys ih hless _ _ _).bind fun ⟨behind, flow⟩ => ?_)
        dsimp only
        split
        · refine (obeys_gets _).bind fun loops => ?_
          split
          · exact obeys_pure _
          · exact (h.note_obeys _ _ _).bind fun _ => ih _
        · exact ih _
      | header =>
        refine Obeys.obeysFrom ?_
        dsimp only
        split
        · exact (h.lift_obeys (h.station.warn_obeys _ _)).bind fun _ => ih _
        · exact ih _
      | leave => exact (obeys_pure _).obeysFrom
      | closer => exact (ih _).obeysFrom
      | quit =>
        refine Obeys.obeysFrom ((h.note_obeys _ _ _).bind fun _ => ?_)
        exact (h.lift_obeys h.station.requestStop_obeys).bind fun _ => obeys_pure _
      | statement =>
        refine ObeysFrom.bind (R := fun _ _ => True) (fun s hs => ?_) fun result => ?_
        · exact (h.statement_obeysFrom (fun f => ih f.body) hless line s hs).imp
            (fun _ _ ht => ⟨ht, trivial⟩) fun _ hc => hc
        · refine Obeys.obeysFrom ?_
          cases result with
          | error mishap => exact (h.lift_obeys (h.station.report_obeys _ _)).bind fun _ => ih _
          | ok _ => exact ih _

end RunConduct

/-! ## Whole runs

A contract about the station alone is not touched by the variables and loops of a run. If it holds
at every crash too, the engine keeps it: a crash of the script is where its run is wound up. -/

/-- The requests that a run makes by itself, and not for a command. -/
def Request.isOwn : Request → Bool
  | ready | visit _ | closeRecognizer _ => true
  | _ => false

namespace Conduct

open Exec

variable {g : Gateway ω} {k : Contract (Station ω)} {allowed : Request → Prop} {n : Nat}
variable (h : Conduct g k allowed)

section Script

variable {config : Config}
variable (hissued : ∀ (b : Builtin) (c : Command), b.Issues config c → ∀ r, c.MayAsk r → allowed r)
variable (hvisits : ∀ n, allowed (.visit n))

include h hissued hvisits

/-- Frames and loops come and go without the station. -/
theorem onSession (functions : Registry) (fuel : Nat) :
    RunConduct ⟨g, config, functions, fuel⟩ k allowed k.onSession where
  station := h
  commands := hissued
  visits := hvisits
  done _ _ hst := hst
  crashed _ _ hst := hst
  tired _ _ ht := ht
  ahead _ _ ht := ht
  assign s _ _ := k.refl s.station
  loop n turns hturns := by
    refine (obeys_gets _).bind fun loops => ?_
    refine (obeys_modify fun s => k.refl s.station).bind fun _ => ?_
    exact hturns.bind fun _ => obeys_modify fun s => k.refl s.station
  call n bindings body hbody := by
    refine Obeys.obeysFrom ((obeys_gets _).bind fun loops => ?_)
    refine (obeys_modify fun s => k.refl s.station).bind fun _ => ?_
    refine hbody.bind fun _ => (obeys_gets _).bind fun result => ?_
    exact (obeys_modify fun s => k.refl s.station).bind fun _ => obeys_pure _

/-- The run of a script keeps the contract. -/
theorem runScript_obeys (fuel : Nat) (lines : List Line) :
    (runScript g config fuel lines).Obeys k.onSession fuel := by
  have run := h.onSession hissued hvisits (Registry.ofLines lines).1 fuel
  -- the notes about the definitions are written one after the other
  have notes : ∀ (records : List Record) st, k.done st (records.foldl Station.note st) := by
    intro records
    induction records with
    | nil => exact k.refl
    | cons r records ih => exact fun st => k.trans (h.note st r) (ih _)
  refine Obeys.bind (run.lift_obeys (obeys_modify fun st => notes _ st)) fun _ => ?_
  refine (run.note_obeys _ _ _).bind fun _ => ?_
  have hwalk := run.walk_obeys fuel lines
  rwa [Nat.min_self] at hwalk

/-- A crash of the script is a value for the engine. -/
theorem interpret_meets_of_issued (fuel : Nat) (lines : List Line) (st : Station ω) :
    (Engine.interpret g config fuel lines st).Meets
      (fun result t => match result.1 with
        | .ok _ => k.done st t
        | .error _ => k.crashed st t) (fun _ => False) (k.tired fuel st) := by
  have hrun := h.runScript_obeys hissued hvisits fuel lines (Session.start st)
  unfold Engine.interpret
  cases hs : runScript g config fuel lines (Session.start st) with
  | exhausted =>
    rw [hs] at hrun
    exact hrun
  | done flow s =>
    rw [hs] at hrun
    exact hrun
  | crashed crash s =>
    rw [hs] at hrun
    exact hrun

end Script

include h

/-- A script keeps the contract up to its end or its crash, which the engine survives. -/
theorem interpret_meets (hasks : ∀ r : Request, r.isClose = false → allowed r)
    (config : Config) (fuel : Nat) (lines : List Line) (st : Station ω) :
    (Engine.interpret g config fuel lines st).Meets
      (fun result t => match result.1 with
        | .ok _ => k.done st t
        | .error _ => k.crashed st t) (fun _ => False) (k.tired fuel st) :=
  h.interpret_meets_of_issued (fun _ _ _ r hr => hasks r hr.isClose_eq_false)
    (fun n => hasks (.visit n) rfl) fuel lines st

/-- Announcing a run keeps the contract, if the gateway may be asked whether it is ready. -/
theorem announce_obeys (hready : allowed .ready) (lines : List Line) :
    (Engine.announce g lines).Obeys k n := by
  refine (h.ask_obeys hready rfl).bind fun ready => ?_
  cases ready with
  | true => exact h.record_obeys _ _ _
  | false => exact (h.record_obeys _ _ _).bind fun _ => h.record_obeys _ _ _

/-- Unless the script has crashed, the status tells what the stop flag is. -/
theorem conclude_meets (outcome : Except Crash Flow) (st : Station ω) :
    (Engine.conclude g outcome st).Meets
      (fun status t => k.done st t ∧ match outcome with
        | .ok _ => status = if t.stopped then .stopped else .completed
        | .error crash => status = .crashed crash.message)
      (k.crashed st) (k.tired n st) := by
  cases outcome with
  | ok flow =>
    refine Outcome.Meets.bind ((h.stopRequested_meets st).imp (fun stopped t ht => ?_)
      fun _ hc => hc)
    cases stopped with
    | true => exact ⟨ht.1, by rw [ht.2.1]; rfl⟩
    | false => exact ⟨ht.1, by rw [ht.2.1]; rfl⟩
  | error crash =>
    refine Outcome.Meets.bind ((h.record_obeys _ _ _ st).imp (fun _ t ht => ?_) fun _ hc => hc)
    refine Outcome.Meets.bind (((h.routine_obeys rfl).after ht).imp (fun _ u hu => ?_)
      fun _ hc => hc)
    exact ⟨hu, rfl⟩

/-- Winding up keeps the contract, and the status tells how the script has ended. -/
theorem finish_meets (hclose : ∀ session, allowed (.closeRecognizer session))
    (outcome : Except Crash Flow) (st : Station ω) :
    (Engine.finish g outcome st).Meets
      (fun status t => k.done st t ∧ match outcome with
        | .ok _ => status = if t.stopped then .stopped else .completed
        | .error crash => status = .crashed crash.message)
      (k.crashed st) (k.tired n st) := by
  refine Outcome.Meets.bind ((h.close n hclose st).imp (fun _ t ht => ?_) fun _ hc => hc)
  refine Outcome.Meets.bind ((h.conclude_meets outcome t).imp (fun status u hu => ?_)
    (fun _ hc => k.late ht hc) (k.early ht))
  exact ⟨k.trans ht (k.trans hu.1 (h.note _ _)), hu.2⟩

/-- How the status of a run comes about: it tells what the stop flag is in the end, or that there
was a crash on the way. -/
def Explains (k : Contract (Station ω)) (st t : Station ω) : Status → Prop
  | .completed => t.stopped = false
  | .stopped => t.stopped = true
  | .crashed _ => ∃ u, k.crashed st u ∧ k.done u t

/-- From the moment the flag is cleared up to its report, a run of the engine keeps a contract that
holds at crashes too, and reports how it ended. Allowed must be what commands that are issued may
ask, and what the engine asks by itself. -/
theorem proceed_meets_of_issued {config : Config}
    (hissued : ∀ (b : Builtin) (c : Command), b.Issues config c → ∀ r, c.MayAsk r → allowed r)
    (hown : ∀ r : Request, r.isOwn → allowed r) (hcrash : ∀ {st t}, k.crashed st t → k.done st t)
    (fuel : Nat) (lines : List Line) (st : Station ω) :
    (Engine.proceed g config fuel lines st).Meets
      (fun report t => k.done st t ∧ Explains k st t report.status) (k.crashed st)
      (k.tired fuel st) := by
  refine Outcome.Meets.bind ((h.announce_obeys (hown _ rfl) lines st).imp (fun _ s hs => ?_)
    fun _ hc => hc)
  refine Outcome.Meets.bind
    ((h.interpret_meets_of_issued hissued (fun _ => hown _ rfl) fuel lines s).imp
      (fun result u hu => ?_) (fun _ hc => hc.elim) (k.early hs))
  obtain ⟨outcome, frame⟩ := result
  -- a crash of the script does not keep the engine from winding up the run
  have hdone : k.done st u := by
    cases outcome with
    | ok flow => exact k.trans hs hu
    | error crash => exact k.trans hs (hcrash hu)
  refine Outcome.Meets.bind ((h.finish_meets (fun _ => hown _ rfl) outcome u).imp
    (fun status t ht => ?_) (fun _ hc => k.late hdone hc) (k.early hdone))
  refine ⟨k.trans hdone ht.1, ?_⟩
  cases outcome with
  | ok flow =>
    have hstatus : status = if t.stopped then .stopped else .completed := ht.2
    cases hflag : t.stopped with
    | true =>
      rw [hflag] at hstatus
      rw [hstatus]
      exact hflag
    | false =>
      rw [hflag] at hstatus
      rw [hstatus]
      exact hflag
  | error crash =>
    have hstatus : status = .crashed crash.message := ht.2
    rw [hstatus]
    exact ⟨u, k.late hs hu, ht.1⟩

/-- From the moment the flag is cleared up to its report, a run keeps a contract that allows all
requests. -/
theorem proceed_meets (hall : ∀ r, allowed r) (hcrash : ∀ {st t}, k.crashed st t → k.done st t)
    (config : Config) (fuel : Nat) (lines : List Line) (st : Station ω) :
    (Engine.proceed g config fuel lines st).Meets
      (fun report t => k.done st t ∧ Explains k st t report.status) (k.crashed st)
      (k.tired fuel st) :=
  h.proceed_meets_of_issued (fun _ _ _ r _ => hall r) (fun r _ => hall r) hcrash fuel lines st

end Conduct

end TapScript
