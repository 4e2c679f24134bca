import TapScript.Proofs.Structured

/-! # Walking through lines is structured execution

Walking through the lines of a program does what the structured execution of the program does, at
every gateway and from every session. The two runs are compared step by step: they stand at the same
station with the same variables all the time, and when a part of the walk is done, the number of
loops around it is what it was before.

* `Simulates` is the comparison of a walk, which counts loops, with an execution, which does not.
* `Plan.walk_simulates` compares the walk through the lines of a program with its execution, and
  `walk_lines_refines_exec` says what follows for the two outcomes. -/

namespace TapScript

variable {ω α β : Type}

/-! ## Simulation -/

/-- What can be seen of a session: its station and its variables, but not its loops. -/
def Session.view (s : Session ω) : Station ω × Scope := (s.station, s.scope)

/-- What can be seen of an outcome. -/
def Outcome.view : Outcome (Session ω) α → Outcome (Station ω × Scope) α
  | .done a s => .done a s.view
  | .crashed c s => .crashed c s.view
  | .exhausted => .exhausted

/-- Two outcomes look the same, and the first one has `k` loops around it if it ends with a
value. -/
inductive Outcome.Agree (k : Nat) : Outcome (Session ω) α → Outcome (Session ω) α → Prop
  | done {a : α} {s t : Session ω} (hview : s.view = t.view) (hloops : s.loops = k) :
    Agree k (.done a s) (.done a t)
  | crashed {c : Crash} {s t : Session ω} (hview : s.view = t.view) :
    Agree k (.crashed c s) (.crashed c t)
  | exhausted : Agree k .exhausted .exhausted

/-- Outcomes that agree look the same. -/
theorem Outcome.Agree.view_eq {k : Nat} {o o' : Outcome (Session ω) α} (h : o.Agree k o') :
    o.view = o'.view := by
  cases h with
  | done hview _ => simp only [view, hview]
  | crashed hview => simp only [view, hview]
  | exhausted => rfl

/-- Two sequences agree if their first parts do, and their second parts from wherever those end. -/
theorem Outcome.Agree.bind {j k : Nat} {x y : Exec (Session ω) α} {f g : α → Exec (Session ω) β}
    {s t : Session ω} (h : (x s).Agree j (y t))
    (hf : ∀ a s' t', s'.view = t'.view → s'.loops = j → (f a s').Agree k (g a t')) :
    ((x >>= f) s).Agree k ((y >>= g) t) := by
  rw [Exec.bind_apply, Exec.bind_apply]
  -- the two first parts end in the same way, so three cases are left
  cases hxs : x s <;> cases hyt : y t <;> rw [hxs, hyt] at h <;> cases h
  case done.done.done a s' t' hloops hview => exact hf a s' t' hview hloops
  case crashed.crashed.crashed c s' t' hview => exact .crashed hview
  case exhausted.exhausted.exhausted => exact .exhausted

/-- Started with `k` loops around it, `x` ends as `y` does, and with as many loops as before. -/
def Simulates (k : Nat) (x y : Exec (Session ω) α) : Prop :=
  ∀ s t : Session ω, s.view = t.view → s.loops = k → (x s).Agree k (y t)

namespace Simulates

open Exec

variable {k : Nat} {x y : Exec (Session ω) α} {f g : α → Exec (Session ω) β}

/-- Returning a value changes neither side. -/
theorem pure (a : α) : Simulates k (Pure.pure a : Exec (Session ω) α) (Pure.pure a) :=
  fun _ _ hview hloops => .done hview hloops

/-- A computation that is cut off simulates one that is. -/
theorem exhausted : Simulates k (Exec.exhausted : Exec (Session ω) α) Exec.exhausted :=
  fun _ _ _ _ => .exhausted

/-- Sequences simulate each other part by part. -/
theorem bind (hx : Simulates k x y) (hf : ∀ a, Simulates k (f a) (g a)) :
    Simulates k (x >>= f) (y >>= g) :=
  fun s t hview hloops => (hx s t hview hloops).bind fun a => hf a

/-- The first part of the execution may give less than that of the walk, as long as the rest follows
from it. -/
theorem bindMap {γ : Type} {y : Exec (Session ω) γ} {h : γ → α} {g : γ → Exec (Session ω) β}
    (hx : Simulates k x (y >>= fun c => Pure.pure (h c))) (hf : ∀ c, Simulates k (f (h c)) (g c)) :
    Simulates k (x >>= f) (y >>= g) := by
  intro s t hview hloops
  have hxy := hx s t hview hloops
  rw [bind_apply] at hxy ⊢
  rw [bind_apply]
  cases hyt : y t <;> rw [hyt] at hxy <;> cases hxs : x s <;> rw [hxs] at hxy <;> cases hxy
  case done.done.done c t' s' hloops' hview' => exact hf c s' t' hview' hloops'
  case crashed.crashed.crashed c t' s' hview' => exact .crashed hview'
  case exhausted.exhausted.exhausted => exact .exhausted

/-- The walk knows how many loops there are around it. -/
theorem loops {f : Nat → Exec (Session ω) α} (h : Simulates k (f k) y) :
    Simulates k (Exec.gets Session.loops >>= f) y := by
  intro s t hview hloops
  rw [gets_bind, hloops]
  exact h s t hview hloops

/-- The same happens at the same station. -/
theorem lift (z : Exec (Station ω) α) : Simulates k (Session.lift z) (Session.lift z) := by
  intro s t hview hloops
  obtain ⟨hstation, hscope⟩ := Prod.mk.inj hview
  simp only [Session.lift, zoom, hstation]
  cases z t.station with
  | done a st => exact .done (congrArg (Prod.mk st) hscope) hloops
  | crashed c st => exact .crashed (congrArg (Prod.mk st) hscope)
  | exhausted => exact .exhausted

/-- The same is read from the same variables. -/
theorem gets (read : Scope → α) :
    Simulates k (gets fun s : Session ω => read s.scope) (gets fun s => read s.scope) := by
  intro s t hview hloops
  have hscope : s.scope = t.scope := congrArg Prod.snd hview
  simp only [Exec.gets, hscope]
  exact .done hview hloops

/-- The same happens at the same station, whatever is read from the variables before. -/
theorem frame (f : Frame → Exec (Station ω) α) :
    Simulates k (Session.frame >>= fun frame => Session.lift (f frame))
      (Session.frame >>= fun frame => Session.lift (f frame)) :=
  (gets Scope.current).bind fun _ => lift _

/-- The same change of the variables on both sides is simulated. -/
theorem modifyScope (change : Scope → Scope) :
    Simulates k (modify fun s : Session ω => { s with scope := change s.scope })
      (modify fun s => { s with scope := change s.scope }) := by
  intro s t hview hloops
  obtain ⟨hstation, hscope⟩ := Prod.mk.inj hview
  refine .done ?_ hloops
  simp only [Session.view, hstation, hscope]

/-- A loop around the walk is one that the execution does not count. -/
theorem inLoop {x y : Exec (Session ω) Unit} (h : Simulates (k + 1) x y) :
    Simulates k (Session.inLoop x) y := by
  intro s t hview hloops
  have hxy := h { s with loops := s.loops + 1 } t hview (congrArg (· + 1) hloops)
  -- what is left to the walk is to set the number of loops back
  have hin : Session.inLoop x s =
      (x >>= fun _ => modify fun s' => { s' with loops := s.loops })
        { s with loops := s.loops + 1 } := rfl
  rw [hin, ← bind_pure y]
  exact hxy.bind fun _ s' t' hview' _ => .done hview' hloops

/-- In the body of a function, no loop of its caller counts. -/
theorem inCall {x y : Exec (Session ω) Flow} (h : Simulates 0 x y)
    (bindings : List (Text × Value)) :
    Simulates k (Session.inCall bindings x) (Session.inCall bindings y) := by
  intro s t hview hloops
  obtain ⟨hstation, hscope⟩ := Prod.mk.inj hview
  have hxy := h ⟨s.station, s.scope.enter bindings, 0⟩ ⟨t.station, t.scope.enter bindings, 0⟩
    (by simp only [Session.view, hstation, hscope]) rfl
  have hin : ∀ (x : Exec (Session ω) Flow) (s : Session ω), Session.inCall bindings x s =
      (x >>= fun _ => do
        let result ← Exec.gets fun s => s.scope.leave.1
        modify fun s' => { s' with scope := s'.scope.leave.2, loops := s.loops }
        return result) ⟨s.station, s.scope.enter bindings, 0⟩ := fun _ _ => rfl
  rw [hin, hin]
  refine hxy.bind fun _ s' t' hview' _ => ?_
  obtain ⟨hstation', hscope'⟩ := Prod.mk.inj hview'
  simp only [gets_bind, modify_bind, hscope']
  exact .done (by simp only [Session.view, hstation']) hloops

end Simulates

/-! ## Statements -/

namespace Setup

open Simulates

variable (setup : Setup ω) {k : Nat}

/-- The stop flag is the same on both sides. -/
theorem stopRequested_simulates : Simulates k setup.stopRequested setup.stopRequested :=
  Simulates.lift _

/-- Both sides take down the same notice. -/
theorem note_simulates (level : Level) (message : String) (fields : List (String × String)) :
    Simulates k (Session.note level message fields : Exec (Session ω) Unit)
      (Session.note level message fields) :=
  Simulates.lift _

/-- What is read off the variables and the dice is the same on both sides. -/
theorem reading_simulates (read : Environment → Dice → α × Dice) :
    Simulates k (setup.reading read) (setup.reading read) :=
  Simulates.frame _

/-- Both sides put the same values in the place of the calls. -/
theorem expand_simulates (line : Nat) (t : Text) :
    Simulates k (setup.expand line t) (setup.expand line t) :=
  Simulates.frame _

/-- A condition has the same verdict on both sides. -/
theorem test_simulates (line : Nat) (condition : Text) :
    Simulates k (setup.test line condition) (setup.test line condition) :=
  Simulates.frame _

/-- A command does the same on both sides. -/
theorem perform_simulates (line : Nat) (b : Builtin) (args : Text) :
    Simulates k (setup.perform line b args) (setup.perform line b args) :=
  Simulates.frame _

/-- Both sides give a variable the same value. -/
theorem bind_simulates (name : Text) (v : Value) :
    Simulates k (Session.bind name v : Exec (Session ω) Unit) (Session.bind name v) :=
  Simulates.modifyScope fun sc => sc.set name v

/-- Both sides deliver the same result. -/
theorem deliver_simulates (target : Option Text) (v : Option Value) :
    Simulates k (Setup.deliver target v : Exec (Session ω) Unit) (Setup.deliver target v) := by
  unfold Setup.deliver
  split
  · exact bind_simulates _ _
  · exact Simulates.pure _

/-- Both sides set the flag, or both leave it. -/
theorem assignExit_simulates (line : Line) (condition : Text) :
    Simulates k (setup.assignExit line condition) (setup.assignExit line condition) := by
  refine (setup.reading_simulates _).bind fun holds => ?_
  split
  · exact (note_simulates _ _ _).bind fun _ => Simulates.lift _
  · exact Simulates.pure _

/-- What an assignment calls is a function of the script. -/
theorem mem_of_assignedCall? {a : Assignment} {f : Function} {args : Text}
    (h : setup.assignedCall? a = some (f, args)) : f ∈ setup.functions.functions := by
  simp only [Setup.assignedCall?, Option.bind_eq_bind, Option.bind_eq_some_iff] at h
  obtain ⟨_, -, c, -, f', hf, heq⟩ := h
  cases heq
  exact List.mem_of_find?_eq_some hf

/-- The two ways to run a function agree on those of the setup. -/
def RunsAgree (run run' : Function → Exec (Session ω) Flow) : Prop :=
  ∀ f ∈ setup.functions.functions, Simulates 0 (run f) (run' f)

variable {setup} {run run' : Function → Exec (Session ω) Flow} (hrun : setup.RunsAgree run run')

include hrun

/-- Calls simulate each other if the bodies of functions do. -/
theorem call_simulates (line : Line) {f : Function} (hf : f ∈ setup.functions.functions)
    (args : Text) (target : Option Text) :
    Simulates k (setup.call run line f args target) (setup.call run' line f args target) := by
  refine (Simulates.gets Scope.depth).bind fun depth => ?_
  split
  · exact Simulates.pure _
  · refine (setup.expand_simulates _ _).bind fun expanded => ?_
    cases expanded with
    | error mishap => exact Simulates.pure _
    | ok expanded =>
      refine (setup.reading_simulates _).bind fun values => ?_
      -- the body, with or without a note about missing arguments before it
      have body : ∀ bindings, Simulates k
          (do Setup.deliver target (← Session.inCall bindings (run f))
              return .ok () : Exec (Session ω) (Except Mishap Unit))
          (do Setup.deliver target (← Session.inCall bindings (run' f))
              return .ok ()) := fun bindings =>
        ((hrun f hf).inCall bindings).bind fun result =>
          (deliver_simulates target result).bind fun _ => Simulates.pure _
      dsimp only
      split
      · exact (note_simulates _ _ _).bind fun _ => body _
      · exact body _

/-- Assignments simulate each other if the bodies of functions do. -/
theorem assign_simulates (line : Line) (a : Assignment) :
    Simulates k (setup.assign run line a) (setup.assign run' line a) := by
  unfold Setup.assign
  split
  · rename_i f args hcall
    exact call_simulates hrun line (setup.mem_of_assignedCall? hcall) args _
  · refine (setup.expand_simulates _ _).bind fun expanded => ?_
    cases expanded with
    | error mishap => exact Simulates.pure _
    | ok expanded =>
      refine (setup.reading_simulates _).bind fun value => ?_
      cases a.op with
      | none => exact (bind_simulates _ _).bind fun _ => Simulates.pure _
      | some op =>
        refine (Simulates.gets fun sc => (sc.get? a.target).getD (.number 0.0)).bind
          fun current => ?_
        cases Assignment.combine current op value with
        | error mishap => exact Simulates.pure _
        | ok v => exact (bind_simulates _ _).bind fun _ => Simulates.pure _

/-- Statements simulate each other if the bodies of functions do. -/
theorem statement_simulates (line : Line) :
    Simulates k (setup.statement run line) (setup.statement run' line) := by
  unfold Setup.statement
  dsimp only
  split
  · exact Simulates.pure _
  · split
    · refine (setup.perform_simulates _ _ _).bind fun result => ?_
      cases result with
      | error mishap => exact Simulates.pure _
      | ok v => exact (deliver_simulates _ _).bind fun _ => Simulates.pure _
    · split
      · exact (setup.assignExit_simulates _ _).bind fun _ => Simulates.pure _
      · exact assign_simulates hrun _ _
    · split
      · exact Simulates.pure _
      · split
        · exact Simulates.pure _
        · rename_i f hf
          exact call_simulates hrun line (List.mem_of_find?_eq_some hf) _ _

end Setup

/-! ## Loops and branches -/

namespace Setup

variable (setup : Setup ω) {k : Nat}

/-- The test of a loop is the same on both sides. -/
theorem loopTest_simulates (n : Nat) (c : Phrase) :
    Simulates k (setup.loopTest n c) (setup.loopTest n c) := by
  unfold Setup.loopTest
  split
  · exact Simulates.pure _
  · exact setup.test_simulates _ _

/-- The lines behind a branch: the next branch, if they start with one. -/
def further (run : List Line → Exec (Session ω) Flow) (behind : List Line) (taken : Option Flow) :
    Exec (Session ω) (List Line × Flow) :=
  match behind.head?.bind fun next => Line.alternative? next.text with
  | some condition => setup.chain run condition taken behind
  | none => return (behind, taken.getD .normal)

variable {setup} {run : List Line → Exec (Session ω) Flow}

/-- The first of some branches, and what comes behind it. -/
theorem chain_block {header : Text} (hd : Block.delta header = 1) (n m : Nat) (body : Program)
    (behind : List Line) (condition : Option Text) (taken : Option Flow) :
    setup.chain run condition taken (⟨n, header⟩ :: (body.lines ++ .closing m :: behind)) =
      setup.branch run ⟨n, header⟩ body.lines condition taken >>= setup.further run behind := by
  rw [Setup.chain, Block.cut_lines hd]
  rfl

/-- Where no branch follows, the chain ends with what was taken. -/
theorem further_done (rest : Program) (taken : Option Flow) :
    setup.further run rest.lines taken = pure (rest.lines, taken.getD .normal) := by
  rw [further, Line.alternative?_lines]

/-- A last branch is tried without a condition. -/
theorem further_otherwise (n m : Nat) (body rest : Program) (taken : Option Flow) :
    setup.further run ((Branches.otherwise n body m).lines ++ rest.lines) taken =
      setup.branch run ⟨n, "else \x7b".toList⟩ body.lines none taken >>=
        setup.further run rest.lines := by
  rw [Branches.lines, List.cons_append, List.append_assoc, List.singleton_append,
    ← chain_block (show Block.delta "else \x7b".toList = 1 from rfl)]
  rfl

/-- An alternative is tried, and then those that follow it. -/
theorem further_orElse (n m : Nat) (c : Phrase) (body : Program) (others : Branches)
    (rest : List Line) (taken : Option Flow) :
    setup.further run ((Branches.orElse n c body m others).lines ++ rest) taken =
      setup.branch run ⟨n, c.header "else if".toList⟩ body.lines (some c.wrapped) taken >>=
        setup.further run (others.lines ++ rest) := by
  rw [Branches.lines, List.cons_append, List.append_assoc, List.cons_append,
    ← chain_block (Block.delta_header _ c (by simp)), further, List.head?_cons, Option.bind_some,
    Line.alternative?_header]

/-- Once a branch was taken, the others are passed over and nothing is tested any more. -/
theorem further_some (others : Branches) (rest : Program) (flow : Flow) :
    setup.further run (others.lines ++ rest.lines) (some flow) = pure (rest.lines, flow) := by
  cases others with
  | done => exact further_done rest (some flow)
  | otherwise n body m =>
    rw [further_otherwise, Setup.branch, pure_bind, further_done]
    rfl
  | orElse n c body m others =>
    rw [further_orElse, Setup.branch, pure_bind, further_some others rest flow]

end Setup

namespace Plan

variable (plan : Plan ω) {k : Nat}

/-- Turns through the lines of a body simulate the turns of a loop. -/
theorem turns_simulates (line : Line) (c : Phrase) {body body' : Exec (Session ω) Flow}
    (h : Simulates k body body') (fuel : Nat) :
    Simulates k (plan.setup.turns line c.wrapped body fuel)
      (plan.iterate (plan.setup.loopTest line.number c) body' fuel) := by
  induction fuel with
  | zero => exact Simulates.exhausted
  | succ fuel ih =>
    rw [Setup.turns, iterate, Setup.goesOn_eq_loopTest]
    refine plan.setup.stopRequested_simulates.bind fun stopped => ?_
    split
    · exact Simulates.pure _
    · refine (plan.setup.loopTest_simulates _ _).bind fun goesOn => ?_
      split
      · exact Simulates.pure _
      · refine h.bind fun flow => ?_
        split
        · exact Simulates.pure _
        · exact ih

section Branches

variable {run : List Line → Exec (Session ω) Flow} {exec : Program → Exec (Session ω) Flow}
variable (hrun : ∀ body : Program, Simulates k (run body.lines) (exec body))

include hrun

/-- A branch with a condition: it is taken if the condition holds, and otherwise the next ones are
looked at. -/
theorem branch_simulates (line : Line) (c : Phrase) (body : Program) (m : Nat) (others : Branches)
    (rest : Program)
    (hothers : Simulates k (plan.setup.further run (others.lines ++ rest.lines) none)
      (plan.choose exec others >>= fun flow => pure (rest.lines, flow))) :
    Simulates k
      (plan.setup.branch run line body.lines (some c.wrapped) none >>=
        plan.setup.further run (others.lines ++ rest.lines))
      (plan.choose exec (.orElse line.number c body m others) >>=
        fun flow => pure (rest.lines, flow)) := by
  rw [Setup.branch, choose, bind_assoc, bind_assoc]
  refine (plan.setup.test_simulates _ _).bind fun holds => ?_
  cases holds with
  | true =>
    -- the walk still passes over the other branches, which is nothing
    simp only [if_true, bind_map_left, Setup.further_some]
    exact (hrun body).bind fun flow => Simulates.pure _
  | false =>
    simp only [Bool.false_eq_true, if_false, pure_bind]
    exact hothers

/-- Walking through the lines of further branches simulates the choice among them. -/
theorem further_simulates (others : Branches) (rest : Program) :
    Simulates k (plan.setup.further run (others.lines ++ rest.lines) none)
      (plan.choose exec others >>= fun flow => pure (rest.lines, flow)) := by
  cases others with
  | done =>
    rw [Branches.lines, List.nil_append, Setup.further_done, choose, pure_bind]
    exact Simulates.pure _
  | otherwise n body m =>
    rw [Setup.further_otherwise, Setup.branch, choose, bind_map_left]
    simp only [Setup.further_done]
    exact (hrun body).bind fun flow => Simulates.pure _
  | orElse n c body m others =>
    rw [Setup.further_orElse]
    exact plan.branch_simulates hrun ⟨n, _⟩ c body m others rest (further_simulates others rest)

end Branches

/-! ## Walks -/

/-- A line is taken up as a node is. -/
theorem takeUp_simulates (line : Line) {x y : Exec (Session ω) Flow} (h : Simulates k x y) :
    Simulates k
      (do
        if ← plan.setup.stopRequested then return .normal
        plan.setup.visit line
        x)
      (plan.takeUp line.number y) := by
  refine plan.setup.stopRequested_simulates.bind fun stopped => ?_
  split
  · exact Simulates.pure _
  · exact (Simulates.lift _).bind fun _ => h

/-- The tree of a function is found by the function. -/
theorem body?_of_mem {f : Function} (hf : f ∈ plan.setup.functions.functions) :
    ∃ body, plan.body? f = some body ∧ f.body = body.lines := by
  obtain ⟨d, hd, rfl⟩ := plan.covers f hf
  cases hfind : plan.library.find? fun d' => d'.function = d.function with
  | none => exact absurd (List.find?_eq_none.1 hfind d hd) (by simp)
  | some d' =>
    -- it may be another definition than `d`, but one of the same function
    have hfun : d'.function = d.function := by simpa using List.find?_some hfind
    exact ⟨d'.body, by rw [body?, hfind]; rfl, by rw [← hfun]; rfl⟩

/-- A statement's line, and what follows it, simulates the leaf and what follows it. -/
theorem leaf_simulates {fuel : Nat}
    (hbody : ∀ k p, Simulates k (plan.setup.walk fuel p.lines) (plan.exec fuel (decide (0 < k)) p))
    (n : Nat) (t : Text) {x y : Exec (Session ω) Flow} (h : Simulates k x y) :
    Simulates k
      (do
        match ← plan.setup.statement (fun f => plan.setup.walk fuel f.body) ⟨n, t⟩ with
        | .error mishap => Session.lift (Query.report plan.setup.gateway n mishap)
        | .ok () => pure ()
        x)
      (do
        plan.leaf (fun f => ((plan.body? f).map (plan.exec fuel false)).getD (return .normal)) n t
        y) := by
  have hrun : plan.setup.RunsAgree (fun f => plan.setup.walk fuel f.body)
      fun f => ((plan.body? f).map (plan.exec fuel false)).getD (return .normal) := by
    intro f hf
    obtain ⟨body, hbody?, hlines⟩ := plan.body?_of_mem hf
    simp only [hbody?, hlines]
    exact hbody 0 body
  rw [leaf, bind_assoc]
  refine (Setup.statement_simulates hrun _).bind fun result => ?_
  cases result with
  | error mishap => exact (Simulates.lift _).bind fun _ => h
  | ok _ => exact h

/-- The walk through the lines of a program simulates its execution. The induction is on the steps,
which both count in the same way: one for each node, and those that are left for the blocks in
it. -/
theorem walk_simulates (fuel k : Nat) (p : Program) :
    Simulates k (plan.setup.walk fuel p.lines) (plan.exec fuel (decide (0 < k)) p) := by
  induction fuel generalizing k p with
  | zero => exact Simulates.exhausted
  | succ fuel ih =>
    cases p with
    | nil => exact Simulates.pure _
    | cons item rest =>
      cases item with
      | leaf n t =>
        rw [Program.lines, Item.lines, List.singleton_append, Setup.walk, exec, Line.kind_leaf]
        refine plan.takeUp_simulates ⟨n, _⟩ ?_
        exact plan.leaf_simulates ih n t.text (ih k rest)
      | leave n word =>
        rw [Program.lines, Item.lines, List.singleton_append, Setup.walk, exec, Line.kind_leave]
        exact plan.takeUp_simulates ⟨n, _⟩ (Simulates.pure _)
      | quit n value =>
        rw [Program.lines, Item.lines, List.singleton_append, Setup.walk, exec, Line.kind_quit]
        refine plan.takeUp_simulates ⟨n, _⟩ ?_
        exact (Setup.note_simulates _ _ _).bind fun _ => (Simulates.lift _).bind fun _ =>
          Simulates.pure _
      | loop n c body m =>
        rw [Program.lines, Item.lines, List.cons_append, List.append_assoc, List.singleton_append,
          Setup.walk, exec, Line.kind_loop, Block.cut_lines (Block.delta_header _ c (by simp))]
        refine plan.takeUp_simulates ⟨n, _⟩ ?_
        -- the body of the loop has one more loop around it
        have hturns := plan.turns_simulates ⟨n, c.header "while".toList⟩ c (ih (k + 1) body) fuel
        exact hturns.inLoop.bind fun _ => ih k rest
      | choice n c body m others =>
        rw [Program.lines, Item.lines, List.cons_append, List.append_assoc, List.cons_append,
          Setup.walk, exec, Line.kind_branch]
        refine plan.takeUp_simulates ⟨n, _⟩ ?_
        dsimp only
        rw [Setup.chain_block (Block.delta_header _ c (by simp))]
        refine Simulates.bindMap (plan.branch_simulates (ih k) ⟨n, _⟩ c body m others rest
          (plan.further_simulates (ih k) others rest)) fun flow => ?_
        cases flow with
        | normal => exact ih k rest
        | broken =>
          -- whether there is a loop to leave, the walk sees by its count
          refine Simulates.loops ?_
          by_cases hk : 0 < k
          · simp only [hk, if_true, decide_true]
            exact Simulates.pure _
          · simp only [hk, if_false, decide_false]
            have hrest := ih k rest
            simp only [hk, decide_false] at hrest
            exact (Setup.note_simulates _ _ _).bind fun _ => hrest
      | define n heading body m =>
        rw [Program.lines, Item.lines, List.cons_append, List.append_assoc, List.singleton_append,
          Setup.walk, exec, heading.kind_text, Block.cut_lines (Block.delta_heading heading),
          heading.header?_text]
        exact plan.takeUp_simulates ⟨n, _⟩ (ih k rest)

end Plan

/-! ## Scripts -/

/-- In the lines of a program, the functions that it defines are registered. -/
theorem Program.ofLines_lines (p : Program) : Registry.ofLines p.lines = p.registry := by
  have h := Function.definitions_lines p []
  rw [List.append_nil] at h
  rw [Registry.ofLines, h, Program.registry]
  simp [Function.definitions]

/-- Running the lines of a program simulates the program. -/
theorem Program.runScript_simulates (p : Program) (g : Gateway ω) (config : Config) (fuel : Nat) :
    Simulates 0 (runScript g config fuel p.lines) (p.run g config fuel) := by
  rw [runScript, p.ofLines_lines]
  refine (Simulates.lift _).bind fun _ => (Setup.note_simulates _ _ _).bind fun _ => ?_
  exact (p.plan g config fuel).walk_simulates fuel 0 p

/-- Reading a condition that is a constant gives its value, and takes one look at the stop flag that
a loop saves. -/
def Setup.ReadsConstant (setup : Setup ω) (n : Nat) (c : Phrase) : Prop :=
  match Setup.constant? c with
  | some b => setup.test n c.wrapped = do let _ ← setup.stopRequested; return b
  | none => True

/-- Walking through the lines of a program looks the same as executing the program: it ends with the
same flow or in the same crash, at the same station, which is the state of the gateway behind all
requests, the stop flag and the journal, and with the same variables. So does the run of a whole
script, whose functions are those that the program defines. The constants that a loop does not read
have the values that reading them would give. -/
theorem walk_lines_refines_exec (plan : Plan ω) (fuel : Nat) (p : Program) (s : Session ω) :
    (plan.setup.walk fuel p.lines s).view = (plan.exec fuel (decide (0 < s.loops)) p s).view ∧
      (∀ (g : Gateway ω) (config : Config) (st : Station ω),
        (runScript g config fuel p.lines (Session.start st)).view =
          (p.run g config fuel (Session.start st)).view) ∧
      ∀ n c, plan.setup.ReadsConstant n c := by
  refine ⟨?_, fun g config st => ?_, fun n c => ?_⟩
  · exact (plan.walk_simulates fuel s.loops p s s rfl rfl).view_eq
  · exact (p.runScript_simulates g config fuel _ _ rfl rfl).view_eq
  · unfold Setup.ReadsConstant
    split
    · rename_i b hb
      exact plan.setup.test_of_constant? hb n
    · trivial

end TapScript
