import TapScript.Proofs.Extent
import TapScript.Proofs.LoopTest

/-! # Structured execution

What a program means, said by recursion over its tree and without looking at lines or counting
braces and loops.

* The stop flag is looked at before every node and before every turn of a loop.
* An `if` tests its conditions in order and runs the first branch whose condition holds, or the last
  one if it has no condition and no other branch was run. No condition behind that is tested.
* `break` and `continue` leave the innermost loop of the current call. Where there is none, they end
  the branch in which they stand, or the body of the function or script if they stand in no branch.
* `return` requests a stop. A definition is passed over.

`Plan.exec` is the execution, `Program.run` that of a whole script. The number of steps is bounded
by an argument, since a loop may never end. -/

namespace TapScript

variable {ω : Type}

/-- A setup whose functions are known as trees. -/
structure Plan (ω : Type) where
  setup : Setup ω
  library : List Definition
  covers : ∀ f ∈ setup.functions.functions, ∃ d ∈ library, d.function = f

namespace Plan

variable (plan : Plan ω)

/-- The body of a function as a tree. -/
def body? (f : Function) : Option Program :=
  (plan.library.find? fun d => d.function = f).map Definition.body

/-- The turns of a loop: until a stop, until its test fails, or until its body is left. -/
def iterate (test : Exec (Session ω) Bool) (body : Exec (Session ω) Flow) :
    (fuel : Nat) → Exec (Session ω) Unit
  | 0 => Exec.exhausted
  | fuel + 1 => do
    if ← plan.setup.stopRequested then return ()
    if !(← test) then return ()
    if (← body) = .broken then return ()
    iterate test body fuel

/-- The first of the branches whose condition holds. -/
def choose (exec : Program → Exec (Session ω) Flow) : Branches → Exec (Session ω) Flow
  | .done => return .normal
  | .otherwise _ body _ => exec body
  | .orElse n c body _ others => do
    if ← plan.setup.test n c.wrapped then exec body else choose exec others

/-- A statement, with what was wrong with it reported. -/
def leaf (call : Function → Exec (Session ω) Flow) (n : Nat) (t : Text) :
    Exec (Session ω) Unit := do
  match ← plan.setup.statement call ⟨n, t⟩ with
  | .error mishap => Session.lift (Query.report plan.setup.gateway n mishap)
  | .ok () => return ()

/-- Takes up a node, unless a stop has been requested by then. -/
def takeUp (n : Nat) (x : Exec (Session ω) Flow) : Exec (Session ω) Flow := do
  if ← plan.setup.stopRequested then return .normal
  Session.lift (ask plan.setup.gateway (.visit n))
  x

/-- The execution of a program, inside a loop of the current call or not. -/
def exec : (fuel : Nat) → (inLoop : Bool) → Program → Exec (Session ω) Flow
  | 0, _, _ => Exec.exhausted
  | _ + 1, _, .nil => return .normal
  | fuel + 1, inLoop, .cons item rest =>
    match item with
    | .leaf n t => plan.takeUp n do
      -- no loop of the caller can be left from the body of a function
      plan.leaf (fun f => ((plan.body? f).map (exec fuel false)).getD (return .normal)) n t.text
      exec fuel inLoop rest
    | .leave n _ => plan.takeUp n (return .broken)
    | .quit n _ => plan.takeUp n do
      Session.note .debug "return stops the run" [("line", toString n)]
      Session.lift requestStop
      return .normal
    | .loop n c body _ => plan.takeUp n do
      plan.iterate (plan.setup.loopTest n c) (exec fuel true body) fuel
      exec fuel inLoop rest
    | .choice n c body m others => plan.takeUp n do
      let flow ← plan.choose (exec fuel inLoop) (.orElse n c body m others)
      if flow = .broken then
        if inLoop then return .broken
        -- outside of loops only the branch ends
        Session.note .debug "break outside a loop ends its branch only" [("line", toString n)]
      exec fuel inLoop rest
    | .define n _ _ _ => plan.takeUp n (exec fuel inLoop rest)

end Plan

/-! ## Scripts -/

namespace Registry

/-- A registry to which a function is added has the functions it had, and at most this one more. -/
theorem mem_add {r : Registry} {number : Nat} {f f' : Function}
    (h : f' ∈ (r.add number f).1.functions) : f' ∈ r.functions ∨ f' = f := by
  have hdefine : f' ∈ (r.define f).functions → f' ∈ r.functions ∨ f' = f := by
    intro hmem
    rcases List.mem_cons.1 hmem with rfl | hmem
    · exact .inr rfl
    · exact .inl (List.mem_filter.1 hmem).1
  unfold Registry.add at h
  dsimp only at h
  split at h
  · exact .inl h
  · split at h <;> exact hdefine h

/-- Every function that is registered has a definition. -/
theorem mem_addAll {ds : List (Nat × Function)} {r : Registry} {f : Function}
    (h : f ∈ (r.addAll ds).1.functions) : f ∈ r.functions ∨ ∃ n, (n, f) ∈ ds := by
  induction ds generalizing r with
  | nil => exact .inl h
  | cons d ds ih =>
    rcases ih h with hmem | ⟨n, hmem⟩
    · rcases mem_add hmem with hmem | rfl
      · exact .inl hmem
      · exact .inr ⟨d.1, by simp⟩
    · exact .inr ⟨n, by simp [hmem]⟩

end Registry

namespace Program

variable (p : Program) (g : Gateway ω) (config : Config) (fuel : Nat)

/-- The functions that a program defines, and what is to be noted about the definitions. -/
def registry : Registry × List Record := Registry.empty.addAll (Function.found p.definitions)

/-- The plan by which a script is run. -/
def plan : Plan ω where
  setup := ⟨g, config, p.registry.1, fuel⟩
  library := p.definitions.map Prod.snd
  covers f hf := by
    rcases Registry.mem_addAll hf with hf | ⟨n, hf⟩
    · cases hf
    · obtain ⟨⟨n', d⟩, hd, heq⟩ := List.mem_map.1 hf
      cases heq
      exact ⟨d, List.mem_map.2 ⟨_, hd, rfl⟩, rfl⟩

/-- The run of a script: its functions are collected, then it is executed. -/
def run : Exec (Session ω) Flow := do
  Session.lift (Exec.modify fun st => p.registry.2.foldl Station.note st)
  Session.note .debug "Registered functions" [("count", toString p.registry.1.size)]
  (p.plan g config fuel).exec fuel false p

end Program

end TapScript
