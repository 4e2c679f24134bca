import TapScript.Gateway.Device
import TapScript.Proofs.Assigned
import TapScript.Proofs.Enclosed
import TapScript.Proofs.Formula

/-! # Assignments to the stop flag

A statement `EXIT = e` is meant to set the stop flag if `e` holds as a condition. It does so for
every `e` that calls nothing. If `e` as a whole is a call of a command, the value of the command is
bound to a variable instead; and calls of queries that are only a part of `e` are not carried out.

* `Outcome.raises` is what the verdict on a condition means for the stop flag.
* `Setup.test_wrap` says how an `if` decides a condition without calls.
* `exit_follows_condition` compares the two. -/

namespace TapScript

variable {ω : Type}

/-- The session in which the script has set the stop flag. -/
def Session.raised (number : Nat) (s : Session ω) : Session ω :=
  let entry : Record := ⟨.debug, "EXIT set by script", [("line", toString number)]⟩
  { s with station := { s.station.note entry with stopped := true } }

/-- What becomes of the statement on the given line that assigns a condition to the stop flag: the
flag is set if the condition holds, and else nothing is done. -/
def Outcome.raises (number : Nat) :
    Outcome (Session ω) Bool → Outcome (Session ω) (Except Mishap Unit)
  | .done true s => .done (.ok ()) (s.raised number)
  | .done false s => .done (.ok ()) s
  | .crashed crash s => .crashed crash s
  | .exhausted => .exhausted

/-- Blanks around a condition do not matter. -/
theorem Environment.holds_trim (env : Environment) (t : Text) :
    env.holds (Text.trim t) = env.holds t := by
  funext d
  rw [holds, holds, Condition.read_trim]

namespace Setup

variable (setup : Setup ω) (number : Nat)

/-- What is assigned to the stop flag raises it if it holds. -/
theorem assignExit_raises (line : Line) (condition : Text) (s : Session ω) :
    (do setup.assignExit line condition; return .ok () : Exec (Session ω) (Except Mishap Unit)) s =
      (setup.reading (fun env => env.holds condition) s).raises line.number := by
  simp only [assignExit, Exec.bind_apply]
  cases setup.reading (fun env => env.holds condition) s with
  | done verdict t => cases verdict <;> rfl
  | crashed crash t => rfl
  | exhausted => rfl

/-- A condition in parentheses in which nothing is called is decided by one reading. -/
theorem test_wrap {e : Text} (he : Text.IsWhole e) (hcalls : Query.calls e = []) :
    setup.test number (Text.wrap e) = setup.reading fun env => env.holds e := by
  have hlast : Query.last? (Text.wrap e) = none := by
    rw [Query.last?_eq_getLast?, Query.calls_wrap he, hcalls]
    rfl
  have hexpand : ∀ frame, Query.expand setup.gateway setup.config setup.fuel number frame
      (Text.wrap e) = pure (.ok (Text.wrap e)) := by
    intro frame
    rw [Query.expand, Query.maxExpansions, Query.expandUpTo, hlast]
  simp only [test, Query.test, hexpand, pure_bind, Environment.holds_wrap _ he]
  rfl

/-- A verdict leaves the variables alone. -/
theorem raises_scope (read : Environment → Dice → Bool × Dice) (s : Session ω) :
    ((setup.reading read s).raises number).Meets (fun _ t => t.scope = s.scope)
      fun t => t.scope = s.scope := by
  have hreading : (setup.reading read s).Meets (fun _ t => t.scope = s.scope)
      fun t => t.scope = s.scope :=
    Session.lift_meets ((Exec.returns_true _ s.station).imp (fun _ _ _ => rfl) fun _ _ => rfl)
  cases h : setup.reading read s with
  | done verdict t =>
    rw [h] at hreading
    cases verdict <;> exact hreading
  | crashed crash t =>
    rw [h] at hreading
    exact hreading
  | exhausted => trivial

end Setup

/-- **Assigning to the stop flag.** If the text on the right calls no command as a whole, the
statement `EXIT = e` sets the stop flag exactly if `e`, read as it stands, holds as a condition, and
no variable of any frame changes. If moreover there is no call of a query in `e`, this is exactly
what `if (e) {` decides in the same state. But a text that calls a command is carried out, and the
value of the command is bound to a variable with the name of the flag. -/
theorem exit_follows_condition (setup : Setup ω) (run : Function → Exec (Session ω) Flow)
    (number : Nat) (e : Text) (s : Session ω) :
    (Builtin.call? e = none →
      setup.statement run ⟨number, Assignment.source exitName e⟩ s =
          (setup.reading (fun env => env.holds e) s).raises number ∧
        (setup.statement run ⟨number, Assignment.source exitName e⟩ s).Meets
          (fun _ t => t.scope = s.scope) fun t => t.scope = s.scope) ∧
    (Builtin.call? e = none → Text.IsWhole e → Query.calls e = [] →
      Line.kind ("if ".toList ++ Text.wrap e ++ " \x7b".toList) = .branch (Text.wrap e) ∧
        setup.statement run ⟨number, Assignment.source exitName e⟩ s =
          (setup.test number (Text.wrap e) s).raises number) ∧
    (∀ b args, Builtin.call? e = some (b, args) →
      setup.statement run ⟨number, Assignment.source exitName e⟩ = (do
        match ← setup.perform number b args with
        | .error mishap => return .error mishap
        | .ok v =>
          Setup.deliver (some exitName) v
          return .ok ())) := by
  have hread : Builtin.call? e = none → setup.statement run ⟨number, Assignment.source exitName e⟩
      s = (setup.reading (fun env => env.holds e) s).raises number := by
    intro hcall
    rw [setup.statement_exit run number hcall, setup.assignExit_raises]
    simp only [Environment.holds_trim]
  refine ⟨fun hcall => ⟨hread hcall, ?_⟩, fun hcall he hcalls => ⟨?_, ?_⟩, fun b args hcall => ?_⟩
  · rw [hread hcall]
    exact setup.raises_scope number _ s
  · have hwhile : Line.condition? "while".toList ("if ".toList ++ Text.wrap e ++ " \x7b".toList) =
        none := rfl
    have hif : Line.condition? "if".toList ("if ".toList ++ Text.wrap e ++ " \x7b".toList) =
        some (Text.wrap e) := Line.condition?_enclosed "if".toList e
    rw [Line.kind, hwhile, hif]
  · rw [setup.test_wrap number he hcalls]
    exact hread hcall
  · exact setup.statement_command run number (by decide) hcall

/-- A condition of two comparisons, one of them negated. -/
theorem exit_follows_condition_compound :
    Builtin.call? "n >= 3 && !(name == \"a(\")".toList = none ∧
      Text.IsWhole "n >= 3 && !(name == \"a(\")".toList ∧
      Query.calls "n >= 3 && !(name == \"a(\")".toList = [] ∧
      ∀ (setup : Setup Device) (run : Function → Exec (Session Device) Flow) (s : Session Device),
        setup.statement run ⟨1, "EXIT = n >= 3 && !(name == \"a(\")".toList⟩ s =
          (setup.test 1 "(n >= 3 && !(name == \"a(\"))".toList s).raises 1 := by
  have hcall : Builtin.call? "n >= 3 && !(name == \"a(\")".toList = none := by decide +kernel
  have he : Text.IsWhole "n >= 3 && !(name == \"a(\")".toList := by decide
  have hcalls : Query.calls "n >= 3 && !(name == \"a(\")".toList = [] := by decide +kernel
  exact ⟨hcall, he, hcalls, fun setup run s =>
    ((exit_follows_condition setup run 1 _ s).2.1 hcall he hcalls).2⟩

/-- What is seen of a statement that has been carried out: the stop flag, and the text of the
variable with its name. -/
def Outcome.exit? : Outcome (Session ω) (Except Mishap Unit) → Option (Bool × Option Text)
  | .done (.ok ()) s => some (s.station.stopped, (s.scope.current.get? exitName).map Value.toText)
  | _ => none

/-- The verdict on a condition. -/
def Outcome.verdict? : Outcome (Session ω) Bool → Option Bool
  | .done verdict _ => some verdict
  | _ => none

/-- A query is called whose answer is `true`, as the whole condition and as a part of it. An `if`
takes its branch, but the flag is not set, and in the first case there is a variable with its
name. -/
theorem exit_not_set_by_query :
    let setup : Setup Device := ⟨Device.gateway, {}, .empty, 20⟩
    let s : Session Device := Session.start { state := Device.store {} "a" "true" }
    (setup.test 1 "(getVar(\"a\"))".toList s).verdict? = some true ∧
      (setup.statement (fun _ => return .normal) ⟨1, "EXIT = getVar(\"a\")".toList⟩ s).exit? =
        some (false, some "true".toList) ∧
      (setup.test 1 "(getVar(\"a\") == \"true\")".toList s).verdict? = some true ∧
      (setup.statement (fun _ => return .normal) ⟨1, "EXIT = getVar(\"a\") == \"true\"".toList⟩
        s).exit? = some (false, none) := by
  decide +kernel

end TapScript
