import TapScript.Run.Assignment
import TapScript.Run.Session

/-!
# Statements

A line that opens no block is a call of a command, an assignment or a call of a function of the
script. A function runs on a copy of its caller's variables and hands back what it has left in
`result`.

* `Setup.statement` carries out a statement, given how the body of a function is run.
-/

namespace TapScript

/-- The name under which scripts see the stop flag. -/
def exitName : Text := "EXIT".toList

/-- The values of some texts, from left to right. -/
def Environment.resolveAll (env : Environment) : List Text → Dice → List Value × Dice
  | [], d => ([], d)
  | t :: ts, d =>
    let (v, d) := env.resolve t d
    let (vs, d) := resolveAll env ts d
    (v :: vs, d)

namespace Setup

variable {ω : Type} (setup : Setup ω) (run : Function → Exec (Session ω) Flow)

/-- Binds the value of a call to the variable that it is assigned to, if there are both. -/
def deliver (target : Option Text) (v : Option Value) : Exec (Session ω) Unit :=
  match target, v with
  | some name, some v => Session.bind name v
  | _, _ => return ()

/-- Calls a function of the script. The arguments are handed over as texts; places too many or too
few are noted and left alone. -/
def call (line : Line) (f : Function) (args : Text) (target : Option Text) :
    Exec (Session ω) (Except Mishap Unit) := do
  let depth ← Exec.gets fun s => s.scope.depth
  if setup.config.maxCallDepth ≤ depth then return .error (.tooDeep setup.config.maxCallDepth)
  match ← setup.expand line.number args with
  | .error mishap => return .error mishap
  | .ok expanded =>
    let values ← setup.reading fun env dice => env.resolveAll (Text.arguments expanded) dice
    if values.length ≠ f.params.length then
      Session.note .debug "Argument count differs from parameter count"
        [("function", String.ofList f.name), ("expected", toString f.params.length),
          ("got", toString values.length)]
    let bindings := f.params.zip (values.map fun v => Value.text v.toText)
    deliver target (← Session.inCall bindings (run f))
    return .ok ()

/-- The function whose result is assigned, with the text of its arguments. -/
def assignedCall? (a : Assignment) : Option (Function × Text) := do
  guard a.op.isNone
  let c ← Text.call? a.value
  let f ← setup.functions.get? c.name
  some (f, c.args)

/-- Carries out an assignment that is no call of a command. -/
def assign (line : Line) (a : Assignment) : Exec (Session ω) (Except Mishap Unit) := do
  match setup.assignedCall? a with
  | some (f, args) => setup.call run line f args (some a.target)
  | none =>
    match ← setup.expand line.number a.value with
    | .error mishap => return .error mishap
    | .ok expanded =>
      let value ← setup.reading fun env dice => env.resolve expanded dice
      match a.op with
      | none =>
        Session.bind a.target value
        return .ok ()
      | some op =>
        let current ← Exec.gets fun s => (s.scope.get? a.target).getD (.number 0.0)
        match Assignment.combine current op value with
        | .error mishap => return .error mishap
        | .ok v =>
          Session.bind a.target v
          return .ok ()

/-- Sets the stop flag if the condition holds. -/
def assignExit (line : Line) (condition : Text) : Exec (Session ω) Unit := do
  if ← setup.reading fun env dice => env.holds condition dice then
    Session.note .debug "EXIT set by script" [("line", toString line.number)]
    Session.lift requestStop

/-- The command that a statement calls, with the variable that its value is assigned to. -/
def builtinCall? (t : Text) (a : Option Assignment) : Option (Builtin × Text × Option Text) := do
  let (target, expression) := match a with
    | none => (none, t)
    | some ⟨target, none, value⟩ => (some target, value)
    | some ⟨_, some _, _⟩ => (none, [])
  let c ← Text.call? expression
  let builtin ← Builtin.ofName? c.name
  some (builtin, c.args, target)

/-- Carries out a statement. -/
def statement (line : Line) : Exec (Session ω) (Except Mishap Unit) := do
  let t := Text.trim line.text
  if t.isEmpty || (Text.after? ['/', '/'] t).isSome then return .ok ()
  let assignment := Assignment.ofText? t
  match builtinCall? t assignment, assignment with
  | some (builtin, args, target), _ =>
    match ← setup.perform line.number builtin args with
    | .error mishap => return .error mishap
    | .ok v =>
      deliver target v
      return .ok ()
  | none, some a =>
    if a.target == exitName then
      setup.assignExit line a.value
      return .ok ()
    else setup.assign run line a
  | none, none =>
    match Text.call? t with
    | none => return .error (.unrecognized t)
    | some c =>
      match setup.functions.get? c.name with
      | none => return .error (.undefined c.name)
      | some f => setup.call run line f c.args none

end Setup

end TapScript
