import TapScript.Run.Statement

/-!
# Walking through lines

A script is run by walking through its lines. At a header the block behind it is cut out and walked
through in turn; nothing is parsed ahead. The stop flag is looked at before every line and every
turn of a loop.

* `Line.Kind` is what a line is to the walk.
* `Setup.walk` walks through some lines, `Setup.turns` through the turns of a loop, and
  `Setup.chain` through the branches of an `if`.
* `runScript` runs a script.

The number of steps is bounded by an argument, since a loop may never end.
-/

namespace TapScript

namespace Line

/-- The condition, with its parentheses, of a header `keyword (condition) {`. -/
def condition? (keyword t : Text) : Option Text := do
  let r := Text.trimStart (← Text.after? keyword t)
  guard (r.head? == some '(')
  let condition := Text.trimEnd (← Text.before? ['{'] r)
  guard (condition.getLast? == some ')')
  some condition

/-- The condition of an `else if`, or no condition for an `else`, if the line is one of them. -/
def alternative? (t : Text) : Option (Option Text) := do
  let r := Text.trimStart (← Text.after? "else".toList t)
  if r == ['{'] then some none else (condition? "if".toList r).map some

/-- What a line is to the walk. -/
inductive Kind where
  | loop (condition : Text)
  | branch (condition : Text)
  /-- Another header: a definition, or a block that means nothing. -/
  | header
  /-- `break` or `continue`. -/
  | leave
  /-- A closing brace that no header was waiting for. -/
  | closer
  /-- `return`, which ends the run. -/
  | quit
  | statement
deriving DecidableEq, Repr

/-- What the line is to the walk. -/
def kind (t : Text) : Kind :=
  match condition? "while".toList t with
  | some condition => .loop condition
  | none =>
    match condition? "if".toList t with
    | some condition => .branch condition
    | none =>
      if t.getLast? == some '{' then .header
      else if t == "break".toList || t == "continue".toList then .leave
      else if t == Line.closer then .closer
      else if t == "return".toList || (Text.after? "return ".toList t).isSome then .quit
      else .statement

end Line

namespace Setup

variable {ω : Type} (setup : Setup ω)

/-- Whether a loop goes on. Three conditions are so common that they are not read as others are. -/
def goesOn (line : Line) (condition : Text) : Exec (Session ω) Bool :=
  let t := Text.trim condition
  let bare := ((Text.unwrap? t).map Text.trim).getD t
  if bare == "true".toList then return true
  else if bare == "false".toList then return false
  else if bare == "!EXIT".toList then do return !(← setup.stopRequested)
  else setup.test line.number condition

/-- The turns of a loop: until a stop, until its condition fails, or until its body is left. -/
def turns (line : Line) (condition : Text) (body : Exec (Session ω) Flow) :
    (fuel : Nat) → Exec (Session ω) Unit
  | 0 => Exec.exhausted
  | fuel + 1 => do
    if ← setup.stopRequested then return ()
    if !(← setup.goesOn line condition) then return ()
    if (← body) = .broken then return ()
    turns line condition body fuel

/-- One branch of an `if`: its body is run if no branch was `taken` before and its condition, if it
has one, holds. Gives the flow of the branch that was taken by now. -/
def branch (run : List Line → Exec (Session ω) Flow) (line : Line) (body : List Line) :
    (condition : Option Text) → (taken : Option Flow) → Exec (Session ω) (Option Flow)
  | _, some flow => return some flow
  | none, none => some <$> run body
  | some condition, none => do
    if ← setup.test line.number condition then some <$> run body else return none

/-- The branches of an `if`, of which the first line is the header and `condition` its condition.
Once a branch was `taken`, the others are passed over. Gives the lines behind the last branch and
the flow of the branch that was taken. -/
def chain (run : List Line → Exec (Session ω) Flow) :
    (condition : Option Text) → (taken : Option Flow) → List Line →
      Exec (Session ω) (List Line × Flow)
  | _, taken, [] => return ([], taken.getD .normal)
  | condition, taken, line :: rest => do
    let body := (Block.cut (line :: rest)).1
    let behind := (Block.cut (line :: rest)).2
    let taken ← setup.branch run line body condition taken
    match behind.head?.bind fun next => Line.alternative? next.text with
    | some condition => chain run condition taken behind
    | none => return (behind, taken.getD .normal)
termination_by _ _ lines => lines.length
decreasing_by exact Block.length_cut_lt line rest

/-- Tells the world which line the run takes up. -/
def visit (line : Line) : Exec (Session ω) Unit :=
  Session.lift (ask setup.gateway (.visit line.number))

/-- Walks through some lines. A `break` inside a loop ends the block with all blocks up to the loop;
outside of loops it ends its branch, or the body of the function or script where it stands. -/
def walk : (fuel : Nat) → List Line → Exec (Session ω) Flow
  | 0, _ => Exec.exhausted
  | _ + 1, [] => return .normal
  | fuel + 1, line :: rest => do
    if ← setup.stopRequested then return .normal
    setup.visit line
    match Line.kind line.text with
    | .loop condition =>
      let (body, behind) := Block.cut (line :: rest)
      Session.inLoop (setup.turns line condition (walk fuel body) fuel)
      walk fuel behind
    | .branch condition =>
      let (behind, flow) ← setup.chain (walk fuel) (some condition) none (line :: rest)
      if flow = .broken then
        if 0 < (← Exec.gets Session.loops) then return .broken
        Session.note .debug "break outside a loop ends its branch only"
          [("line", toString line.number)]
      walk fuel behind
    | .header =>
      if (Function.header? line.text).isNone then
        Session.lift (warn setup.gateway line.number
          ("Skipping unsupported block: " ++ String.ofList line.text))
      walk fuel (Block.cut (line :: rest)).2
    | .leave => return .broken
    | .closer => walk fuel rest
    | .quit =>
      Session.note .debug "return stops the run" [("line", toString line.number)]
      Session.lift requestStop
      return .normal
    | .statement =>
      match ← setup.statement (fun f => walk fuel f.body) line with
      | .error mishap => Session.lift (Query.report setup.gateway line.number mishap)
      | .ok () => pure ()
      walk fuel rest

end Setup

/-- Runs a script: collects its functions, then walks through its lines. -/
def runScript {ω : Type} (g : Gateway ω) (config : Config) (fuel : Nat) (lines : List Line) :
    Exec (Session ω) Flow := do
  let (functions, notes) := Registry.ofLines lines
  let setup : Setup ω := ⟨g, config, functions, fuel⟩
  Session.lift (Exec.modify fun st => notes.foldl Station.note st)
  Session.note .debug "Registered functions" [("count", toString functions.size)]
  setup.walk fuel lines

end TapScript
