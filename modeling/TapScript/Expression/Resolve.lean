import TapScript.Dice
import TapScript.Text.WordChar
import TapScript.Text.Outside
import TapScript.Expression.Eval

/-!
# Resolving texts

The value of a text as a statement reads it. Before a text is read as an expression, every
`random(a, b)` in it is replaced by a draw, also inside literals. In messages, `$name` and `${name}`
stand for variables.

* `Environment.draw` makes the draws, `Environment.resolve` gives the value behind them.
* `Environment.interpolate` fills in the variables of a message.
-/

namespace TapScript

namespace Environment

/-- A draw at the start of the text: the text between the parentheses of `random( … )`, which holds
no parenthesis, and the number of characters of the whole call. -/
def drawCall? (t : Text) : Option (Text × Nat) := do
  let behind ← Text.after? "random".toList t
  let opened ← Text.after? ['('] (behind.dropWhile Text.isBlank)
  let bounds := opened.takeWhile fun c => c != '(' && c != ')'
  let rest ← Text.after? [')'] (opened.drop bounds.length)
  some (bounds, t.length - rest.length)

/-- The text of a draw between the bounds in the list: zero unless there are exactly two. -/
def drawText (env : Environment) (bounds : Text) (d : Dice) : Text × Dice :=
  match (Text.split [','] bounds).map fun b =>
      Number.clampTo Number.minInt64 Number.maxInt64 (env.plainNumber b) with
  | [a, b] =>
    let (n, d) := d.roll a b
    (Integer.render n, d)
  | _ => (['0'], d)

/-- The text with its draws made, behind a word character or not. The first `skip` characters belong
to a draw that has been made. -/
def drawFrom (env : Environment) : (afterWord : Bool) → (skip : Nat) → Text → Dice → Text × Dice
  | _, _, [], d => ([], d)
  | _, skip + 1, c :: r, d => drawFrom env (Text.isWordChar c) skip r d
  | afterWord, 0, c :: r, d =>
    match if afterWord then none else drawCall? (c :: r) with
    | some (bounds, length) =>
      let (drawn, d) := env.drawText bounds d
      let (others, d) := drawFrom env (Text.isWordChar c) (length - 1) r d
      (drawn ++ others, d)
    | none =>
      let (others, d) := drawFrom env (Text.isWordChar c) 0 r d
      (c :: others, d)

/-- The text in which each `random(a, b)` that stands at the start of a word is replaced by a number
drawn between the bounds. -/
def draw (env : Environment) (t : Text) (d : Dice) : Text × Dice := drawFrom env false 0 t d

/-- The value of a text: its draws are made, and what results is read as an expression, or kept as a
text with its variables filled in. -/
def resolve (env : Environment) (t : Text) (d : Dice) : Value × Dice :=
  let (drawn, d) := env.draw (Text.trim t) d
  (env.plain drawn, d)

/-- The number that a text spells, zero if it spells none. -/
def resolveNumber (env : Environment) (t : Text) (d : Dice) : Float × Dice :=
  let (v, d) := env.resolve t d
  (v.number?.getD 0.0, d)

/-- A reference behind a `$`: the name, with or without braces around it, and the number of
characters it takes. -/
def reference? : Text → Option (Text × Nat)
  | '{' :: c :: r =>
    if Text.isNameStart c then
      let tail := r.takeWhile Text.isWordChar
      (Text.after? ['}'] (r.drop tail.length)).map fun _ => (c :: tail, tail.length + 3)
    else none
  | c :: r =>
    if Text.isNameStart c then
      let tail := r.takeWhile Text.isWordChar
      some (c :: tail, tail.length + 1)
    else none
  | [] => none

/-- The message with its references filled in; the first `skip` characters belong to a reference
that has been. -/
def interpolateFrom (env : Environment) : (skip : Nat) → Text → Text
  | _, [] => []
  | skip + 1, _ :: r => interpolateFrom env skip r
  | 0, c :: r =>
    let reference := do
      let (name, length) ← if c == '$' then reference? r else none
      let v ← env.frame.get? name
      some (v.toText, length)
    match reference with
    | some (value, length) => value ++ interpolateFrom env length r
    | none => c :: interpolateFrom env 0 r

/-- The message in which `$name` and `${name}` are replaced by the variable's text where there is
such a variable. -/
def interpolate (env : Environment) (t : Text) : Text := interpolateFrom env 0 t

end Environment

end TapScript
