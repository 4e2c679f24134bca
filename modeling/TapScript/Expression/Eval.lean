import TapScript.Scope
import TapScript.Expression.Basic

/-!
# Values of expressions

An expression takes its names from the variables of one frame. A text that is no expression is kept
as it is, with the variables that it mentions filled in.

* `Expression.eval?` calculates an expression.
* `Environment.fill` fills variables into a text.
* `Environment.plain` is the value of a text without random draws.
-/

namespace TapScript

/-- What an expression is read against: the variables, and whether a stop has been requested, which
scripts read as `EXIT`. -/
structure Environment where
  frame : Frame
  exit : Bool

/-- A value inside an expression. Literals, and sums of texts, do not take part in arithmetic. -/
structure Operand where
  value : Value
  quoted : Bool

/-- The number that the operand contributes to arithmetic. -/
def Operand.number? (o : Operand) : Option Float := if o.quoted then none else o.value.number?

/-- A number as an operand. -/
def Operand.ofNumber (x : Float) : Operand := ⟨.number x, false⟩

/-- The result of an operator on two numbers; nothing divides by zero. -/
def Operator.compute? (op : Operator) (a b : Float) : Option Float :=
  match op with
  | .add => some (a + b)
  | .sub => some (a - b)
  | .mul => some (a * b)
  | .div => if b == 0.0 then none else some (a / b)
  | .rem => if b == 0.0 then none else some (Number.remainder a b)

/-- The result of an operator: arithmetic on two numbers, and for `+` on anything else the two
texts behind each other. -/
def Operator.combine? (op : Operator) (a b : Operand) : Option Operand :=
  match a.number?, b.number? with
  | some x, some y => (op.compute? x y).map Operand.ofNumber
  | _, _ =>
    if op = .add then some ⟨.text (a.value.toText ++ b.value.toText), true⟩ else none

namespace Environment

/-- The value of a name: a variable, one of the words of the language, or the name itself. -/
def word (env : Environment) (name : Text) : Value :=
  match env.frame.get? name with
  | some v => v
  | none =>
    if name = "true".toList then .bool true
    else if name = "false".toList then .bool false
    else if name = "EXIT".toList then .bool env.exit
    else if name = "null".toList then .null
    else .text name

end Environment

namespace Expression

/-- The value of an expression; nothing if arithmetic meets a text or divides by zero. -/
def eval? (env : Environment) : Expression → Option Operand
  | number x => some (.ofNumber x)
  | literal t => some ⟨.text t, true⟩
  | name t => some ⟨env.word t, false⟩
  | negate e => do
    let o ← e.eval? env
    let x ← o.number?
    some (.ofNumber (-x))
  | binary op left right => do
    let a ← left.eval? env
    let b ← right.eval? env
    op.combine? a b

end Expression

namespace Environment

/-- The value of a text that is an expression. -/
def expression? (env : Environment) (t : Text) : Option Value := do
  let tokens ← Token.scan? t
  let e ← Expression.parse? tokens
  let o ← e.eval? env
  some o.value

/-- The text of a variable, or the word itself if it names none. -/
def fillWord (env : Environment) (word : Text) : Text :=
  match env.frame.get? word with
  | some v => v.toText
  | none => word

/-- The text with its variables filled in, where `word` is the run of letters, digits and
underscores that ends in front of it, in reverse order. -/
def fillFrom (env : Environment) : Text.Quoting → (word : Text) → Text → Text
  | _, word, [] => if word.isEmpty then [] else env.fillWord word.reverse
  | q, word, c :: r =>
    if q.isCode && Text.isNameChar c then fillFrom env q (c :: word) r
    else
      (if word.isEmpty then [] else env.fillWord word.reverse) ++ c :: fillFrom env (q.step c) [] r

/-- The text in which each run of letters, digits and underscores outside literals that names a
variable is replaced by the variable's text. -/
def fill (env : Environment) (t : Text) : Text := fillFrom env .code [] t

/-- The value of a text without random draws: an expression, or else the text with its variables
filled in, read as a literal if it has become one. -/
def plain (env : Environment) (t : Text) : Value :=
  let t := Text.trim t
  match env.expression? t with
  | some v => v
  | none =>
    let filled := env.fill t
    match Text.Literal.decode? filled with
    | some inner => .text inner
    | none => .text (Text.trim filled)

/-- The number that a text without random draws spells, zero if it spells none. -/
def plainNumber (env : Environment) (t : Text) : Float := (env.plain t).number?.getD 0.0

end Environment

end TapScript
