import TapScript.Command.Basic
import TapScript.Expression.Eval
import TapScript.Text.Outside

/-!
# Assignments

A statement `name = value`, with a declaring word in front of the name or not, one of the compound
forms `+= -= *= /=`, or `name++` and `name--`.

* `Assignment.ofText?` reads a statement as an assignment.
* `Assignment.combine` gives the new value of a variable in a compound form.
-/

namespace TapScript

/-- A statement that gives a variable a value. -/
structure Assignment where
  target : Text
  /-- The operation of a compound form. -/
  op : Option Operator
  value : Text
deriving DecidableEq, Repr

namespace Assignment

/-- The words that may stand in front of a variable that is assigned to. -/
def declarations : List Text :=
  ["val".toList, "var".toList, "int".toList, "float".toList, "string".toList]

/-- What follows a declaring word and at least one blank. -/
def afterDeclaration? (t word : Text) : Option Text := do
  let r ← Text.after? word t
  guard ((r.head?.map Text.isBlank).getD false)
  some (Text.trimStart r)

/-- The text without a declaring word in front. -/
def withoutDeclaration (t : Text) : Text := (declarations.findSome? (afterDeclaration? t)).getD t

/-- The variable on the left side of an assignment. -/
def target? (t : Text) : Option Text :=
  let name := withoutDeclaration (Text.trim t)
  if Text.isName name then some name else none

/-- The texts around the first `=` outside literals and parentheses, unless it is part of a sign of
comparison. The character in front of the marked text is `previous`. -/
def splitFrom? : (previous : Option Char) → (depth : Int) → List Text.Mark → Option (Text × Text)
  | _, _, [] => none
  | previous, depth, m :: ms =>
    if m.is '=' && depth == 0 then
      let comparing := (ms.head?.map Text.Mark.char) == some '='
        || (previous.map fun c => ['=', '!', '<', '>'].contains c).getD false
      if comparing then none else some ([], Text.chars ms)
    else
      (splitFrom? (some m.char) (m.depthAfter depth) ms).map fun (left, right) =>
        (m.char :: left, right)

/-- The operation that the last character in front of the `=` stands for. -/
def compound? : Char → Option Operator
  | '+' => some .add
  | '-' => some .sub
  | '*' => some .mul
  | '/' => some .div
  | _ => none

/-- A statement `name++` or `name--`. -/
def ofStep? (sign : Text) (op : Operator) (t : Text) : Option Assignment := do
  let left ← Text.before? sign t
  let target ← target? left
  some ⟨target, some op, ['1']⟩

/-- A statement with an `=`. -/
def ofEquation? (t : Text) : Option Assignment := do
  let (left, right) ← splitFrom? none 0 (Text.marks t)
  let op := left.getLast?.bind compound?
  let target ← target? (if op.isSome then left.dropLast else left)
  some ⟨target, op, Text.trim right⟩

/-- The assignment that the statement is. -/
def ofText? (t : Text) : Option Assignment :=
  ((ofStep? ['+', '+'] .add t).or (ofStep? ['-', '-'] .sub t)).or (ofEquation? t)

/-- The value of a compound form: arithmetic on two numbers, and for `+` on anything else the two
texts behind each other. -/
def combine (current : Value) (op : Operator) (value : Value) : Except Mishap Value :=
  match current.number?, value.number? with
  | some a, some b =>
    match op.compute? a b with
    | some x => .ok (.number x)
    | none => .error (.invalid "assignment" .divisionByZero)
  | _, _ =>
    if op = .add then .ok (.text (current.toText ++ value.toText))
    else .error (.invalid "assignment" (.notNumeric current.kind value.kind))

end Assignment

end TapScript
