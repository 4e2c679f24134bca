import TapScript.Expression.Token

/-!
# Expressions

Expressions over numbers, literals and names. Multiplication, division and remainder bind tighter
than addition and subtraction, all four group from the left, and a minus sign in front of a factor
binds tightest.

* `Expression.parse?` reads a list of tokens as one expression.
-/

namespace TapScript

/-- The signs between two operands. -/
inductive Operator where
  | add
  | sub
  | mul
  | div
  | rem
deriving DecidableEq, Repr

/-- An expression. -/
inductive Expression where
  | number (x : Float)
  | literal (t : Text)
  | name (t : Text)
  | negate (e : Expression)
  | binary (op : Operator) (left right : Expression)

namespace Expression

/-- The operator that a sign is between two sums. -/
def additive? : Token → Option Operator
  | .sign '+' => some .add
  | .sign '-' => some .sub
  | _ => none

/-- The operator that a sign is between two factors. -/
def multiplicative? : Token → Option Operator
  | .sign '*' => some .mul
  | .sign '/' => some .div
  | .sign '%' => some .rem
  | _ => none

mutual

/-- A sum of products at the start of the tokens, and the tokens behind it. The first argument
bounds how deep the reading may go. -/
def sum? : Nat → List Token → Option (Expression × List Token)
  | 0, _ => none
  | n + 1, ts => do
    let (left, ts) ← product? n ts
    sumFrom? n left ts

/-- The rest of a sum that starts with `left`. -/
def sumFrom? : Nat → Expression → List Token → Option (Expression × List Token)
  | 0, _, _ => none
  | _ + 1, left, [] => some (left, [])
  | n + 1, left, t :: ts =>
    match additive? t with
    | some op => do
      let (right, ts) ← product? n ts
      sumFrom? n (binary op left right) ts
    | none => some (left, t :: ts)

/-- A product of factors at the start of the tokens. -/
def product? : Nat → List Token → Option (Expression × List Token)
  | 0, _ => none
  | n + 1, ts => do
    let (left, ts) ← factor? n ts
    productFrom? n left ts

/-- The rest of a product that starts with `left`. -/
def productFrom? : Nat → Expression → List Token → Option (Expression × List Token)
  | 0, _, _ => none
  | _ + 1, left, [] => some (left, [])
  | n + 1, left, t :: ts =>
    match multiplicative? t with
    | some op => do
      let (right, ts) ← factor? n ts
      productFrom? n (binary op left right) ts
    | none => some (left, t :: ts)

/-- A number, a literal, a name, a negated factor or a sum in parentheses. -/
def factor? : Nat → List Token → Option (Expression × List Token)
  | 0, _ => none
  | _ + 1, [] => none
  | _ + 1, .number x :: ts => some (number x, ts)
  | _ + 1, .literal t :: ts => some (literal t, ts)
  | _ + 1, .name t :: ts => some (name t, ts)
  | n + 1, .sign '-' :: ts => do
    let (e, ts) ← factor? n ts
    some (negate e, ts)
  | n + 1, .sign '(' :: ts => do
    let (e, ts) ← sum? n ts
    match ts with
    | .sign ')' :: ts => some (e, ts)
    | _ => none
  | _ + 1, .sign _ :: _ => none

end

/-- The expression that the tokens are, from the first to the last. Reading goes three levels
deeper at most for each token. -/
def parse? (ts : List Token) : Option Expression :=
  match sum? (4 * ts.length + 4) ts with
  | some (e, []) => some e
  | _ => none

end Expression

end TapScript
