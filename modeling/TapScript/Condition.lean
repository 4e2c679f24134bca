import TapScript.Expression.Resolve

/-!
# Conditions

A condition is read from the outside in: it is cut at every `&&`, a part without one at every `||`,
so that `||` binds tighter; what remains is stripped of parentheses, of a leading `!`, and cut at
the first comparison sign.

* `Condition.read` gives the condition that a text is; every text is one.
* `Condition.holds` decides it, from left to right and no further than needed.
-/

namespace TapScript

/-- The signs of comparison. -/
inductive Comparison where
  | ge
  | le
  | ne
  | eq
  | gt
  | lt
deriving DecidableEq, Repr

namespace Comparison

/-- How the sign is written. -/
def sign : Comparison → Text
  | ge => ['>', '=']
  | le => ['<', '=']
  | ne => ['!', '=']
  | eq => ['=', '=']
  | gt => ['>']
  | lt => ['<']

/-- The signs in the order in which they are looked for, so that no long one is taken for a short
one. -/
def all : List Comparison := [ge, le, ne, eq, gt, lt]

/-- Whether two numbers compare so. -/
def onNumbers : Comparison → Float → Float → Bool
  | ge, a, b => a ≥ b
  | le, a, b => a ≤ b
  | gt, a, b => a > b
  | lt, a, b => a < b
  | ne, a, b => a != b
  | eq, a, b => a == b

end Comparison

/-- A condition. Operands of comparisons stay texts until the condition is decided. -/
inductive Condition where
  | const (b : Bool)
  /-- Whether a stop has been requested. -/
  | exit
  | not (c : Condition)
  | and (c d : Condition)
  | or (c d : Condition)
  | compare (op : Comparison) (left right : Text)
  /-- A value that has to read `true`. -/
  | truth (t : Text)
deriving DecidableEq, Repr

namespace Condition

/-- All of the conditions. -/
def all : List Condition → Condition
  | [] => const true
  | [c] => c
  | c :: cs => and c (all cs)

/-- Any of the conditions. -/
def any : List Condition → Condition
  | [] => const false
  | [c] => c
  | c :: cs => or c (any cs)

/-- The first comparison, in the order of the signs, that the text has outside literals. -/
def comparison? (t : Text) : Option Condition :=
  Comparison.all.findSome? fun op =>
    (Text.find? op.sign t).map fun (left, right) => compare op left right

/-- A condition without `&&`, `||`, enclosing parentheses and leading `!`. -/
def atom (t : Text) : Condition :=
  if t.isEmpty || t == "false".toList then const false
  else if t == "true".toList then const true
  else if t == "EXIT".toList then exit
  else (comparison? t).getD (truth t)

/-- What follows a `!` that negates. -/
def negated? : Text → Option Text
  | '!' :: r => if r.head? = some '=' then none else some r
  | _ => none

/-- The condition that the text is, going at most `fuel` levels deep. -/
def readUpTo : (fuel : Nat) → Text → Condition
  | 0, _ => const false
  | fuel + 1, t =>
    let t := Text.trim t
    let conjuncts := Text.split ['&', '&'] t
    let disjuncts := Text.split ['|', '|'] t
    if 1 < conjuncts.length then all (conjuncts.map (readUpTo fuel))
    else if 1 < disjuncts.length then any (disjuncts.map (readUpTo fuel))
    else
      match Text.unwrap? t with
      | some inner => readUpTo fuel inner
      | none =>
        match negated? t with
        | some rest => not (readUpTo fuel rest)
        | none => atom t

/-- The condition that the text is. Each level is shorter than the one around it, so no text is
deeper than it is long. -/
def read (t : Text) : Condition := readUpTo (t.length + 1) t

/-- Whether the condition holds, and the dice behind it. -/
def holds (env : Environment) : Condition → Dice → Bool × Dice
  | const b, d => (b, d)
  | exit, d => (env.exit, d)
  | not c, d =>
    let (b, d) := c.holds env d
    (!b, d)
  | and c c', d =>
    let (b, d) := c.holds env d
    if b then c'.holds env d else (false, d)
  | or c c', d =>
    let (b, d) := c.holds env d
    if b then (true, d) else c'.holds env d
  | compare .eq left right, d =>
    let (l, d) := env.resolve left d
    let (r, d) := env.resolve right d
    (l.toText == r.toText, d)
  | compare .ne left right, d =>
    let (l, d) := env.resolve left d
    let (r, d) := env.resolve right d
    (l.toText != r.toText, d)
  | compare op left right, d =>
    let (l, d) := env.resolveNumber left d
    let (r, d) := env.resolveNumber right d
    (op.onNumbers l r, d)
  | truth t, d =>
    let (v, d) := env.resolve t d
    (v.isTrue, d)

end Condition

/-- Whether the condition that the text is holds. -/
def Environment.holds (env : Environment) (t : Text) (d : Dice) : Bool × Dice :=
  (Condition.read t).holds env d

end TapScript
