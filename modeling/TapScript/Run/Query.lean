import TapScript.Command.Perform
import TapScript.Condition

/-!
# Queries inside texts

A condition or an expression may call commands that ask something of the device. Before the text is
read, each such call is carried out and replaced by the literal of its value, from the last call to
the first, so that a call inside another call's arguments comes before it.

* `Query.last?` finds the last call of a query, `Query.expand` replaces them all.
* `Query.test` decides a condition with queries in it.
-/

namespace TapScript

/-- A call of a query in a text: the text before it, the call, and the text behind it. -/
structure Query where
  before : Text
  builtin : Builtin
  args : Text
  behind : Text
deriving DecidableEq, Repr

namespace Query

/-- The text with the call replaced. -/
def replace (q : Query) (literal : Text) : Text := q.before ++ literal ++ q.behind

/-- The query whose opening parenthesis has just been read, behind `word`, which is in reverse order
like the text before it. -/
def call? (before word : Text) (ms : List Text.Mark) : Option Query := do
  let builtin ← Builtin.ofName? word.reverse
  guard builtin.isQuery
  let (args, behind) ← Text.Mark.closing? 0 ms
  some ⟨before.reverse, builtin, args, behind⟩

/-- The last query in the marked text, behind `word` and the text before it, which both are in
reverse order. -/
def lastFrom? : (before word : Text) → List Text.Mark → Option Query
  | _, _, [] => none
  | before, word, m :: ms =>
    if m.outside && Text.isNameChar m.char then lastFrom? before (m.char :: word) ms
    else
      match lastFrom? (m.char :: (word ++ before)) [] ms with
      | some q => some q
      | none => if m.is '(' then call? before word ms else none

/-- The last call of a query outside literals whose parenthesis is closed. -/
def last? (t : Text) : Option Query := lastFrom? [] [] (Text.marks t)

/-- How many calls are replaced in one text. -/
def maxExpansions : Nat := 64

section Station

variable {ω : Type} (g : Gateway ω) (config : Config) (fuel line : Nat) (frame : Frame)

/-- Reading texts against the variables of a frame and the stop flag as it is now. -/
def reading {α : Type} (read : Environment → Dice → α × Dice) : Exec (Station ω) α := do
  let stopped ← stopRequested g
  fun st =>
    let (a, dice) := read ⟨frame, stopped⟩ st.dice
    .done a { st with dice }

/-- The command that a call is, with its arguments checked. -/
def command (builtin : Builtin) (args : Text) : Exec (Station ω) (Except Mishap Command) :=
  reading g frame fun env dice => (builtin.read args env config).run dice

/-- The text with its last queries replaced, `rounds` of them at most. -/
def expandUpTo : (rounds : Nat) → Text → Exec (Station ω) (Except Mishap Text)
  | 0, t => return .ok t
  | rounds + 1, t =>
    match last? t with
    | none => return .ok t
    | some q => do
      match ← command g config frame q.builtin q.args with
      | .error mishap => return .error mishap
      | .ok c =>
        match ← c.perform g config fuel line with
        | .error mishap => return .error mishap
        | .ok v => expandUpTo rounds (q.replace (v.getD .null).literal)

/-- The text with its queries replaced by the literals of their values. -/
def expand (t : Text) : Exec (Station ω) (Except Mishap Text) :=
  expandUpTo g config fuel line frame maxExpansions t

/-- Reports why a statement was not carried out. -/
def report (mishap : Mishap) : Exec (Station ω) Unit :=
  if mishap.isWarning then warn g line mishap.message else fail g line mishap.message

/-- Whether a condition holds. One that cannot be decided is reported and does not. -/
def test (condition : Text) : Exec (Station ω) Bool := do
  match ← expand g config fuel line frame condition with
  | .error mishap =>
    report g line mishap
    return false
  | .ok expanded => reading g frame fun env dice => env.holds expanded dice

end Station

end Query

end TapScript
