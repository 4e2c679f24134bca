import TapScript.Text.Literal
import TapScript.Number.Decimal

/-!
# Tokens of expressions

An expression is made of numbers, string literals, names, the signs `+ - * / %` and parentheses,
with blanks anywhere between them. `Token.scan?` reads a text character by character; what has been
read of a token that may still go on is kept as a `Pending`.
-/

namespace TapScript

/-- A token of an expression. -/
inductive Token where
  | number (x : Float)
  | literal (t : Text)
  | name (t : Text)
  | sign (c : Char)

namespace Token

/-- The characters that are tokens by themselves. -/
def isSign (c : Char) : Bool := "+-*/%()".toList.contains c

/-- A token that has begun, with what it holds so far in reverse order. -/
inductive Pending where
  /-- Between tokens. -/
  | none
  | number (read : Text)
  | name (read : Text)
  /-- Inside a literal, escapes resolved. -/
  | literal (quote : Char) (read : Text)
  /-- Inside a literal, right behind a backslash. -/
  | escape (quote : Char) (read : Text)
deriving DecidableEq, Repr

namespace Pending

/-- Whether the character belongs to a number. -/
def isNumberChar (c : Char) : Bool := c.isDigit || c == '.'

/-- The token that ends here, if one is pending. A literal cannot end without its quote, and a run
of digits and points has to be a number. -/
def finish? : Pending → Option (List Token)
  | none => some []
  | number read => (Number.read? read.reverse).map fun x => [.number x]
  | name read => some [.name read.reverse]
  | literal _ _ => Option.none
  | escape _ _ => Option.none

/-- A character between tokens: the token it is, if it is one, and what is pending behind it. -/
def start? (c : Char) : Option (List Token × Pending) :=
  if Text.isBlank c then some ([], none)
  else if Text.isQuote c then some ([], literal c [])
  else if isNumberChar c then some ([], number [c])
  else if Text.isNameStart c then some ([], name [c])
  else if isSign c then some ([.sign c], none)
  else Option.none

/-- The tokens that a character ends, and what is pending behind it. -/
def feed? : Pending → Char → Option (List Token × Pending)
  | none, c => start? c
  | number read, c =>
    if isNumberChar c then some ([], number (c :: read))
    else do
      let ended ← finish? (number read)
      let (tokens, pending) ← start? c
      some (ended ++ tokens, pending)
  | name read, c =>
    if Text.isNameChar c then some ([], name (c :: read))
    else do
      let (tokens, pending) ← start? c
      some (.name read.reverse :: tokens, pending)
  | literal q read, c =>
    if c == q then some ([.literal read.reverse], none)
    else if c == '\\' then some ([], escape q read)
    else some ([], literal q (c :: read))
  | escape q read, c =>
    if c == q || c == '\\' then some ([], literal q (c :: read))
    else some ([], literal q (c :: '\\' :: read))

end Pending

/-- The tokens of the text behind what is pending. -/
def scanFrom? : Pending → Text → Option (List Token)
  | pending, [] => pending.finish?
  | pending, c :: r => do
    let (tokens, pending) ← pending.feed? c
    let others ← scanFrom? pending r
    some (tokens ++ others)

/-- The tokens of a text; nothing if some part of it is no token, or if it has none. -/
def scan? (t : Text) : Option (List Token) :=
  (scanFrom? .none t).filter fun tokens => !tokens.isEmpty

end Token

end TapScript
