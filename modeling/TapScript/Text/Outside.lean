import TapScript.Text.Literal

/-!
# Scanning outside literals

Braces, commas, operators and comment marks have a meaning only outside string literals. `marks`
labels each character of a text with whether it stands there, and the searches and splits of this
module work on the labelled text.

* `find?` cuts a text at the first occurrence of a pattern outside literals.
* `split` cuts it at every occurrence outside literals and parentheses.
* `closing?` reads up to the parenthesis that closes an open one.
-/

namespace TapScript

namespace Text

/-- A character of a text, and whether it stands outside the text's literals. The quotes of a
literal belong to it. -/
structure Mark where
  char : Char
  outside : Bool
deriving DecidableEq, Repr

/-- The marks of a text that is read from code, or from inside a literal with the given quote. A
literal left open reaches to the end. -/
def marksFrom : Option Char → Text → List Mark
  | _, [] => []
  | none, c :: r => ⟨c, !isQuote c⟩ :: marksFrom (if isQuote c then some c else none) r
  | some q, '\\' :: c :: r => ⟨'\\', false⟩ :: ⟨c, false⟩ :: marksFrom (some q) r
  | some q, c :: r => ⟨c, false⟩ :: marksFrom (if c == q then none else some q) r

/-- Every character of the text with its mark. -/
def marks (t : Text) : List Mark := marksFrom none t

/-- The text under the marks. -/
def chars (ms : List Mark) : Text := ms.map Mark.char

/-- The characters of the text outside its literals. -/
def code (t : Text) : Text := chars ((marks t).filter Mark.outside)

namespace Mark

/-- Whether the mark is the given character, outside literals. -/
def is (m : Mark) (c : Char) : Bool := m.outside && m.char == c

/-- Whether the marked text starts with the pattern. -/
def startWith : (pattern : Text) → List Mark → Bool
  | [], _ => true
  | _ :: _, [] => false
  | p :: ps, m :: ms => p == m.char && startWith ps ms

/-- The depth of parentheses behind a character that is read at depth `depth`. -/
def depthAfter (m : Mark) (depth : Int) : Int :=
  if m.is '(' then depth + 1 else if m.is ')' then depth - 1 else depth

/-- The marked text before and behind the first occurrence of the pattern outside literals. -/
def find? (pattern : Text) : List Mark → Option (Text × Text)
  | [] => none
  | m :: ms =>
    if m.outside && startWith pattern (m :: ms) then
      some ([], chars ((m :: ms).drop pattern.length))
    else (find? pattern ms).map fun (before, behind) => (m.char :: before, behind)

/-- The parts between the occurrences of the pattern outside literals at depth zero, as the first
part and the others. The first `skip` characters belong to an occurrence already found. -/
def split (pattern : Text) : (skip : Nat) → (depth : Int) → List Mark → Text × List Text
  | _, _, [] => ([], [])
  | skip + 1, depth, m :: ms => split pattern skip (m.depthAfter depth) ms
  | 0, depth, m :: ms =>
    let inner := m.depthAfter depth
    if m.outside && inner == 0 && startWith pattern (m :: ms) then
      let (first, others) := split pattern (pattern.length - 1) inner ms
      ([], first :: others)
    else
      let (first, others) := split pattern 0 inner ms
      (m.char :: first, others)

/-- Behind an opening parenthesis with `extra` more open around it: the text up to the parenthesis
that closes the outermost, and the text behind that one. -/
def closing? : (extra : Nat) → List Mark → Option (Text × Text)
  | _, [] => none
  | extra, m :: ms =>
    if m.is '(' then (closing? (extra + 1) ms).map fun (inner, rest) => (m.char :: inner, rest)
    else if m.is ')' then
      match extra with
      | 0 => some ([], chars ms)
      | k + 1 => (closing? k ms).map fun (inner, rest) => (m.char :: inner, rest)
    else (closing? extra ms).map fun (inner, rest) => (m.char :: inner, rest)

end Mark

/-- The text before and behind the first occurrence of the pattern outside literals. -/
def find? (pattern t : Text) : Option (Text × Text) := Mark.find? pattern (marks t)

/-- The parts of the text between the occurrences of the pattern outside literals and parentheses.
There is always a first part. -/
def split (pattern t : Text) : List Text :=
  let (first, others) := Mark.split pattern 0 0 (marks t)
  first :: others

/-- What stands inside the parentheses, if the text is one parenthesis from its first to its last
character. -/
def unwrap? (t : Text) : Option Text :=
  match t with
  | '(' :: r =>
    match Mark.closing? 0 (marks r) with
    | some (inner, []) => some inner
    | _ => none
  | _ => none

/-- The parts of a comma list, trimmed; a blank list has none. -/
def arguments (t : Text) : List Text :=
  if (trim t).isEmpty then [] else (split [','] t).map trim

/-- A call: a name and the raw text between its parentheses. -/
structure Call where
  name : Text
  args : Text
deriving DecidableEq, Repr

/-- The call that the text is, blanks around it apart. The parenthesis that closes the call is its
last character. -/
def call? (t : Text) : Option Call :=
  let t := trim t
  let name := trim (t.takeWhile (· != '('))
  if isName name then
    (unwrap? (t.dropWhile (· != '('))).map fun args => ⟨name, args⟩
  else none

/-- The empty text has no marks. -/
@[simp] theorem marks_nil : marks [] = [] := rfl

/-- Without marks there are no characters. -/
@[simp] theorem chars_nil : chars [] = [] := rfl

/-- The characters of marks are read one by one. -/
@[simp] theorem chars_cons (m : Mark) (ms : List Mark) : chars (m :: ms) = m.char :: chars ms := rfl

/-- Marking a text keeps its characters. -/
@[simp] theorem chars_marksFrom (q : Option Char) (t : Text) : chars (marksFrom q t) = t := by
  fun_induction marksFrom q t <;> simp_all

/-- Marking a text keeps its characters. -/
@[simp] theorem chars_marks (t : Text) : chars (marks t) = t := chars_marksFrom none t

/-- The empty text has one part, which is empty. -/
@[simp] theorem split_nil (pattern : Text) : split pattern [] = [[]] := rfl

end Text

end TapScript
