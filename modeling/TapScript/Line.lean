import TapScript.Text.Outside

/-!
# Script lines

A script is run line by line. Its source is brought into a form in which each `{` ends the line of
its header, each `}` is a line of its own, and `;` separates statements no more. Every line keeps
the number of the source line it comes from.

* `Line.ofSource` gives the lines of a source text.
* `Line.pieces` cuts one source line at its braces and semicolons, `Line.push` adds a piece to the
  lines so far.
-/

namespace TapScript

/-- A statement, a block header or a closing brace, with the number of its source line. -/
structure Line where
  number : Nat
  text : Text
deriving DecidableEq, Repr

namespace Line

/-- The line without a carriage return at its end. -/
def dropReturn (t : Text) : Text := (Text.before? ['\r'] t).getD t

/-- The source lines behind a first one. Each but the last was ended by a line feed, in front of
which a carriage return may stand; an empty last line is no line. -/
def ended : Text → List Text → List Text
  | last, [] => if last.isEmpty then [] else [last]
  | first, next :: others => dropReturn first :: ended next others

/-- The lines of a source text. -/
def sourceLines (source : Text) : List Text :=
  let (first, others) := Text.fields '\n' source
  ended first others

/-- The source line without its comment, which `//` outside literals begins. -/
def withoutComment (t : Text) : Text :=
  match Text.find? ['/', '/'] t with
  | some (code, _) => code
  | none => t

/-- The pieces into which braces and semicolons outside literals cut a text, as the first piece and
the others. A `{` ends its piece, a `}` is a piece, a `;` is in none. -/
def pieces : Text.Quoting → Text → Text × List Text
  | _, [] => ([], [])
  | q, c :: r =>
    let (first, others) := pieces (q.step c) r
    if q.isCode && c == '{' then (['{'], first :: others)
    else if q.isCode && c == '}' then ([], ['}'] :: first :: others)
    else if q.isCode && c == ';' then ([], first :: others)
    else (c :: first, others)

/-- The text of a line that closes a block. -/
def closer : Text := ['}']

/-- Whether a `{` that stands alone can belong to this line: it opens and closes no block yet. -/
def takesBrace (line : Line) : Bool := line.text != closer && line.text.getLast? != some '{'

/-- The lines with one more piece, newest line first. Blank pieces are dropped, and a `{` alone
opens the block of the line before it. -/
def push (lines : List Line) (number : Nat) (piece : Text) : List Line :=
  let text := Text.trim piece
  if text.isEmpty then lines
  else
    match lines with
    | previous :: rest =>
      if text == ['{'] && previous.takesBrace then
        { previous with text := previous.text ++ [' ', '{'] } :: rest
      else ⟨number, text⟩ :: lines
    | [] => [⟨number, text⟩]

/-- The lines with the pieces of one source line, newest line first. -/
def pushSource (lines : List Line) (number : Nat) (raw : Text) : List Line :=
  let (first, others) := pieces .code (withoutComment raw)
  (first :: others).foldl (fun lines piece => push lines number piece) lines

/-- The lines of a source text, numbered from `number` on and added to `lines`, newest first. -/
def addSource (lines : List Line) : (number : Nat) → List Text → List Line
  | _, [] => lines
  | number, raw :: rest => addSource (pushSource lines number raw) (number + 1) rest

/-- The lines of a script. -/
def ofSource (source : Text) : List Line := (addSource [] 1 (sourceLines source)).reverse

/-- No piece is cut from the empty text. -/
@[simp] theorem pieces_nil (q : Text.Quoting) : pieces q [] = ([], []) := by cases q <;> rfl

/-- The empty source has no lines. -/
@[simp] theorem ofSource_nil : ofSource [] = [] := rfl

end Line

end TapScript
