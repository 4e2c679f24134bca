import TapScript.Text.Blank

/-!
# String literals

A literal stands between two double or two single quotes. Inside it a backslash takes the next
character with it: before the literal's own quote or another backslash it is dropped on reading, in
front of any other character both are kept.

* `encode` writes a text as a double-quoted literal, `decode?` reads a literal of either kind.
* `Quoting` follows a text character by character and tells code from literal.
-/

namespace TapScript

namespace Text

/-- The two characters that open and close literals. -/
def isQuote (c : Char) : Bool := c == '"' || c == '\''

namespace Literal

/-- The text with a backslash in front of each double quote and backslash. -/
def escape : Text → Text
  | [] => []
  | c :: r => if c == '"' || c == '\\' then '\\' :: c :: escape r else c :: escape r

/-- The text as a double-quoted literal. -/
def encode (t : Text) : Text := '"' :: (escape t ++ ['"'])

/-- The contents of a literal quoted by `quote` with their escapes resolved. -/
def unescape (quote : Char) : Text → Text
  | [] => []
  | '\\' :: c :: r =>
    if c == quote || c == '\\' then c :: unescape quote r else '\\' :: c :: unescape quote r
  | c :: r => c :: unescape quote r

/-- The raw contents of a literal whose opening quote has been read, if its closing quote is the
last character of the text. -/
def body? (quote : Char) : Text → Option Text
  | [] => none
  | '\\' :: c :: r => (body? quote r).map ('\\' :: c :: ·)
  | c :: r =>
    if c == quote then (if r.isEmpty then some [] else none) else (body? quote r).map (c :: ·)

/-- The contents of the literal that the text is, blanks around it apart; nothing if the text is
not exactly one literal. -/
def decode? (t : Text) : Option Text :=
  match trim t with
  | [] => none
  | quote :: r => if isQuote quote then (body? quote r).map (unescape quote) else none

/-- There is nothing to escape in the empty text. -/
@[simp] theorem escape_nil : escape [] = [] := rfl

/-- There is nothing to unescape in the empty text. -/
@[simp] theorem unescape_nil (quote : Char) : unescape quote [] = [] := rfl

/-- The empty text has no closing quote, so it is no rest of a literal. -/
@[simp] theorem body?_nil (quote : Char) : body? quote [] = none := rfl

/-- Resolving escapes undoes escaping. -/
@[simp] theorem unescape_escape (t : Text) : unescape '"' (escape t) = t := by
  induction t with
  | nil => rfl
  | cons c r ih =>
    by_cases h : c = '"'
    · subst h; simp [escape, unescape, ih]
    · by_cases h' : c = '\\'
      · subst h'; simp [escape, unescape, ih]
      · have hne : escape (c :: r) = c :: escape r := by simp [escape, h, h']
        rw [hne, unescape.eq_3 _ _ _ (by rintro d s rfl; exact absurd rfl h'), ih]

end Literal

/-- Where a scan stands with respect to literals: in code, inside a literal, or inside a literal
right behind a backslash. -/
inductive Quoting where
  | code
  | literal (quote : Char)
  | escaped (quote : Char)
deriving DecidableEq, Repr

namespace Quoting

/-- Where the scan stands after one more character. -/
def step : Quoting → Char → Quoting
  | code, c => if isQuote c then literal c else code
  | literal q, c => if c == '\\' then escaped q else if c == q then code else literal q
  | escaped q, _ => literal q

/-- Whether the scan stands in code. -/
def isCode : Quoting → Bool
  | code => true
  | _ => false

/-- Outside of all literals there is code. -/
@[simp] theorem isCode_code : isCode code = true := rfl

/-- Inside a literal there is no code. -/
@[simp] theorem isCode_literal (q : Char) : isCode (literal q) = false := rfl

/-- Behind a backslash of a literal there is no code. -/
@[simp] theorem isCode_escaped (q : Char) : isCode (escaped q) = false := rfl

/-- Whatever follows a backslash, the literal goes on behind it. -/
@[simp] theorem step_escaped (q c : Char) : step (escaped q) c = literal q := rfl

end Quoting

end Text

end TapScript
