/-!
# Blank characters and trimming

A `Text` is a list of characters, the form in which scripts are scanned throughout the library.
This module fixes which characters count as blank and removes them from the two ends of a text.

* `isBlank` is the white-space property of the Unicode standard, twenty-five code points.
* `trimStart`, `trimEnd` and `trim` remove blanks from the ends and touch nothing between them.
-/

namespace TapScript

/-- A piece of script text. -/
abbrev Text := List Char

namespace Text

/-- White space as the Unicode standard lists it. -/
def isBlank (c : Char) : Bool :=
  let n := c.toNat
  (0x09 ≤ n && n ≤ 0x0D) || n == 0x20 || n == 0x85 || n == 0xA0 || n == 0x1680
    || (0x2000 ≤ n && n ≤ 0x200A) || n == 0x2028 || n == 0x2029 || n == 0x202F
    || n == 0x205F || n == 0x3000

/-- The text without its leading blanks. -/
def trimStart (t : Text) : Text := t.dropWhile isBlank

/-- The text without its trailing blanks. -/
def trimEnd (t : Text) : Text := (t.reverse.dropWhile isBlank).reverse

/-- The text without blanks at either end. -/
def trim (t : Text) : Text := trimEnd (trimStart t)

/-- A letter, a digit or an underscore of the ASCII range: what names are made of. -/
def isNameChar (c : Char) : Bool := c.isAlphanum || c == '_'

/-- An ASCII letter or an underscore: what a name starts with. -/
def isNameStart (c : Char) : Bool := c.isAlpha || c == '_'

/-- Whether the text is a name: a letter or underscore, then letters, digits and underscores. -/
def isName : Text → Bool
  | [] => false
  | c :: r => isNameStart c && r.all isNameChar

/-- What follows `head` in the text, if the text starts with it. -/
def after? : (head : Text) → Text → Option Text
  | [], t => some t
  | _ :: _, [] => none
  | h :: hs, c :: r => if h = c then after? hs r else none

/-- What precedes `tail` in the text, if the text ends with it. -/
def before? (tail t : Text) : Option Text := (after? tail.reverse t.reverse).map List.reverse

/-- Whether `part` occurs somewhere in the text. -/
def contains (part : Text) : Text → Bool
  | [] => part.isEmpty
  | c :: r => part.isPrefixOf (c :: r) || contains part r

/-- The parts of the text between the separators, as the first part and the others. -/
def fields (separator : Char) : Text → Text × List Text
  | [] => ([], [])
  | c :: r =>
    let (first, others) := fields separator r
    if c == separator then ([], first :: others) else (c :: first, others)

/-- Both texts read the same when upper-case ASCII letters are written small. -/
def eqIgnoringCase (s t : Text) : Bool := s.map Char.toLower == t.map Char.toLower

/-- The empty text has no blanks in front. -/
@[simp] theorem trimStart_nil : trimStart [] = [] := rfl

/-- The empty text has no blanks at its end. -/
@[simp] theorem trimEnd_nil : trimEnd [] = [] := rfl

/-- There is nothing to trim in the empty text. -/
@[simp] theorem trim_nil : trim [] = [] := rfl

/-- Every text starts with the empty one. -/
@[simp] theorem after?_nil (t : Text) : after? [] t = some t := by cases t <;> rfl

/-- Splitting a head off loses nothing. -/
theorem after?_eq_some {head t r : Text} : after? head t = some r ↔ t = head ++ r := by
  induction head generalizing t with
  | nil => simp [eq_comm]
  | cons h hs ih =>
    cases t with
    | nil => simp [after?]
    | cons c r' =>
      by_cases hc : h = c
      · simp [after?, hc, ih]
      · simp [after?, hc, Ne.symm hc]

/-- Splitting a tail off loses nothing. -/
theorem before?_eq_some {tail t r : Text} : before? tail t = some r ↔ t = r ++ tail := by
  simp only [before?, Option.map_eq_some_iff, after?_eq_some]
  constructor
  · rintro ⟨a, ha, rfl⟩
    have := congrArg List.reverse ha
    simpa using this
  · rintro rfl
    exact ⟨r.reverse, by simp, by simp⟩

/-- Dropping the blanks in front makes no text longer. -/
theorem trimStart_length_le (t : Text) : (trimStart t).length ≤ t.length := by
  simpa [trimStart] using (List.dropWhile_sublist isBlank (l := t)).length_le

/-- Dropping the blanks at the end makes no text longer. -/
theorem trimEnd_length_le (t : Text) : (trimEnd t).length ≤ t.length := by
  have := trimStart_length_le t.reverse
  simpa [trimStart, trimEnd] using this

/-- Trimming makes no text longer. -/
theorem trim_length_le (t : Text) : (trim t).length ≤ t.length :=
  Nat.le_trans (trimEnd_length_le _) (trimStart_length_le _)

end Text

end TapScript
