import TapScript.Expression.Token
import TapScript.Proofs.Phrase

/-! # Scanning written tokens

The scanner of expressions takes a text apart character by character. Read against what was written,
it gives the tokens back one by one: a blank none, a sign or a literal one whatever follows, a
number or a name one if nothing follows that could belong to it.

* `Text.Literal.Contents` says what the characters between the quotes of a literal stand for;
  `Text.Literal.Contents.marks_literal` marks such a literal.
* `Token.scanFrom?_sign`, `Token.scanFrom?_contents`, `Token.scanFrom?_numeral` and
  `Token.scanFrom?_name` take one token off the front of a text. -/

namespace TapScript

/-- A number as it is written in an expression: digits and points that spell it. -/
structure Numeral where
  digits : Text
  value : Float
  plain : ∀ c ∈ digits, Token.Pending.isNumberChar c
  reads : Number.read? digits = some value

/-- A name as it is written in an expression. -/
structure Identifier where
  text : Text
  isName : Text.isName text

/-! ## The contents of literals -/

/-- No quote is a backslash. -/
theorem Text.ne_backslash_of_isQuote {c : Char} (h : isQuote c) : c ≠ '\\' := by
  rintro rfl
  cases h

namespace Text.Literal

/-- What the characters between two quotes stand for. A backslash takes the next character with it,
and it is dropped in front of the quote and of another backslash. -/
inductive Contents (quote : Char) : (raw read : Text) → Prop
  | nil : Contents quote [] []
  | plain {c : Char} {raw read : Text} (hquote : c ≠ quote) (hescape : c ≠ '\\')
      (h : Contents quote raw read) : Contents quote (c :: raw) (c :: read)
  | dropped {c : Char} {raw read : Text} (hc : c = quote ∨ c = '\\') (h : Contents quote raw read) :
      Contents quote ('\\' :: c :: raw) (c :: read)
  | kept {c : Char} {raw read : Text} (hquote : c ≠ quote) (hescape : c ≠ '\\')
      (h : Contents quote raw read) : Contents quote ('\\' :: c :: raw) ('\\' :: c :: read)

/-- What is written for a text stands for it. -/
theorem contents_escape (t : Text) : Contents '"' (escape t) t := by
  induction t with
  | nil => exact .nil
  | cons c t ih =>
    by_cases hc : c = '"' ∨ c = '\\'
    · rw [escape, if_pos (by simpa using hc)]
      exact .dropped hc ih
    · rw [escape, if_neg (by simpa using hc)]
      exact .plain (not_or.1 hc).1 (not_or.1 hc).2 ih

end Text.Literal

namespace Text

namespace Quoting

/-- In a literal, a backslash and the character behind it leave the scan where it is. -/
theorem scan_backslash (quote c : Char) (t : Text) :
    (literal quote).behind ('\\' :: c :: t) = (literal quote).behind t ∧
      (literal quote).scan ('\\' :: c :: t) =
        ⟨'\\', false⟩ :: ⟨c, false⟩ :: (literal quote).scan t := ⟨rfl, rfl⟩

/-- The contents of a literal keep the scan inside of it. -/
theorem scan_contents {quote : Char} {raw read : Text} (h : Literal.Contents quote raw read) :
    (literal quote).behind raw = .literal quote ∧
      (literal quote).scan raw = raw.map fun c => ⟨c, false⟩ := by
  induction h with
  | nil => exact ⟨rfl, rfl⟩
  | @plain c raw read hquote hescape h ih =>
    have hstep : (literal quote).step c = .literal quote := by
      rw [step, if_neg (by simpa using hescape), if_neg (by simpa using hquote)]
    rw [behind_cons, scan, hstep, ih.1, ih.2]
    exact ⟨rfl, rfl⟩
  | @dropped c raw read hc h ih =>
    obtain ⟨hbehind, hscan⟩ := scan_backslash quote c raw
    rw [hbehind, hscan, ih.1, ih.2]
    exact ⟨rfl, rfl⟩
  | @kept c raw read hquote hescape h ih =>
    obtain ⟨hbehind, hscan⟩ := scan_backslash quote c raw
    rw [hbehind, hscan, ih.1, ih.2]
    exact ⟨rfl, rfl⟩

end Quoting

/-- A literal is closed by its own quote, and no character of it stands outside. -/
theorem Literal.Contents.marks_literal {quote : Char} (hquote : isQuote quote) {raw read : Text}
    (h : Contents quote raw read) :
    isClosed (quote :: (raw ++ [quote])) ∧
      marks (quote :: (raw ++ [quote])) = (quote :: (raw ++ [quote])).map fun c => ⟨c, false⟩ := by
  have hopen : Quoting.code.step quote = .literal quote := by rw [Quoting.step, if_pos hquote]
  have hclose : (Quoting.literal quote).step quote = .code := by
    rw [Quoting.step, if_neg (by simpa using ne_backslash_of_isQuote hquote),
      if_pos (beq_self_eq_true _)]
  obtain ⟨hbehind, hscan⟩ := Quoting.scan_contents h
  constructor
  · rw [isClosed, Quoting.behind_cons, hopen, Quoting.behind_append, hbehind,
      Quoting.behind_cons, hclose]
    rfl
  · rw [marks_eq_scan, Quoting.scan, hopen, Quoting.scan_append, hbehind, hscan]
    simp [Quoting.scan, hquote]

end Text

namespace Token

/-! ## Kinds of characters -/

/-- Neither a number nor a name goes on with the text. -/
def Breaks (rest : Text) : Prop :=
  ∀ c ∈ rest.head?, Text.isNameChar c = false ∧ Pending.isNumberChar c = false

/-- Nothing goes on at the end of the text. -/
theorem breaks_nil : Breaks [] := fun _ hc => nomatch hc

/-- Numbers and names end at a character that belongs to neither. -/
theorem breaks_cons {c : Char} (hname : Text.isNameChar c = false)
    (hnumber : Pending.isNumberChar c = false) (rest : Text) : Breaks (c :: rest) := by
  intro d hd
  cases hd
  exact ⟨hname, hnumber⟩

/-- Numbers are written with digits and points. -/
theorem isWordChar_of_isNumberChar {c : Char} (h : Pending.isNumberChar c) :
    Text.isWordChar c ∨ c = '.' := by
  simp only [Pending.isNumberChar, Bool.or_eq_true, beq_iff_eq] at h
  rcases h with hdigit | rfl
  · left
    have hname : Text.isNameChar c := by
      simp only [Text.isNameChar, Char.isAlphanum, hdigit, Bool.or_true, Bool.true_or]
    have hascii : c.toNat < 0x80 := by
      simp only [Char.isDigit, Bool.and_eq_true, decide_eq_true_eq] at hdigit
      exact Nat.lt_of_le_of_lt hdigit.2 (by decide)
    rw [Text.isWordChar, if_pos hascii]
    exact hname
  · exact .inr rfl

/-- What begins a name belongs to no number. -/
theorem isNumberChar_eq_false_of_isNameStart {c : Char} (h : Text.isNameStart c) :
    Pending.isNumberChar c = false := by
  cases hc : Pending.isNumberChar c with
  | false => rfl
  | true =>
    simp only [Pending.isNumberChar, Char.isDigit, Bool.or_eq_true, Bool.and_eq_true,
      decide_eq_true_eq, beq_iff_eq] at hc
    -- letters lie behind the digits
    rcases hc with ⟨-, hdigit⟩ | rfl
    · have hdigit : c.toNat ≤ 0x39 := hdigit
      rcases Text.isNameStart_iff.1 h with hle | hle | rfl
      · omega
      · omega
      · exact absurd hdigit (by decide)
    · exact absurd h (by decide)

/-! ## Starting a token -/

/-- A blank begins nothing. -/
theorem start?_blank {c : Char} (h : Text.isBlank c) : Pending.start? c = some ([], .none) := by
  rw [Pending.start?, if_pos h]

/-- A quote begins a literal. -/
theorem start?_quote {c : Char} (h : Text.isQuote c) :
    Pending.start? c = some ([], .literal c []) := by
  have hblank : Text.isBlank c = false := by
    cases hb : Text.isBlank c with
    | false => rfl
    | true =>
      rw [Text.isQuote_eq_false_of_isBlank hb] at h
      cases h
  rw [Pending.start?, if_neg (by simp [hblank]), if_pos h]

/-- A digit or a point begins a number. -/
theorem start?_number {c : Char} (h : Pending.isNumberChar c) :
    Pending.start? c = some ([], .number [c]) := by
  have hplain : Text.isBlank c = false ∧ Text.isQuote c = false := by
    rcases isWordChar_of_isNumberChar h with hword | rfl
    · exact ⟨Text.isBlank_eq_false_of_isWordChar hword, Text.isQuote_eq_false_of_isWordChar hword⟩
    · exact ⟨rfl, rfl⟩
  rw [Pending.start?, if_neg (by simp [hplain.1]), if_neg (by simp [hplain.2]), if_pos h]

/-- A letter or an underscore begins a name. -/
theorem start?_name {c : Char} (h : Text.isNameStart c) :
    Pending.start? c = some ([], .name [c]) := by
  have hword := Text.isWordChar_of_isNameStart h
  rw [Pending.start?, if_neg (by simp [Text.isBlank_eq_false_of_isWordChar hword]),
    if_neg (by simp [Text.isQuote_eq_false_of_isWordChar hword]),
    if_neg (by simp [isNumberChar_eq_false_of_isNameStart h]), if_pos h]

/-- A sign is a token by itself. -/
theorem start?_sign {c : Char} (h : isSign c) : Pending.start? c = some ([.sign c], .none) := by
  have hmem : c ∈ "+-*/%()".toList := List.contains_iff_mem.1 h
  have hstart : ∀ d ∈ ['+', '-', '*', '/', '%', '(', ')'],
      Pending.start? d = some ([.sign d], .none) := by
    intro d hd
    simp only [List.mem_cons, List.not_mem_nil, or_false] at hd
    rcases hd with rfl | rfl | rfl | rfl | rfl | rfl | rfl <;> rfl
  exact hstart c hmem

/-! ## One token after the other -/

/-- Blanks between tokens are passed over. -/
theorem scanFrom?_blank {c : Char} (h : Text.isBlank c) (rest : Text) :
    scanFrom? .none (c :: rest) = scanFrom? .none rest := by
  rw [scanFrom?, Pending.feed?, start?_blank h]
  simp

/-- A sign is scanned as a token. -/
theorem scanFrom?_sign {c : Char} (h : isSign c) (rest : Text) :
    scanFrom? .none (c :: rest) = (scanFrom? .none rest).map (.sign c :: ·) := by
  rw [scanFrom?, Pending.feed?, start?_sign h]
  show (scanFrom? .none rest).bind (fun others => some ([.sign c] ++ others)) = _
  cases scanFrom? .none rest <;> rfl

/-- A backslash in a literal escapes what follows. -/
theorem scanFrom?_backslash {quote : Char} (hquote : Text.isQuote quote) (read rest : Text) :
    scanFrom? (.literal quote read) ('\\' :: rest) = scanFrom? (.escape quote read) rest := by
  have hne := (Text.ne_backslash_of_isQuote hquote).symm
  rw [scanFrom?, Pending.feed?, if_neg (by simpa using hne), if_pos (beq_self_eq_true _)]
  simp

/-- The contents of a literal up to the closing quote, by induction on what they stand for. -/
theorem scanFrom?_contents {quote : Char} (hquote : Text.isQuote quote) {raw t : Text}
    (h : Text.Literal.Contents quote raw t) (read rest : Text) :
    scanFrom? (.literal quote read) (raw ++ quote :: rest) =
      (scanFrom? .none rest).map (.literal (read.reverse ++ t) :: ·) := by
  induction h generalizing read with
  | nil =>
    rw [List.nil_append, scanFrom?, Pending.feed?, if_pos (beq_self_eq_true _), List.append_nil]
    show (scanFrom? .none rest).bind (fun others => some ([.literal read.reverse] ++ others)) = _
    cases scanFrom? .none rest <;> rfl
  | plain hc hescape h ih =>
    rw [List.cons_append, scanFrom?, Pending.feed?, if_neg (by simp [hc]),
      if_neg (by simp [hescape])]
    simp [ih]
  | dropped hc h ih =>
    rw [List.cons_append, List.cons_append, scanFrom?_backslash hquote, scanFrom?, Pending.feed?,
      if_pos (by simpa using hc)]
    simp [ih]
  | kept hc hescape h ih =>
    rw [List.cons_append, List.cons_append, scanFrom?_backslash hquote, scanFrom?, Pending.feed?,
      if_neg (by simp [hc, hescape])]
    simp [ih]

/-- Behind a quote, the contents of a literal are scanned. -/
theorem scanFrom?_quote {quote : Char} (hquote : Text.isQuote quote) (rest : Text) :
    scanFrom? .none (quote :: rest) = scanFrom? (.literal quote []) rest := by
  rw [scanFrom?, Pending.feed?, start?_quote hquote]
  simp

/-- The literal of a text is scanned as the text, whatever follows. -/
theorem scanFrom?_literal (t rest : Text) :
    scanFrom? .none (Text.Literal.encode t ++ rest) =
      (scanFrom? .none rest).map (.literal t :: ·) := by
  have hbody := scanFrom?_contents rfl (Text.Literal.contents_escape t) [] rest
  rw [Text.Literal.encode, List.cons_append, List.append_assoc, scanFrom?_quote rfl]
  exact hbody

/-- A pending name takes all that belongs to it. -/
theorem scanFrom?_name_body (read : Text) {t rest : Text} (ht : ∀ c ∈ t, Text.isNameChar c)
    (hrest : ∀ c ∈ rest.head?, Text.isNameChar c = false) :
    scanFrom? (.name read) (t ++ rest) =
      (scanFrom? .none rest).map (.name (read.reverse ++ t) :: ·) := by
  induction t generalizing read with
  | nil =>
    rw [List.nil_append, List.append_nil]
    cases rest with
    | nil => rfl
    | cons c rest =>
      have hc := hrest c rfl
      simp only [scanFrom?, Pending.feed?, hc]
      cases Pending.start? c with
      | none => rfl
      | some started =>
        simp [Option.map_eq_bind, Option.bind_assoc]
  | cons c t ih =>
    rw [List.cons_append, scanFrom?, Pending.feed?, if_pos (ht c (by simp))]
    simp [ih (c :: read) fun d hd => ht d (by simp [hd])]

/-- A name is scanned as a whole if no character of a name follows. -/
theorem scanFrom?_name (x : Identifier) {rest : Text}
    (hrest : ∀ c ∈ rest.head?, Text.isNameChar c = false) :
    scanFrom? .none (x.text ++ rest) = (scanFrom? .none rest).map (.name x.text :: ·) := by
  obtain ⟨text, hname⟩ := x
  cases text with
  | nil => cases hname
  | cons c t =>
    rw [Text.isName, Bool.and_eq_true, List.all_eq_true] at hname
    have hbody := scanFrom?_name_body [c] hname.2 hrest
    rw [List.cons_append, scanFrom?, Pending.feed?, start?_name hname.1]
    simpa using hbody

/-- A pending number takes all that belongs to it, and then it has to be a number. -/
theorem scanFrom?_number_body (read : Text) {t rest : Text} (ht : ∀ c ∈ t, Pending.isNumberChar c)
    (hrest : ∀ c ∈ rest.head?, Pending.isNumberChar c = false) :
    scanFrom? (.number read) (t ++ rest) =
      (Number.read? (read.reverse ++ t)).bind fun x =>
        (scanFrom? .none rest).map (.number x :: ·) := by
  induction t generalizing read with
  | nil =>
    rw [List.append_nil, List.nil_append]
    cases rest with
    | nil =>
      rw [scanFrom?, Pending.finish?, Option.map_eq_bind]
      rfl
    | cons c rest =>
      have hc := hrest c rfl
      simp only [scanFrom?, Pending.feed?, hc, Pending.finish?]
      cases Number.read? read.reverse with
      | none => rfl
      | some x =>
        cases Pending.start? c with
        | none => rfl
        | some started =>
          simp [Option.map_eq_bind, Option.bind_assoc]
  | cons c t ih =>
    rw [List.cons_append, scanFrom?, Pending.feed?, if_pos (ht c (by simp))]
    simp [ih (c :: read) fun d hd => ht d (by simp [hd])]

/-- A number is scanned as a whole if no character of a number follows. -/
theorem scanFrom?_numeral (n : Numeral) {rest : Text}
    (hrest : ∀ c ∈ rest.head?, Pending.isNumberChar c = false) :
    scanFrom? .none (n.digits ++ rest) = (scanFrom? .none rest).map (.number n.value :: ·) := by
  obtain ⟨digits, x, hplain, hreads⟩ := n
  cases digits with
  | nil => exact absurd hreads (by simp [Number.read?, Number.magnitude?, Number.word?])
  | cons c t =>
    have hbody := scanFrom?_number_body [c] (fun d hd => hplain d (List.mem_cons_of_mem _ hd)) hrest
    rw [List.cons_append, scanFrom?, Pending.feed?, start?_number (hplain c (by simp))]
    simpa [hreads] using hbody

end Token

end TapScript
