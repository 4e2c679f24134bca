import TapScript.Block
import TapScript.Text.WordChar

/-! # Phrases

A **phrase** is a piece of script text that closes the literals it opens and has no brace outside of
them. Phrases can be put next to each other without changing what stands inside literals, so braces
can be counted piece by piece.

* `Text.Quoting.behind` is where a scan stands behind a text, `Text.isClosed` says that it is back
  in code.
* `Text.marks_append` cuts the marks of a text behind a closed part.
* `Phrase` is a text with the two properties; `Phrase.trim_getLast?` says that its last visible
  character is no brace. -/

namespace TapScript

namespace Text

/-! ## Scanning -/

namespace Quoting

/-- Where a scan stands behind a text. -/
def behind (q : Quoting) (t : Text) : Quoting := t.foldl step q

/-- The marks of a text that is scanned from `q` on. -/
def scan : Quoting → Text → List Mark
  | _, [] => []
  | q, c :: r => ⟨c, q.isCode && !isQuote c⟩ :: scan (q.step c) r

/-- Literals are closed by one of the quotes that open them. -/
def IsProper : Quoting → Prop
  | code => True
  | literal q => isQuote q
  | escaped q => isQuote q

/-- Behind the empty text the scanner is where it was. -/
@[simp] theorem behind_nil (q : Quoting) : q.behind [] = q := rfl

/-- The scanner takes one step at each character. -/
@[simp] theorem behind_cons (q : Quoting) (c : Char) (r : Text) :
    q.behind (c :: r) = (q.step c).behind r := rfl

/-- Behind two texts, the scanner has gone through both. -/
theorem behind_append (q : Quoting) (s t : Text) : q.behind (s ++ t) = (q.behind s).behind t :=
  List.foldl_append

/-- Two texts are scanned one after the other. -/
theorem scan_append (q : Quoting) (s t : Text) :
    q.scan (s ++ t) = q.scan s ++ (q.behind s).scan t := by
  induction s generalizing q with
  | nil => rfl
  | cons c r ih => simp only [List.cons_append, scan, ih, behind_cons]

/-- A step leads from a proper state to a proper one. -/
theorem IsProper.step {q : Quoting} (h : q.IsProper) (c : Char) : (q.step c).IsProper := by
  cases q with
  | code =>
    by_cases hc : isQuote c
    · simp only [Quoting.step, hc, if_true, IsProper]
    · simp only [Quoting.step, hc, IsProper]
      trivial
  | literal q =>
    simp only [Quoting.step]
    split
    · exact h
    · split
      · trivial
      · exact h
  | escaped q => exact h

/-- Behind every text the state is proper. -/
theorem IsProper.behind {q : Quoting} (h : q.IsProper) (t : Text) : (q.behind t).IsProper := by
  induction t generalizing q with
  | nil => exact h
  | cons c r ih => exact ih (h.step c)

/-- A character that neither quotes nor escapes leads into code only from code. -/
theorem isCode_of_isCode_step {q : Quoting} {c : Char} (hq : q.IsProper) (hc : isQuote c = false)
    (h : (q.step c).isCode) : q.isCode := by
  cases q with
  | code => rfl
  | literal q =>
    -- only its own quote closes a literal, and `c` is none
    have hne : (c == q) = false := by
      cases hcq : c == q with
      | false => rfl
      | true =>
        rw [beq_iff_eq.1 hcq] at hc
        rw [IsProper, hc] at hq
        cases hq
    simp only [step, hne] at h
    split at h <;> cases h
  | escaped q => cases h

end Quoting

/-- Marking a text is scanning it from code, or from inside the literal with the given quote. -/
theorem marksFrom_eq_scan (q : Option Char) (t : Text) :
    marksFrom q t = (q.elim Quoting.code Quoting.literal).scan t := by
  fun_induction marksFrom q t with
  | case1 => rfl
  | case2 c r ih =>
    rw [ih]
    by_cases hc : isQuote c <;> simp [Quoting.scan, Quoting.step, hc]
  | case3 q c r ih =>
    rw [ih]
    simp [Quoting.scan, Quoting.step]
  | case4 q c r hesc ih =>
    -- a backslash that comes here is the last character
    by_cases hc : c = '\\'
    · subst hc
      cases r with
      | nil => rfl
      | cons d r => exact absurd rfl (fun h => hesc d r h rfl)
    · rw [ih]
      by_cases hq : c = q
      · subst hq
        simp [Quoting.scan, Quoting.step, hc]
      · simp [Quoting.scan, Quoting.step, hc, hq]

/-- The marks of a text are found by a scan that starts in code. -/
theorem marks_eq_scan (t : Text) : marks t = Quoting.code.scan t := marksFrom_eq_scan none t

/-- Every literal that the text opens is closed. -/
def isClosed (t : Text) : Bool := (Quoting.code.behind t).isCode

/-- No brace stands outside the literals of the text. -/
def isBraceless (t : Text) : Bool := (marks t).all fun m => !m.is '{' && !m.is '}'

/-- Behind a closed text there is code. -/
theorem behind_eq_code {t : Text} (h : isClosed t) : Quoting.code.behind t = .code := by
  unfold isClosed at h
  cases hq : Quoting.code.behind t with
  | code => rfl
  | literal q => rw [hq] at h; cases h
  | escaped q => rw [hq] at h; cases h

/-- The marks behind a closed text are those of a text on its own. -/
theorem marks_append {s : Text} (hs : isClosed s) (t : Text) :
    marks (s ++ t) = marks s ++ marks t := by
  simp only [marks_eq_scan, Quoting.scan_append, behind_eq_code hs]

/-- Two closed texts are closed together. -/
theorem isClosed_append {s t : Text} (hs : isClosed s) (ht : isClosed t) : isClosed (s ++ t) := by
  rw [isClosed, Quoting.behind_append, behind_eq_code hs]
  exact ht

/-- Two texts without braces have none together, if the first one is closed. -/
theorem isBraceless_append {s t : Text} (hs : isClosed s) (hs' : isBraceless s)
    (ht : isBraceless t) : isBraceless (s ++ t) := by
  rw [isBraceless, marks_append hs, List.all_append]
  exact Bool.and_eq_true_iff.2 ⟨hs', ht⟩

/-! ## Plain texts -/

/-- A text without quotes is all code. -/
theorem marks_of_forall_not_isQuote {t : Text} (h : ∀ c ∈ t, isQuote c = false) :
    isClosed t ∧ marks t = t.map fun c => ⟨c, true⟩ := by
  rw [isClosed, marks_eq_scan]
  induction t with
  | nil => exact ⟨rfl, rfl⟩
  | cons c r ih =>
    have hc : isQuote c = false := h c (by simp)
    have ⟨hbehind, hscan⟩ := ih fun d hd => h d (by simp [hd])
    simp only [Quoting.behind_cons, Quoting.scan, Quoting.step, hc]
    exact ⟨hbehind, by simp [hscan]⟩

/-- A text with neither quotes nor braces has no brace outside its literals. -/
theorem isBraceless_of_forall {t : Text} (hq : ∀ c ∈ t, isQuote c = false)
    (hb : ∀ c ∈ t, c ≠ '{' ∧ c ≠ '}') : isBraceless t := by
  rw [isBraceless, (marks_of_forall_not_isQuote hq).2, List.all_map, List.all_eq_true]
  intro c hc
  simp [Mark.is, hb c hc]

/-- No blank is a quote. -/
theorem isQuote_eq_false_of_isBlank {c : Char} (h : isBlank c) : isQuote c = false := by
  cases hq : isQuote c with
  | false => rfl
  | true =>
    simp only [isQuote, Bool.or_eq_true, beq_iff_eq] at hq
    rcases hq with rfl | rfl <;> exact absurd h (by decide)

/-- A blank is none of the other characters. -/
theorem ne_of_isBlank {c d : Char} (hc : isBlank c) (hd : isBlank d = false) : c ≠ d := by
  rintro rfl
  rw [hc] at hd
  cases hd

/-! ## Word characters -/

/-- The code points of the characters that a name starts with. -/
theorem isNameStart_iff {c : Char} :
    isNameStart c ↔ (0x41 ≤ c.toNat ∧ c.toNat ≤ 0x5A) ∨ (0x61 ≤ c.toNat ∧ c.toNat ≤ 0x7A) ∨
      c = '_' := by
  have hupper : c.isUpper ↔ 0x41 ≤ c.toNat ∧ c.toNat ≤ 0x5A := decide_eq_true_iff
  have hlower : c.isLower ↔ 0x61 ≤ c.toNat ∧ c.toNat ≤ 0x7A :=
    Bool.and_eq_true_iff.trans (and_congr decide_eq_true_iff decide_eq_true_iff)
  show ((c.isUpper || c.isLower) || c == '_') = true ↔ _
  rw [Bool.or_eq_true, Bool.or_eq_true, beq_iff_eq, hupper, hlower, or_assoc]

/-- The characters of names are those that begin one, and the digits. -/
theorem isNameChar_iff {c : Char} :
    isNameChar c ↔ isNameStart c ∨ (0x30 ≤ c.toNat ∧ c.toNat ≤ 0x39) := by
  have hdigit : c.isDigit ↔ 0x30 ≤ c.toNat ∧ c.toNat ≤ 0x39 :=
    Bool.and_eq_true_iff.trans (and_congr decide_eq_true_iff decide_eq_true_iff)
  show ((c.isAlpha || c.isDigit) || c == '_') = true ↔ (c.isAlpha || c == '_') = true ∨ _
  rw [Bool.or_eq_true, Bool.or_eq_true, Bool.or_eq_true, hdigit, or_right_comm]

/-- The characters of names are among the upper ones of ASCII. -/
theorem isNameChar_bounds {c : Char} (h : isNameChar c) : 0x30 ≤ c.toNat ∧ c.toNat < 0x80 := by
  rw [isNameChar_iff, isNameStart_iff] at h
  rcases h with (h | h | rfl) | h
  · omega
  · omega
  · decide
  · omega

/-- The characters of names are characters of words. -/
theorem isWordChar_of_isNameChar {c : Char} (h : isNameChar c) : isWordChar c := by
  rw [isWordChar, if_pos (isNameChar_bounds h).2]
  exact h

/-- What begins a name is a character of words. -/
theorem isWordChar_of_isNameStart {c : Char} (h : isNameStart c) : isWordChar c :=
  isWordChar_of_isNameChar (isNameChar_iff.2 (.inl h))

/-- No blank beyond ASCII lies in a range of word characters. -/
theorem wordRanges_any_eq_false : ∀ n ∈ [0x85, 0xA0, 0x1680, 0x2000, 0x2001, 0x2002, 0x2003, 0x2004,
    0x2005, 0x2006, 0x2007, 0x2008, 0x2009, 0x200A, 0x2028, 0x2029, 0x202F, 0x205F, 0x3000],
    (wordRanges.any fun (lo, hi) => lo ≤ n && n ≤ hi) = false := by
  decide +kernel

/-- No character of a word is a blank. -/
theorem isBlank_eq_false_of_isWordChar {c : Char} (h : isWordChar c) : isBlank c = false := by
  cases hb : isBlank c with
  | false => rfl
  | true =>
    simp only [isBlank, Bool.or_eq_true, Bool.and_eq_true, decide_eq_true_eq, beq_iff_eq] at hb
    -- the ASCII blanks lie below the digits, the others between the ranges of the table
    by_cases hascii : c.toNat < 0x80
    · rw [isWordChar, if_pos hascii] at h
      have hlow := (isNameChar_bounds h).1
      omega
    · rw [isWordChar, if_neg hascii, wordRanges_any_eq_false c.toNat (by simp; omega)] at h
      cases h

/-- A character that is no word character differs from every one that is. -/
theorem ne_of_isWordChar {c d : Char} (hc : isWordChar c) (hd : isWordChar d = false) : c ≠ d := by
  rintro rfl
  rw [hc] at hd
  cases hd

/-- No character of a word is a quote. -/
theorem isQuote_eq_false_of_isWordChar {c : Char} (h : isWordChar c) : isQuote c = false := by
  simp [isQuote, ne_of_isWordChar h (d := '"') rfl, ne_of_isWordChar h (d := '\'') rfl]

/-! ## Trimming -/

/-- A text is its trimmed form with blanks around it. -/
theorem exists_eq_trim (t : Text) : ∃ left right : Text,
    t = left ++ trim t ++ right ∧ (∀ c ∈ left, isBlank c) ∧ ∀ c ∈ right, isBlank c := by
  refine ⟨t.takeWhile isBlank, ((trimStart t).reverse.takeWhile isBlank).reverse, ?_, ?_, ?_⟩
  · -- the blanks at the end are those in front of the reversed text
    have hend : trimStart t =
        trim t ++ ((trimStart t).reverse.takeWhile isBlank).reverse := by
      have h := congrArg List.reverse
        (List.takeWhile_append_dropWhile (p := isBlank) (l := (trimStart t).reverse))
      rw [List.reverse_append, List.reverse_reverse] at h
      exact h.symm
    rw [List.append_assoc, ← hend]
    exact List.takeWhile_append_dropWhile.symm
  · exact fun c hc => List.all_eq_true.1 List.all_takeWhile c hc
  · intro c hc
    exact List.all_eq_true.1 List.all_takeWhile c (List.mem_reverse.1 hc)

/-- A text that neither starts nor ends with a blank is trimmed. -/
theorem trim_eq_self {t : Text} (hhead : ∀ c, t.head? = some c → isBlank c = false)
    (hlast : ∀ c, t.getLast? = some c → isBlank c = false) : trim t = t := by
  have hstart : trimStart t = t := by
    cases t with
    | nil => rfl
    | cons c r => rw [trimStart, List.dropWhile_cons_of_neg (by simp [hhead c rfl])]
  rw [trim, hstart, trimEnd]
  cases hr : t.reverse with
  | nil => simpa using hr.symm
  | cons c r =>
    have hc : isBlank c = false := hlast c (by rw [List.getLast?_eq_head?_reverse, hr]; rfl)
    rw [List.dropWhile_cons_of_neg (by simp [hc]), ← hr, List.reverse_reverse]

/-- If only blanks follow a brace, and the literals are closed at the end, then the brace stands in
code. -/
theorem isBraceless_eq_false {u b : Text} (hb : ∀ c ∈ b, isBlank c)
    (hc : isClosed (u ++ '{' :: b)) : isBraceless (u ++ '{' :: b) = false := by
  have hu : Quoting.IsProper (Quoting.code.behind u) :=
    Quoting.IsProper.behind (q := .code) trivial u
  have hbrace : ((Quoting.code.behind u).step '{').isCode := by
    have hcode : (((Quoting.code.behind u).step '{').behind b).isCode := by
      rw [isClosed, Quoting.behind_append] at hc
      exact hc
    clear hc
    -- going back over the blanks, the scan was in code before each of them
    generalize hq : (Quoting.code.behind u).step '{' = q at hcode ⊢
    have hproper : q.IsProper := hq ▸ hu.step '{'
    clear hq
    induction b generalizing q with
    | nil => exact hcode
    | cons c r ih =>
      have hblank : isBlank c := hb c (by simp)
      have hstep := ih (fun d hd => hb d (by simp [hd])) (q.step c) hcode (hproper.step c)
      exact Quoting.isCode_of_isCode_step hproper (isQuote_eq_false_of_isBlank hblank) hstep
  have hcode : (Quoting.code.behind u).isCode := Quoting.isCode_of_isCode_step hu rfl hbrace
  rw [isBraceless, marks_eq_scan, Quoting.scan_append, List.all_append, Bool.and_eq_false_iff]
  right
  simp [Quoting.scan, hcode, Mark.is, isQuote]

end Text

/-- A text that closes its literals and has no brace outside of them. -/
structure Phrase where
  text : Text
  closed : Text.isClosed text
  braceless : Text.isBraceless text

namespace Phrase

/-- No phrase ends with a brace and blanks. -/
theorem text_ne (p : Phrase) (u : Text) {b : Text} (hb : ∀ c ∈ b, Text.isBlank c) :
    p.text ≠ u ++ '{' :: b := by
  intro hp
  have hclosed := p.closed
  have hbraceless := p.braceless
  rw [hp] at hclosed hbraceless
  rw [Text.isBraceless_eq_false hb hclosed] at hbraceless
  cases hbraceless

/-- The last visible character of a phrase is no brace. -/
theorem trim_getLast? (p : Phrase) : (Text.trim p.text).getLast? ≠ some '{' := by
  intro h
  obtain ⟨left, right, htext, -, hright⟩ := Text.exists_eq_trim p.text
  obtain ⟨u, hu⟩ := List.getLast?_eq_some_iff.1 h
  refine p.text_ne (left ++ u) hright ?_
  rw [hu] at htext
  simpa using htext

/-- No phrase ends with an opening brace. -/
theorem getLast? (p : Phrase) : p.text.getLast? ≠ some '{' := by
  intro h
  obtain ⟨u, hu⟩ := List.getLast?_eq_some_iff.1 h
  exact p.text_ne u (fun _ hc => absurd hc List.not_mem_nil) hu

end Phrase

/-! ## Counting braces -/

namespace Block

/-- The balance of two parts is the sum of both. -/
theorem balance_append (ms₁ ms₂ : List Text.Mark) :
    balance (ms₁ ++ ms₂) = balance ms₁ + balance ms₂ := by
  induction ms₁ with
  | nil => exact (Int.zero_add _).symm
  | cons m ms₁ ih => rw [List.cons_append, balance, ih, balance, Int.add_assoc]

/-- What two texts open and close is the sum of both, if the first one is closed. -/
theorem delta_append {s : Text} (hs : Text.isClosed s) (t : Text) :
    delta (s ++ t) = delta s + delta t := by
  rw [delta, Text.marks_append hs, balance_append, delta, delta]

/-- Without braces nothing is opened or closed. -/
theorem balance_eq_zero {ms : List Text.Mark} (h : ∀ m ∈ ms, (!m.is '{' && !m.is '}') = true) :
    balance ms = 0 := by
  induction ms with
  | nil => rfl
  | cons m ms ih =>
    have hm := h m (by simp)
    simp only [Bool.and_eq_true, Bool.not_eq_true'] at hm
    rw [balance, ih fun m' hm' => h m' (by simp [hm'])]
    simp [weight, hm]

/-- A phrase neither opens nor closes a block. -/
theorem delta_phrase (p : Phrase) : delta p.text = 0 :=
  balance_eq_zero (List.all_eq_true.1 p.braceless)

end Block

end TapScript
