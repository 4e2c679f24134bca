import TapScript.Proofs.Nesting

/-! # Separating a text at its symbols

A text is searched for symbols such as `&&` and `==` outside its literals, and cut at them. Blanks
are part of no symbol, so a symbol that stands between blanks separates what is in front of it from
what is behind it.

* `Text.isSymbol` says what can be searched for.
* `Text.Occurs` and `Text.OccursAtTop` say where a symbol stands; `Text.find?_eq_none_iff` and
  `Text.split_eq_singleton` compare the searches with them.
* `Text.find?_link` and `Text.map_trim_split_link` say what two texts with a symbol between them are
  cut into. -/

namespace TapScript

namespace Text

/-! ## Runs of characters of one kind -/

/-- The longest beginning of the text with characters of one kind. -/
theorem exists_run (isKind : Char → Bool) (t : Text) :
    ∃ run rest, t = run ++ rest ∧ (∀ c ∈ run, isKind c) ∧ ∀ c ∈ rest.head?, isKind c = false := by
  refine ⟨t.takeWhile isKind, t.dropWhile isKind, List.takeWhile_append_dropWhile.symm, ?_, ?_⟩
  · exact fun c hc => List.all_eq_true.1 List.all_takeWhile c hc
  · intro c hc
    have hnot := List.head?_dropWhile_not isKind t
    rw [hc] at hnot
    simpa using hnot

/-- A run ends where the next character is of another kind. -/
theorem takeWhile_run {isKind : Char → Bool} {run rest : Text} (hrun : ∀ c ∈ run, isKind c)
    (hrest : ∀ c ∈ rest.head?, isKind c = false) : (run ++ rest).takeWhile isKind = run := by
  rw [List.takeWhile_append_of_pos hrun]
  cases rest with
  | nil => simp
  | cons c rest => simp [hrest c rfl]

/-! ## Trimming -/

/-- Only blanks are trimmed in front. -/
theorem exists_eq_trimStart (t : Text) : ∃ left, t = left ++ trimStart t ∧ ∀ c ∈ left, isBlank c :=
  ⟨t.takeWhile isBlank, List.takeWhile_append_dropWhile.symm,
    fun c hc => List.all_eq_true.1 List.all_takeWhile c hc⟩

/-- Only blanks are trimmed at the end. -/
theorem exists_eq_trimEnd (t : Text) :
    ∃ right, t = trimEnd t ++ right ∧ ∀ c ∈ right, isBlank c := by
  obtain ⟨left, hleft, hblank⟩ := exists_eq_trimStart t.reverse
  refine ⟨left.reverse, ?_, fun c hc => hblank c (List.mem_reverse.1 hc)⟩
  have h := congrArg List.reverse hleft
  rwa [List.reverse_reverse, List.reverse_append] at h

/-- Blanks in front do not matter to what is left behind them. -/
theorem trimStart_append_of_blank {b : Text} (hb : ∀ c ∈ b, isBlank c) (t : Text) :
    trimStart (b ++ t) = trimStart t :=
  List.dropWhile_append_of_pos hb

/-- Blanks at the end do not matter to what is left in front of them. -/
theorem trimEnd_append_of_blank {b : Text} (hb : ∀ c ∈ b, isBlank c) (t : Text) :
    trimEnd (t ++ b) = trimEnd t := by
  rw [trimEnd, List.reverse_append, List.dropWhile_append_of_pos fun c hc => hb c
    (List.mem_reverse.1 hc), trimEnd]

/-- Trimming the front ends in the first of two texts, if that is more than blanks. -/
theorem trimStart_append {s : Text} (hs : trimStart s ≠ []) (t : Text) :
    trimStart (s ++ t) = trimStart s ++ t := by
  rw [trimStart, List.dropWhile_append, if_neg (by simpa [trimStart] using hs)]
  rfl

/-- Trimming the end ends in the second of two texts, if that is more than blanks. -/
theorem trimEnd_append {t : Text} (ht : trimEnd t ≠ []) (s : Text) :
    trimEnd (s ++ t) = s ++ trimEnd t := by
  have hne : ¬(t.reverse.dropWhile isBlank).isEmpty := by
    simpa [trimEnd] using ht
  rw [trimEnd, List.reverse_append, List.dropWhile_append, if_neg hne, List.reverse_append,
    List.reverse_reverse, trimEnd]

/-- Trimming the end does not go beyond a character that is no blank. -/
theorem trimEnd_cons {c : Char} (hc : isBlank c = false) (t : Text) :
    trimEnd (c :: t) = c :: trimEnd t := by
  rw [trimEnd, List.reverse_cons, List.dropWhile_append, trimEnd]
  split
  · rename_i hempty
    rw [List.dropWhile_cons_of_neg (by simp [hc]), List.isEmpty_iff.1 hempty]
    rfl
  · rw [List.reverse_append]
    rfl

/-- A text that begins with something other than a blank is trimmed at its end only. -/
theorem trim_cons {c : Char} (hc : isBlank c = false) (t : Text) :
    trim (c :: t) = c :: trimEnd t := by
  rw [trim, trimStart, List.dropWhile_cons_of_neg (by simp [hc]), trimEnd_cons hc]

/-- Blanks in front of a text are trimmed away. -/
theorem trim_blank_append {b : Text} (hb : ∀ c ∈ b, isBlank c) (t : Text) :
    trim (b ++ t) = trim t := by
  rw [trim, trimStart_append_of_blank hb, trim]

/-- Blanks behind a text are trimmed away. -/
theorem trim_append_blank {b : Text} (hb : ∀ c ∈ b, isBlank c) (t : Text) :
    trim (t ++ b) = trim t := by
  by_cases ht : trimStart t = []
  · have hstart : trimStart (t ++ b) = trimStart b := by
      rw [trimStart, List.dropWhile_append, if_pos (by simpa [trimStart] using ht), trimStart]
    have hblank : trimStart b = [] := by
      have h := trimStart_append_of_blank hb []
      rwa [List.append_nil] at h
    rw [trim, trim, hstart, hblank, ht]
  · rw [trim, trimStart_append ht, trimEnd_append_of_blank hb, trim]

/-- Trimming the front first makes no difference. -/
theorem trim_trimStart (t : Text) : trim (trimStart t) = trim t := by
  obtain ⟨left, htext, hleft⟩ := exists_eq_trimStart t
  have h := trim_blank_append hleft (trimStart t)
  rw [← htext] at h
  exact h.symm

/-- Trimming the end first makes no difference. -/
theorem trim_trimEnd (t : Text) : trim (trimEnd t) = trim t := by
  obtain ⟨right, htext, hright⟩ := exists_eq_trimEnd t
  have h := trim_append_blank hright (trimEnd t)
  rw [← htext] at h
  exact h.symm

/-- Trimming a trimmed text changes nothing. -/
theorem trim_trim (t : Text) : trim (trim t) = trim t := by
  have h := trim_trimEnd (trimStart t)
  rwa [trim_trimStart] at h

/-- Nothing is left of a text by trimming exactly if it is all blanks. -/
theorem trim_eq_nil_iff {t : Text} : trim t = [] ↔ ∀ c ∈ t, isBlank c := by
  constructor
  · intro h c hc
    obtain ⟨left, right, htext, hleft, hright⟩ := exists_eq_trim t
    rw [h, List.append_nil] at htext
    rw [htext] at hc
    exact (List.mem_append.1 hc).elim (hleft c) (hright c)
  · intro h
    have hblank := trim_blank_append h []
    rwa [List.append_nil] at hblank

/-- What stands in parentheses has no blanks around it. -/
theorem trim_wrap (t : Text) : trim (wrap t) = wrap t := by
  refine trim_eq_self (fun c hc => ?_) fun c hc => ?_
  · cases hc
    rfl
  · rw [wrap, List.getLast?_concat] at hc
    cases hc
    rfl

/-- No blank is a parenthesis. -/
theorem ne_paren_of_isBlank {c : Char} (h : isBlank c) : c ≠ '(' ∧ c ≠ ')' :=
  ⟨ne_of_isBlank h rfl, ne_of_isBlank h rfl⟩

/-- Blanks are whole. -/
theorem isWhole_of_blank {b : Text} (hb : ∀ c ∈ b, isBlank c) : IsWhole b := by
  refine isWhole_of_isPlain (List.all_eq_true.2 fun c hc => ?_)
  simp [isQuote_eq_false_of_isBlank (hb c hc), ne_paren_of_isBlank (hb c hc)]

/-! ## Symbols -/

/-- A text that can be searched for: it has characters, and none of them is a blank, a quote or a
parenthesis. -/
def isSymbol (p : Text) : Bool :=
  !p.isEmpty && p.all fun c => !isBlank c && !isQuote c && c != '(' && c != ')'

section Symbol

variable {p : Text} (hp : isSymbol p)

include hp

/-- No symbol is empty. -/
theorem ne_nil_of_isSymbol : p ≠ [] := by
  rintro rfl
  cases hp

/-- A symbol has no blanks, quotes or parentheses. -/
theorem plain_of_isSymbol {c : Char} (hc : c ∈ p) :
    isBlank c = false ∧ isQuote c = false ∧ c ≠ '(' ∧ c ≠ ')' := by
  simp only [isSymbol, Bool.and_eq_true] at hp
  have hplain := List.all_eq_true.1 hp.2 c hc
  simp only [Bool.and_eq_true, Bool.not_eq_true', bne_iff_ne] at hplain
  exact ⟨hplain.1.1.1, hplain.1.1.2, hplain.1.2, hplain.2⟩

/-- There are no blanks in a symbol. -/
theorem not_mem_of_isBlank {c : Char} (hc : isBlank c) : c ∉ p := by
  intro hmem
  rw [(plain_of_isSymbol hp hmem).1] at hc
  cases hc

/-- A symbol is plain. -/
theorem isPlain_of_isSymbol : isPlain p := by
  refine List.all_eq_true.2 fun c hc => ?_
  have hplain := plain_of_isSymbol hp hc
  simp [hplain]

/-- All of a symbol stands outside literals. -/
theorem marks_of_isSymbol : marks p = p.map fun c => ⟨c, true⟩ :=
  (marks_of_forall_not_isQuote fun _ hc => (plain_of_isSymbol hp hc).2.1).2

end Symbol

/-- Only parentheses change the depth. -/
theorem depthAfter_of_ne {m : Mark} (h : m.char ≠ '(' ∧ m.char ≠ ')') (depth : Int) :
    m.depthAfter depth = depth := by
  simp [Mark.depthAfter, Mark.is, h]

/-- Two texts with a symbol between them. -/
def link (p s t : Text) : Text := s ++ ' ' :: p ++ ' ' :: t

/-- Two texts that are linked by a symbol are marked one after the other, with the symbol outside.
-/
theorem marks_link {p s : Text} (hp : isSymbol p) (hs : isClosed s) (t : Text) :
    marks (link p s t) =
      marks s ++ ⟨' ', true⟩ :: ((p.map fun c => ⟨c, true⟩) ++ ⟨' ', true⟩ :: marks t) := by
  rw [link, List.append_assoc, List.cons_append, marks_append_cons hs rfl,
    marks_append_cons (isClosed_of_isPlain (isPlain_of_isSymbol hp)) rfl, marks_of_isSymbol hp]

/-- Two whole texts that are linked by a symbol are whole. -/
theorem IsWhole.link {p s t : Text} (hp : isSymbol p) (hs : IsWhole s) (ht : IsWhole t) :
    IsWhole (link p s t) := by
  have hp' : IsWhole p := isWhole_of_isPlain (isPlain_of_isSymbol hp)
  have hblank : IsWhole [' '] := by decide
  have hsplit : Text.link p s t = s ++ ([' '] ++ (p ++ ([' '] ++ t))) := by
    simp [Text.link]
  rw [hsplit]
  exact hs.append (hblank.append (hp'.append (hblank.append ht)))

namespace Mark

/-- Marks start with a pattern if their characters do. -/
theorem startWith_iff {p : Text} {ms : List Mark} : startWith p ms ↔ p <+: chars ms := by
  induction p generalizing ms with
  | nil => simp [startWith]
  | cons c p ih =>
    cases ms with
    | nil => simp [startWith]
    | cons m ms => simp [startWith, ih, List.cons_prefix_cons]

/-- A pattern is no longer than the marks that start with it. -/
theorem length_le_of_startWith {p : Text} {ms : List Mark} (h : startWith p ms) :
    p.length ≤ ms.length := by
  rw [← length_chars]
  exact (startWith_iff.1 h).length_le

/-- A pattern starts itself, with anything behind it. -/
theorem startWith_self (p : Text) (ms : List Mark) :
    startWith p ((p.map fun c => ⟨c, true⟩) ++ ms) := by
  rw [startWith_iff, chars_append, chars, List.map_map]
  exact (List.map_id p).symm ▸ List.prefix_append _ _

/-- A pattern does not reach over a character that is not part of it. -/
theorem startWith_append_cons {p : Text} (hp : p ≠ []) {m : Mark} (hm : m.char ∉ p)
    (ms ms' : List Mark) : startWith p (ms ++ m :: ms') = startWith p ms := by
  induction p generalizing ms with
  | nil => exact absurd rfl hp
  | cons c p ih =>
    simp only [List.mem_cons, not_or] at hm
    cases ms with
    | nil => simp [startWith, Ne.symm hm.1]
    | cons m₀ ms =>
      rw [List.cons_append, startWith, startWith]
      cases p with
      | nil => rfl
      | cons c' p => rw [ih (by simp) hm.2]

/-- Marks do not start with a pattern that lacks their first character. -/
theorem startWith_cons_eq_false {p : Text} (hp : p ≠ []) {m : Mark} (hm : m.char ∉ p)
    (ms : List Mark) : startWith p (m :: ms) = false := by
  have h := startWith_append_cons hp hm [] ms
  rw [List.nil_append] at h
  rw [h]
  cases p with
  | nil => exact absurd rfl hp
  | cons c p => rfl

/-! ## Finding -/

/-- What is found in a text with a character that is not part of the pattern is found in front of it
or behind it. -/
theorem find?_append {p : Text} (hp : p ≠ []) {m : Mark} (hm : m.char ∉ p) (ms ms' : List Mark) :
    find? p (ms ++ m :: ms') = match find? p ms with
      | some (before, behind) => some (before, behind ++ m.char :: chars ms')
      | none => (find? p ms').map fun (before, behind) =>
        (chars ms ++ m.char :: before, behind) := by
  induction ms with
  | nil => simp [find?, startWith_cons_eq_false hp hm]
  | cons m₀ ms ih =>
    have hstart := startWith_append_cons hp hm (m₀ :: ms) ms'
    rw [List.cons_append] at hstart
    rw [List.cons_append, find?, find?, hstart]
    by_cases hfound : (m₀.outside && startWith p (m₀ :: ms)) = true
    · rw [if_pos hfound, if_pos hfound]
      simp only [Bool.and_eq_true] at hfound
      -- an occurrence lies in front of the character as a whole
      have hle := length_le_of_startWith hfound.2
      have hdrop : ∀ l : List Mark, chars (l.drop p.length) = (chars l).drop p.length :=
        fun l => List.map_drop
      rw [← length_chars] at hle
      simp only [hdrop, ← List.cons_append, chars_append, chars_cons] at hle ⊢
      rw [List.drop_append_of_le_length hle]
    · rw [if_neg hfound, if_neg hfound, ih]
      cases find? p ms with
      | some found => rfl
      | none =>
        rw [Option.map_map]
        rfl

/-- A pattern at the front is found there. -/
theorem find?_self {p : Text} (hp : p ≠ []) (ms : List Mark) :
    find? p ((p.map fun c => ⟨c, true⟩) ++ ms) = some ([], chars ms) := by
  have hstart := startWith_self p ms
  cases p with
  | nil => exact absurd rfl hp
  | cons c p =>
    rw [List.map_cons, List.cons_append] at hstart ⊢
    rw [find?, if_pos (by simpa using hstart)]
    simp

/-- The search meets an occurrence at the latest where it stands. -/
theorem isSome_find?_append {p : Text} {ms' : List Mark} (h : (find? p ms').isSome)
    (ms : List Mark) : (find? p (ms ++ ms')).isSome := by
  induction ms with
  | nil => exact h
  | cons m ms ih =>
    rw [List.cons_append, find?]
    split
    · rfl
    · rw [Option.isSome_map]
      exact ih

/-- A pattern that starts at no mark outside literals is not found. -/
theorem find?_eq_none {p : Text} {ms : List Mark}
    (h : ∀ ms₁ m ms₂, ms = ms₁ ++ m :: ms₂ → m.outside → startWith p (m :: ms₂) = false) :
    find? p ms = none := by
  induction ms with
  | nil => rfl
  | cons m ms ih =>
    have hm : (m.outside && startWith p (m :: ms)) = false := by
      cases hout : m.outside with
      | false => rfl
      | true => exact h [] m ms rfl hout
    rw [find?, hm, if_neg (by simp), Option.map_eq_none_iff]
    exact ih fun ms₁ m' ms₂ heq => h (m :: ms₁) m' ms₂ (by rw [heq, List.cons_append])

end Mark

/-- The symbol stands somewhere in the text outside its literals. -/
def Occurs (p t : Text) : Prop := ∃ u v, t = u ++ p ++ v ∧ isClosed u

/-- The symbol stands somewhere in the text outside its literals and parentheses. -/
def OccursAtTop (p t : Text) : Prop :=
  ∃ u v, t = u ++ p ++ v ∧ isClosed u ∧ Mark.depthBehind 0 (marks u) = 0

/-- What occurs outside literals and parentheses occurs outside literals. -/
theorem OccursAtTop.occurs {p t : Text} (h : OccursAtTop p t) : Occurs p t := by
  obtain ⟨u, v, ht, hu, -⟩ := h
  exact ⟨u, v, ht, hu⟩

/-- A symbol occurs as well behind a closed text. -/
theorem Occurs.append_left {p s t : Text} (h : Occurs p t) (hs : isClosed s) :
    Occurs p (s ++ t) := by
  obtain ⟨u, v, rfl, hu⟩ := h
  exact ⟨s ++ u, v, by simp, isClosed_append hs hu⟩

/-- A symbol occurs as well in front of any text. -/
theorem Occurs.append_right {p t : Text} (h : Occurs p t) (s : Text) : Occurs p (t ++ s) := by
  obtain ⟨u, v, rfl, hu⟩ := h
  exact ⟨u, v ++ s, by simp, hu⟩

/-- A pattern at a mark outside literals is an occurrence in the text. -/
theorem exists_of_startWith {p t : Text} {ms₁ ms₂ : List Mark} {m : Mark}
    (h : marks t = ms₁ ++ m :: ms₂) (hm : m.outside) (hp : Mark.startWith p (m :: ms₂)) :
    ∃ u v, t = u ++ p ++ v ∧ isClosed u ∧ marks u = ms₁ := by
  obtain ⟨u, v, rfl, hu, hms₁, hms₂⟩ := marks_eq_append h hm
  obtain ⟨v', hv'⟩ := Mark.startWith_iff.1 hp
  rw [← hms₂, chars_cons, chars_marks] at hv'
  exact ⟨u, v', by rw [List.append_assoc, hv'], hu, hms₁⟩

/-- A symbol is not found exactly if it does not occur. -/
theorem find?_eq_none_iff {p t : Text} (hp : isSymbol p) : find? p t = none ↔ ¬Occurs p t := by
  constructor
  · rintro h ⟨u, v, rfl, hu⟩
    have hmarks : marks (u ++ p ++ v) = marks u ++ ((p.map fun c => ⟨c, true⟩) ++ marks v) := by
      rw [List.append_assoc, marks_append hu,
        marks_append (isClosed_of_isPlain (isPlain_of_isSymbol hp)), marks_of_isSymbol hp]
    have hself : (Mark.find? p ((p.map fun c => ⟨c, true⟩) ++ marks v)).isSome := by
      rw [Mark.find?_self (ne_nil_of_isSymbol hp), Option.isSome_some]
    have hsome := Mark.isSome_find?_append hself (marks u)
    rw [← hmarks] at hsome
    rw [find?] at h
    rw [h] at hsome
    cases hsome
  · intro h
    refine Mark.find?_eq_none fun ms₁ m ms₂ heq hout => ?_
    cases hstart : Mark.startWith p (m :: ms₂) with
    | false => rfl
    | true =>
      obtain ⟨u, v, ht, hu, -⟩ := exists_of_startWith heq hout hstart
      exact absurd ⟨u, v, ht, hu⟩ h

/-- The symbol between two texts is found if it does not stand in the first. -/
theorem find?_link {p s : Text} (hp : isSymbol p) (hs : isClosed s) (h : ¬Occurs p s) (t : Text) :
    find? p (link p s t) = some (s ++ [' '], ' ' :: t) := by
  have hmem : (' ' : Char) ∉ p := not_mem_of_isBlank hp rfl
  have hnone : Mark.find? p (marks s) = none := (find?_eq_none_iff hp).2 h
  rw [find?, marks_link hp hs, Mark.find?_append (ne_nil_of_isSymbol hp) hmem, hnone,
    Mark.find?_self (ne_nil_of_isSymbol hp)]
  simp

/-- Nothing stands across the border of two texts with a symbol between them. -/
theorem not_occurs_link {p q s t : Text} (hp : isSymbol p) (hq : isSymbol q) (hs : isClosed s)
    (h : ¬Occurs p s) (h' : ¬Occurs p t) (hpq : ¬Occurs p q) : ¬Occurs p (link q s t) := by
  have hne := ne_nil_of_isSymbol hp
  have hmem : (' ' : Char) ∉ p := not_mem_of_isBlank hp rfl
  rw [← find?_eq_none_iff hp, find?] at h h' hpq ⊢
  rw [marks_of_isSymbol hq] at hpq
  rw [marks_link hq hs, Mark.find?_append hne hmem, h, Mark.find?_append hne hmem, hpq, h']
  rfl

/-- What is put in front of a text does not put its parts at the top. -/
theorem not_occursAtTop_cons {c : Char} {p t : Text} (hc : isQuote c = false)
    (hc' : c ≠ '(' ∧ c ≠ ')') (hp : c ∉ p) (hp' : p ≠ []) (h : ¬OccursAtTop p t) :
    ¬OccursAtTop p (c :: t) := by
  rintro ⟨u, v, heq, hu, hdepth⟩
  cases u with
  | nil =>
    cases p with
    | nil => exact hp' rfl
    | cons d p =>
      have hd : c = d := (List.cons.inj heq).1
      exact hp (hd ▸ List.mem_cons_self ..)
  | cons d u =>
    rw [List.cons_append, List.cons_append, List.cons.injEq] at heq
    obtain ⟨rfl, heq⟩ := heq
    refine h ⟨u, v, heq, ?_, ?_⟩
    · rwa [← List.singleton_append, isClosed_append_eq] at hu
      rw [isClosed, Quoting.behind_cons, Quoting.step, hc]
      rfl
    · rwa [marks_cons hc, Mark.depthBehind_cons, depthAfter_of_ne hc'] at hdepth

/-! ## Splitting -/

namespace Mark

/-- The parts between the occurrences of the pattern, in one list. -/
def parts (pattern : Text) (skip : Nat) (depth : Int) (ms : List Mark) : List Text :=
  (split pattern skip depth ms).1 :: (split pattern skip depth ms).2

/-- Two lists of parts of which the last and the first belong together. -/
def glue : List Text → List Text → List Text
  | [], others => others
  | [part], others => others.modifyHead (part ++ ·)
  | part :: next :: parts, others => part :: glue (next :: parts) others

variable {p : Text}

/-- Without marks there is one part, which is empty. -/
theorem parts_nil (skip : Nat) (depth : Int) : parts p skip depth [] = [[]] := by
  cases skip <;> rfl

/-- The rest of a pattern that was found is passed over. -/
theorem parts_skip (skip : Nat) (depth : Int) (m : Mark) (ms : List Mark) :
    parts p (skip + 1) depth (m :: ms) = parts p skip (m.depthAfter depth) ms := rfl

/-- Where the pattern is found, a part ends. -/
theorem parts_cons_of_found {depth : Int} {m : Mark} {ms : List Mark}
    (h : (m.outside && m.depthAfter depth == 0 && startWith p (m :: ms)) = true) :
    parts p 0 depth (m :: ms) = [] :: parts p (p.length - 1) (m.depthAfter depth) ms := by
  rw [parts, split, if_pos h]
  rfl

/-- Where the pattern is not found, the character goes to the first part of the rest. -/
theorem parts_cons {depth : Int} {m : Mark} {ms : List Mark}
    (h : (m.outside && m.depthAfter depth == 0 && startWith p (m :: ms)) = false) :
    parts p 0 depth (m :: ms) = (parts p 0 (m.depthAfter depth) ms).modifyHead (m.char :: ·) := by
  rw [parts, split, if_neg (by simp [h])]
  rfl

/-- There is at least one part. -/
theorem parts_ne_nil (skip : Nat) (depth : Int) (ms : List Mark) : parts p skip depth ms ≠ [] := by
  simp [parts]

/-- A character that is not part of the pattern belongs to the first part. -/
theorem parts_cons_of_not_mem (hp : p ≠ []) {m : Mark} (hm : m.char ∉ p) (depth : Int)
    (ms : List Mark) :
    parts p 0 depth (m :: ms) = (parts p 0 (m.depthAfter depth) ms).modifyHead (m.char :: ·) :=
  parts_cons (by rw [startWith_cons_eq_false hp hm, Bool.and_false])

/-- So do several of them, unless there are parentheses among them. -/
theorem parts_append_of_not_mem (hp : p ≠ []) {s : Text} (hs : ∀ c ∈ s, c ∉ p)
    (hs' : ∀ c ∈ s, c ≠ '(' ∧ c ≠ ')') (depth : Int) (ms : List Mark) :
    parts p 0 depth ((s.map fun c => ⟨c, true⟩) ++ ms) =
      (parts p 0 depth ms).modifyHead (s ++ ·) := by
  induction s with
  | nil => rfl
  | cons c s ih =>
    have hmem : c ∉ p := hs c (by simp)
    have hparen : c ≠ '(' ∧ c ≠ ')' := hs' c (by simp)
    rw [List.map_cons, List.cons_append, parts_cons_of_not_mem (m := ⟨c, true⟩) hp hmem,
      depthAfter_of_ne hparen,
      ih (fun d hd => hs d (by simp [hd])) fun d hd => hs' d (by simp [hd]),
      List.modifyHead_modifyHead]
    rfl

/-- Behind the marks that are passed over, the parts go on at the depth reached there. -/
theorem parts_skip_append (ms ms' : List Mark) (depth : Int) :
    parts p ms.length depth (ms ++ ms') = parts p 0 (depthBehind depth ms) ms' := by
  induction ms generalizing depth with
  | nil => rfl
  | cons m ms ih =>
    rw [List.length_cons, List.cons_append, parts_skip, ih, depthBehind_cons]

/-- Glueing leaves alone all but the last of the first parts. -/
theorem glue_cons (x : Text) {xs : List Text} (hxs : xs ≠ []) (ys : List Text) :
    glue (x :: xs) ys = x :: glue xs ys := by
  cases xs with
  | nil => exact absurd rfl hxs
  | cons x' xs => rfl

/-- A character in front can be added before glueing or behind it. -/
theorem glue_modifyHead {xs : List Text} (hxs : xs ≠ []) (c : Char) (ys : List Text) :
    glue (xs.modifyHead (c :: ·)) ys = (glue xs ys).modifyHead (c :: ·) := by
  match xs with
  | [] => exact absurd rfl hxs
  | [x] =>
    show ys.modifyHead ((c :: x) ++ ·) = (ys.modifyHead (x ++ ·)).modifyHead (c :: ·)
    rw [List.modifyHead_modifyHead]
    rfl
  | x :: x' :: xs => rfl

/-- Where no occurrence reaches over a border, the parts in front of it and the parts behind it can
be told separately. -/
theorem parts_append_of_border {ms' : List Mark}
    (hborder : ∀ m ms, startWith p (m :: (ms ++ ms')) = startWith p (m :: ms)) {ms : List Mark}
    {skip : Nat} (hskip : skip ≤ ms.length) (depth : Int) :
    parts p skip depth (ms ++ ms') =
      glue (parts p skip depth ms) (parts p 0 (depthBehind depth ms) ms') := by
  -- `hskip` is the invariant: an occurrence that is being skipped ends in front of the border
  induction ms generalizing skip depth with
  | nil =>
    have hzero : skip = 0 := Nat.le_zero.1 hskip
    subst hzero
    rw [List.nil_append, parts_nil, depthBehind_nil, glue]
    cases parts p 0 depth ms' <;> rfl
  | cons m₀ ms ih =>
    rw [List.cons_append, depthBehind_cons]
    cases skip with
    | succ skip =>
      rw [parts_skip, parts_skip, ih (Nat.le_of_succ_le_succ hskip)]
    | zero =>
      have hstart := hborder m₀ ms
      cases hfound : m₀.outside && m₀.depthAfter depth == 0 && startWith p (m₀ :: ms) with
      | true =>
        have hlength : p.length ≤ ms.length + 1 :=
          length_le_of_startWith (Bool.and_eq_true_iff.1 hfound).2
        rw [parts_cons_of_found (by rw [hstart, hfound]), parts_cons_of_found hfound,
          ih (by omega), glue_cons _ (parts_ne_nil _ _ _)]
      | false =>
        rw [parts_cons (by rw [hstart, hfound]), parts_cons hfound, ih (Nat.zero_le _),
          glue_modifyHead (parts_ne_nil _ _ _)]

/-- No occurrence reaches over a character that is not part of the pattern. -/
theorem parts_append (hp : p ≠ []) {m : Mark} (hm : m.char ∉ p) (ms' : List Mark) {ms : List Mark}
    {skip : Nat} (hskip : skip ≤ ms.length) (depth : Int) :
    parts p skip depth (ms ++ m :: ms') =
      glue (parts p skip depth ms) (parts p 0 (depthBehind depth ms) (m :: ms')) :=
  parts_append_of_border (fun m₀ ms₀ => startWith_append_cons hp hm (m₀ :: ms₀) ms') hskip depth

/-- The parts are shorter the more of them there are. -/
theorem length_add_length_parts_le (skip : Nat) (depth : Int) (ms : List Mark) :
    ∀ part ∈ parts p skip depth ms,
      part.length + (parts p skip depth ms).length ≤ ms.length + 1 := by
  induction ms generalizing skip depth with
  | nil => simp [parts_nil]
  | cons m ms ih =>
    cases skip with
    | succ skip =>
      intro part hpart
      rw [parts_skip] at hpart ⊢
      have h := ih skip (m.depthAfter depth) part hpart
      rw [List.length_cons]
      omega
    | zero =>
      cases hfound : m.outside && m.depthAfter depth == 0 && startWith p (m :: ms) with
      | true =>
        -- one part more for at least one character
        rw [parts_cons_of_found hfound]
        intro part hpart
        rw [List.length_cons, List.length_cons]
        rcases List.mem_cons.1 hpart with rfl | hpart
        · have h := ih (p.length - 1) (m.depthAfter depth) _ (List.mem_cons_self ..)
          rw [List.length_nil]
          omega
        · have h := ih (p.length - 1) (m.depthAfter depth) part hpart
          omega
      | false =>
        have ih := ih 0 (m.depthAfter depth)
        rw [parts_cons hfound]
        generalize parts p 0 (m.depthAfter depth) ms = xs at ih
        intro part hpart
        rw [List.length_modifyHead, List.length_cons]
        cases xs with
        | nil => cases hpart
        | cons x xs =>
          rcases List.mem_cons.1 hpart with rfl | hpart
          · have h := ih x (by simp)
            simp only [List.length_cons] at h ⊢
            omega
          · have h := ih part (by simp [hpart])
            omega

/-- A single part is the whole text. -/
theorem eq_chars_of_parts_eq_singleton {depth : Int} {ms : List Mark} {part : Text}
    (h : parts p 0 depth ms = [part]) : part = chars ms := by
  induction ms generalizing depth part with
  | nil =>
    cases h
    rfl
  | cons m ms ih =>
    cases hfound : m.outside && m.depthAfter depth == 0 && startWith p (m :: ms) with
    | true =>
      rw [parts_cons_of_found hfound] at h
      exact absurd (List.cons.inj h).2 (parts_ne_nil _ _ _)
    | false =>
      rw [parts_cons hfound] at h
      cases hparts : parts p 0 (m.depthAfter depth) ms with
      | nil => exact absurd hparts (parts_ne_nil _ _ _)
      | cons x xs =>
        rw [hparts, List.modifyHead_cons, List.cons.injEq] at h
        obtain ⟨rfl, rfl⟩ := h
        rw [ih hparts, chars_cons]

/-- Where the pattern is found nowhere, there is one part. -/
theorem parts_eq_singleton {depth : Int} {ms : List Mark}
    (h : ∀ ms₁ m ms₂, ms = ms₁ ++ m :: ms₂ → m.outside → m.depthAfter (depthBehind depth ms₁) = 0 →
      startWith p (m :: ms₂) = false) : parts p 0 depth ms = [chars ms] := by
  induction ms generalizing depth with
  | nil => rfl
  | cons m ms ih =>
    have hm : (m.outside && m.depthAfter depth == 0 && startWith p (m :: ms)) = false := by
      cases hout : m.outside && m.depthAfter depth == 0 with
      | false => rfl
      | true =>
        simp only [Bool.and_eq_true, beq_iff_eq] at hout
        exact h [] m ms rfl hout.1 hout.2
    have hms : parts p 0 (m.depthAfter depth) ms = [chars ms] :=
      ih fun ms₁ m' ms₂ heq => h (m :: ms₁) m' ms₂ (by rw [heq, List.cons_append])
    rw [parts_cons hm, hms]
    rfl

end Mark

/-- A text is split as its marks are. -/
theorem split_eq_parts (p t : Text) : split p t = Mark.parts p 0 0 (marks t) := rfl

/-- A text is in one part unless the symbol stands outside its literals and parentheses. -/
theorem split_eq_singleton {p t : Text} (hp : isSymbol p) (h : ¬OccursAtTop p t) :
    split p t = [t] := by
  suffices hparts : Mark.parts p 0 0 (marks t) = [chars (marks t)] by
    rw [split_eq_parts, hparts, chars_marks]
  refine Mark.parts_eq_singleton fun ms₁ m ms₂ heq hout hdepth => ?_
  cases hstart : Mark.startWith p (m :: ms₂) with
  | false => rfl
  | true =>
    obtain ⟨u, v, ht, hu, hms₁⟩ := exists_of_startWith heq hout hstart
    refine absurd ⟨u, v, ht, hu, ?_⟩ h
    -- the symbol does not start with a parenthesis, so the depth in front of it is the depth behind
    have hmem : m.char ∈ p := by
      obtain ⟨v', hv'⟩ := Mark.startWith_iff.1 hstart
      cases p with
      | nil => cases hp
      | cons c p =>
        rw [chars_cons, List.cons_append, List.cons.injEq] at hv'
        rw [← hv'.1]
        exact List.mem_cons_self ..
    rw [depthAfter_of_ne (plain_of_isSymbol hp hmem).2.2] at hdepth
    rw [hms₁, hdepth]

/-- If there is one part only, it is the text. -/
theorem split_eq_singleton_of_length_le {p t : Text} (h : (split p t).length ≤ 1) :
    split p t = [t] := by
  cases hparts : split p t with
  | nil => exact absurd hparts (Mark.parts_ne_nil _ _ _)
  | cons part parts =>
    rw [hparts, List.length_cons] at h
    have hnil : parts = [] := List.length_eq_zero_iff.1 (by omega)
    subst hnil
    rw [Mark.eq_chars_of_parts_eq_singleton hparts, chars_marks]

/-- Parts in parentheses are not cut. -/
theorem not_occursAtTop_wrap {p t : Text} (hp : isSymbol p) (ht : IsWhole t) :
    ¬OccursAtTop p (wrap t) := by
  rintro ⟨u, v, heq, hu, hdepth⟩
  cases u with
  | nil =>
    -- a symbol does not start with a parenthesis
    cases p with
    | nil => cases hp
    | cons c p =>
      have hc : '(' = c := (List.cons.inj heq).1
      exact (plain_of_isSymbol hp (List.mem_cons_self ..)).2.2.1 hc.symm
  | cons c u =>
    rw [wrap, List.cons_append, List.cons_append, List.cons_append, List.cons.injEq] at heq
    obtain ⟨rfl, heq⟩ := heq
    have hu : isClosed u := hu
    have hpos := List.length_pos_iff.2 (ne_nil_of_isSymbol hp)
    have hlength := congrArg List.length heq
    simp only [List.length_append, List.length_cons, List.length_nil] at hlength
    have hfront : u <+: t ++ [')'] := by
      rw [heq, List.append_assoc]
      exact List.prefix_append _ _
    obtain ⟨w, rfl⟩ := List.prefix_of_prefix_length_le hfront (List.prefix_append _ _) (by omega)
    -- the outer parenthesis is still open in front of the symbol
    have hopened := opened?_of_isBalanced ht.balanced 0
    rw [marks_append hu, Mark.opened?_append] at hopened
    obtain ⟨k, hk, -⟩ := Option.bind_eq_some_iff.1 hopened
    have hbehind : Mark.depthBehind 1 (marks u) = (k + 1 : Nat) :=
      Mark.depthBehind_of_opened? (Mark.opened?_add hk 1)
    rw [marks_cons rfl, Mark.depthBehind_cons] at hdepth
    have hone : Mark.depthAfter ⟨'(', true⟩ 0 = 1 := rfl
    rw [hone, hbehind] at hdepth
    omega

/-! ## Blanks around the parts -/

/-- Blanks in front of the first part are trimmed away. -/
theorem map_trim_modifyHead {b : Text} (hb : ∀ c ∈ b, isBlank c) (xs : List Text) :
    (xs.modifyHead (b ++ ·)).map trim = xs.map trim := by
  cases xs with
  | nil => rfl
  | cons x xs => rw [List.modifyHead_cons, List.map_cons, List.map_cons, trim_blank_append hb]

/-- Blanks that are glued to a part are trimmed away. -/
theorem map_trim_glue {xs : List Text} (hxs : xs ≠ []) {b : Text} (hb : ∀ c ∈ b, isBlank c)
    (ys : List Text) : (Mark.glue xs (b :: ys)).map trim = xs.map trim ++ ys.map trim := by
  induction xs with
  | nil => exact absurd rfl hxs
  | cons x xs ih =>
    cases xs with
    | nil =>
      rw [Mark.glue, List.modifyHead_cons, List.map_cons, trim_append_blank hb]
      rfl
    | cons x' xs =>
      rw [Mark.glue, List.map_cons, ih (by simp)]
      rfl

section Symbol

variable {p : Text} (hp : isSymbol p)

include hp

/-- The symbol at the start of a text cuts it. -/
theorem parts_self (ms : List Mark) :
    Mark.parts p 0 0 ((p.map fun c => ⟨c, true⟩) ++ ms) = [] :: Mark.parts p 0 0 ms := by
  cases p with
  | nil => cases hp
  | cons c p =>
    have hc := (plain_of_isSymbol hp (List.mem_cons_self ..)).2.2
    have hstart := Mark.startWith_self (c :: p) ms
    have hdepth : Mark.depthBehind 0 (p.map fun c => (⟨c, true⟩ : Mark)) = 0 := by
      have h := depthBehind_of_isBalanced (isBalanced_of_isPlain (isPlain_of_isSymbol hp))
      rw [marks_of_isSymbol hp, List.map_cons, Mark.depthBehind_cons, depthAfter_of_ne hc] at h
      exact h
    have hskip := Mark.parts_skip_append (p := c :: p) (p.map fun c => (⟨c, true⟩ : Mark)) ms 0
    rw [List.length_map, hdepth] at hskip
    rw [List.map_cons, List.cons_append] at hstart ⊢
    rw [Mark.parts_cons_of_found (by rw [hstart, depthAfter_of_ne hc]; rfl), depthAfter_of_ne hc,
      List.length_cons, Nat.add_sub_cancel, hskip]

/-- Blanks in front of a text are trimmed away from its parts. -/
theorem parts_blank_append {b : Text} (hb : ∀ c ∈ b, isBlank c) (ms : List Mark) :
    (Mark.parts p 0 0 ((b.map fun c => ⟨c, true⟩) ++ ms)).map trim =
      (Mark.parts p 0 0 ms).map trim := by
  rw [Mark.parts_append_of_not_mem (ne_nil_of_isSymbol hp)
    (fun c hc => not_mem_of_isBlank hp (hb c hc)) (fun c hc => ne_paren_of_isBlank (hb c hc)),
    map_trim_modifyHead hb]

/-- Blanks are one part, inside literals and outside. -/
theorem parts_scan_blank {b : Text} (hb : ∀ c ∈ b, isBlank c) (q : Quoting) (depth : Int) :
    Mark.parts p 0 depth (q.scan b) = [b] := by
  induction b generalizing q depth with
  | nil => rfl
  | cons c b ih =>
    have hmem : c ∉ p := not_mem_of_isBlank hp (hb c (by simp))
    rw [Quoting.scan, Mark.parts_cons_of_not_mem (ne_nil_of_isSymbol hp) hmem,
      ih (fun d hd => hb d (by simp [hd]))]
    rfl

/-- Blanks around a text are blanks around its parts. -/
theorem map_trim_split_trim (t : Text) : (split p (trim t)).map trim = (split p t).map trim := by
  obtain ⟨left, right, htext, hleft, hright⟩ := exists_eq_trim t
  have hplain := marks_of_forall_not_isQuote fun c hc => isQuote_eq_false_of_isBlank (hleft c hc)
  have hmarks : marks t = (left.map fun c => ⟨c, true⟩) ++ marks (trim t ++ right) := by
    rw [← hplain.2, ← marks_append hplain.1, ← List.append_assoc, ← htext]
  rw [split_eq_parts, split_eq_parts, hmarks, parts_blank_append hp hleft]
  cases right with
  | nil => rw [List.append_nil]
  | cons c right =>
    -- the blanks at the end may belong to a literal that is left open
    have hscan : marks (trim t ++ c :: right) =
        marks (trim t) ++ (Quoting.code.behind (trim t)).scan (c :: right) := by
      rw [marks_eq_scan, Quoting.scan_append, marks_eq_scan]
    have hmem : c ∉ p := not_mem_of_isBlank hp (hright c (by simp))
    have hblanks := parts_scan_blank hp hright (Quoting.code.behind (trim t))
      (Mark.depthBehind 0 (marks (trim t)))
    rw [Quoting.scan] at hscan hblanks
    rw [hscan, Mark.parts_append (ne_nil_of_isSymbol hp) hmem _ (Nat.zero_le _), hblanks,
      map_trim_glue (Mark.parts_ne_nil _ _ _) hright, List.map_nil, List.append_nil]

/-- A symbol made of other characters does not cut. -/
theorem split_link_eq_singleton {q s t : Text} (hq : isSymbol q) (hpq : ∀ c ∈ q, c ∉ p)
    (hs : IsWhole s) (h : split p s = [s]) (h' : split p t = [t]) :
    split p (link q s t) = [link q s t] := by
  have hne := ne_nil_of_isSymbol hp
  have hmem : (' ' : Char) ∉ p := not_mem_of_isBlank hp rfl
  have hdepth : Mark.depthAfter ⟨' ', true⟩ 0 = 0 := rfl
  have hparen : ∀ c ∈ q, c ≠ '(' ∧ c ≠ ')' := fun c hc => (plain_of_isSymbol hq hc).2.2
  rw [split_eq_parts, marks_link hq hs.closed, Mark.parts_append hne hmem _ (Nat.zero_le _),
    ← split_eq_parts, h, depthBehind_of_isBalanced hs.balanced, Mark.parts_cons_of_not_mem hne hmem,
    hdepth, Mark.parts_append_of_not_mem hne hpq hparen, Mark.parts_cons_of_not_mem hne hmem,
    hdepth, ← split_eq_parts, h']
  simp [Mark.glue, link]

/-- At a symbol between blanks a text is cut into the parts in front of it and the parts behind
it. -/
theorem map_trim_split_link {s : Text} (hs : IsWhole s) (t : Text) :
    (split p (link p s t)).map trim = (split p s ++ split p t).map trim := by
  have hblank : ∀ c ∈ [' '], isBlank c := by simp [isBlank]
  have hhead : ∀ xs : List Text, (xs.modifyHead (' ' :: ·)).map trim = xs.map trim :=
    map_trim_modifyHead hblank
  have hne := ne_nil_of_isSymbol hp
  have hmem : (' ' : Char) ∉ p := not_mem_of_isBlank hp rfl
  have hdepth : Mark.depthAfter ⟨' ', true⟩ 0 = 0 := rfl
  -- cut at the first blank, then at the symbol; the second blank goes to the part behind it
  rw [split_eq_parts, marks_link hp hs.closed, Mark.parts_append hne hmem _ (Nat.zero_le _),
    depthBehind_of_isBalanced hs.balanced,
    Mark.parts_cons_of_not_mem hne hmem, hdepth, parts_self hp, List.modifyHead_cons,
    map_trim_glue (Mark.parts_ne_nil _ _ _) hblank, Mark.parts_cons_of_not_mem hne hmem,
    hdepth, hhead, List.map_append, split_eq_parts, split_eq_parts]

end Symbol

end Text

end TapScript
