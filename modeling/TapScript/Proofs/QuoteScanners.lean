import TapScript.Proofs.Assigned
import TapScript.Proofs.Clauses
import TapScript.Proofs.Lexemes

/-! # Scanners of literals

Four parts of the program follow the literals of a text on their own. The marks skip the character
behind a backslash; the cutting of source lines and the filling in of variables step through the
states of a `Quoting`; and the scanner of expressions resolves escapes while it reads. They all find
the same characters outside literals.

* `Quoting.getElem?_scan` gives each mark by the state behind the characters before it.
* `Line.cuts_eq_cutMarks` and `Environment.fillFrom_eq_fillMarks` say that the marks alone decide
  where a text is cut and where variables are filled in; `Line.cuts_append` and
  `Environment.fillFrom_append` give the state in which each of the two reaches a place of the text.
* `Token.Lexeme.marks_flatMap_text` marks a series of lexemes: the literals inside, everything else
  outside.
* `quote_scanners_agree` puts the four next to each other. -/

namespace TapScript

namespace Text.Quoting

/-- The mark at a place depends on the state that is reached in front of it. -/
theorem getElem?_scan (q : Quoting) (t : Text) (i : Nat) :
    (q.scan t)[i]? = t[i]?.map fun c => ⟨c, (q.behind (t.take i)).isCode && !isQuote c⟩ := by
  induction t generalizing q i with
  | nil => rfl
  | cons c t ih =>
    cases i with
    | zero => rfl
    | succ i =>
      rw [scan, List.getElem?_cons_succ, List.getElem?_cons_succ, List.take_succ_cons, behind_cons]
      exact ih (q.step c) i

/-- In code, a character that is no quote leaves the scan in code. -/
theorem step_eq_self {q : Quoting} (hq : q.isCode) {c : Char} (hc : isQuote c = false) :
    q.step c = q := by
  rw [Line.eq_code_of_isCode hq, step, hc]
  rfl

end Text.Quoting

open Text (Quoting Mark)

/-! ## Cutting by marks -/

namespace Line

/-- The pieces of a marked text: it is cut at the marks outside literals alone. -/
def cutMarks : List Mark → List Text
  | [] => [[]]
  | m :: ms =>
    if m.outside && isCut m.char then severed m.char ++
      cutMarks ms else (cutMarks ms).modifyHead (m.char :: ·)

/-- Cutting a text looks at its marks only. -/
theorem cuts_eq_cutMarks (q : Quoting) (t : Text) : cuts q t = cutMarks (q.scan t) := by
  induction t generalizing q with
  | nil => exact cuts_nil q
  | cons c t ih =>
    rw [Quoting.scan, cutMarks, ← ih]
    cases hcut : q.isCode && isCut c with
    | true =>
      rw [Bool.and_eq_true] at hcut
      rw [hcut.1, isQuote_of_isCut hcut.2, eq_code_of_isCode hcut.1, cuts_cons_of_isCut hcut.2,
        step_code_of_isCut hcut.2, if_pos (by simp [hcut.2])]
    | false =>
      -- the mark is outside only in code, so it is no place to cut either
      have hmark : (q.isCode && !Text.isQuote c && isCut c) = false := by
        rw [Bool.and_right_comm, hcut, Bool.false_and]
      rw [cuts_cons hcut, if_neg (by simp [hmark])]

end Line

/-! ## Filling in by marks -/

namespace Environment

/-- The text of a marked text with its variables filled in, where `word` is the run of letters,
digits and underscores that ends in front of it, in reverse order: such runs are made of marks
outside literals alone. -/
def fillMarks (env : Environment) : (word : Text) → List Mark → Text
  | word, [] => if word.isEmpty then [] else env.fillWord word.reverse
  | word, m :: ms =>
    if m.outside && Text.isNameChar m.char then fillMarks env (m.char :: word) ms
    else (if word.isEmpty then [] else env.fillWord word.reverse) ++ m.char :: fillMarks env [] ms

/-- What has been filled in for a text, and the run of letters, digits and underscores at its
end. -/
def filled (env : Environment) : Quoting → (word : Text) → Text → Text × Text
  | _, word, [] => ([], word)
  | q, word, c :: r =>
    if q.isCode && Text.isNameChar c then filled env q (c :: word) r
    else
      let (front, pending) := filled env (q.step c) [] r
      ((if word.isEmpty then [] else env.fillWord word.reverse) ++ c :: front, pending)

/-- A letter, digit or underscore in code leaves the scan in code. -/
theorem step_eq_self_of_isNameChar {q : Quoting} {c : Char}
    (h : (q.isCode && Text.isNameChar c) = true) : q.step c = q :=
  have h := Bool.and_eq_true_iff.1 h
  Quoting.step_eq_self h.1 (Query.isQuote_eq_false_of_isNameChar h.2)

/-- Filling in a text looks at its marks only. -/
theorem fillFrom_eq_fillMarks (env : Environment) (q : Quoting) (word t : Text) :
    env.fillFrom q word t = env.fillMarks word (q.scan t) := by
  induction t generalizing q word with
  | nil => rfl
  | cons c t ih =>
    rw [fillFrom, Quoting.scan, fillMarks]
    cases hname : q.isCode && Text.isNameChar c with
    | true =>
      -- a character of a name is no quote, so in code its mark is outside
      have hmark : (q.isCode && !Text.isQuote c && Text.isNameChar c) = true := by
        rw [Bool.and_right_comm, hname, Query.isQuote_eq_false_of_isNameChar
          (Bool.and_eq_true_iff.1 hname).2]
        rfl
      rw [if_pos rfl, if_pos hmark, step_eq_self_of_isNameChar hname]
      exact ih q (c :: word)
    | false =>
      have hmark : (q.isCode && !Text.isQuote c && Text.isNameChar c) = false := by
        rw [Bool.and_right_comm, hname, Bool.false_and]
      rw [if_neg Bool.false_ne_true, hmark, if_neg Bool.false_ne_true, ih]

/-- Filling in goes on behind a part of the text in the state that the part leaves. -/
theorem fillFrom_append (env : Environment) (q : Quoting) (word s t : Text) :
    env.fillFrom q word (s ++ t) =
      (env.filled q word s).1 ++ env.fillFrom (q.behind s) (env.filled q word s).2 t := by
  induction s generalizing q word with
  | nil => rfl
  | cons c s ih =>
    rw [List.cons_append, fillFrom, filled, Quoting.behind_cons]
    cases hname : q.isCode && Text.isNameChar c with
    | true =>
      rw [if_pos rfl, if_pos rfl, step_eq_self_of_isNameChar hname]
      exact ih q (c :: word)
    | false =>
      rw [if_neg Bool.false_ne_true, if_neg Bool.false_ne_true, ih, List.append_assoc,
        List.cons_append]

end Environment

/-! ## Marks of lexemes -/

namespace Token.Lexeme

/-- Whether the lexeme is a literal. -/
def isLiteral : Lexeme → Bool
  | literal .. => true
  | _ => false

/-- The characters of the lexeme, inside if it is a literal. -/
def marks (l : Lexeme) : List Mark := l.text.map fun c => ⟨c, !l.isLiteral⟩

/-- No character of a number is a quote. -/
theorem isQuote_eq_false_of_isNumberChar {c : Char} (h : Pending.isNumberChar c) :
    Text.isQuote c = false := by
  rcases isWordChar_of_isNumberChar h with hword | rfl
  · exact Text.isQuote_eq_false_of_isWordChar hword
  · rfl

/-- No sign is a quote. -/
theorem isQuote_eq_false_of_isSign {c : Char} (h : isSign c) : Text.isQuote c = false := by
  cases hq : Text.isQuote c with
  | false => rfl
  | true =>
    simp only [Text.isQuote, Bool.or_eq_true, beq_iff_eq] at hq
    rcases hq with rfl | rfl <;> exact absurd h (by decide)

/-- There are quotes in literals only. -/
theorem isQuote_eq_false {l : Lexeme} (h : l.isLiteral = false) :
    ∀ c ∈ l.text, Text.isQuote c = false := by
  cases l with
  | blank c hc => exact List.forall_mem_singleton.2 (Text.isQuote_eq_false_of_isBlank hc)
  | sign c hc => exact List.forall_mem_singleton.2 (isQuote_eq_false_of_isSign hc)
  | number n => exact fun c hc => isQuote_eq_false_of_isNumberChar (n.plain c hc)
  | name x =>
    exact fun c hc => Query.isQuote_eq_false_of_isNameChar (Text.isNameChar_of_isName x.isName hc)
  | literal => cases h

/-- Each lexeme is closed, and it is marked as a whole. -/
theorem isClosed_text (l : Lexeme) : Text.isClosed l.text ∧ Text.marks l.text = l.marks := by
  cases hl : l.isLiteral with
  | false =>
    rw [marks, hl]
    exact Text.marks_of_forall_not_isQuote (isQuote_eq_false hl)
  | true =>
    cases l with
    | literal quote raw read hquote hraw => exact hraw.marks_literal hquote
    | _ => cases hl

/-- The lexemes of a text are marked one after the other. -/
theorem marks_flatMap_text (ls : List Lexeme) :
    Text.marks (ls.flatMap text) = ls.flatMap marks := by
  induction ls with
  | nil => rfl
  | cons l ls ih =>
    rw [List.flatMap_cons, List.flatMap_cons, Text.marks_append l.isClosed_text.1,
      l.isClosed_text.2, ih]

end Token.Lexeme

/-- **All scanners of literals agree.** A character is marked as outside exactly if it is no quote
and the state behind the characters before it is code. That is also the state in which the cutting
of source lines and the filling in of variables reach the character, and what they do with it
depends on its mark alone. A text that the scanner of expressions accepts is a series of lexemes
with the tokens it gives, and however a text is taken apart into lexemes, the characters that are
marked as outside are those of the lexemes that are no literals. -/
theorem quote_scanners_agree (t : Text) :
    (∀ i, (Text.marks t)[i]? =
      t[i]?.map fun c => Mark.mk c ((Quoting.code.behind (t.take i)).isCode && !Text.isQuote c)) ∧
    (∀ i, Line.cuts .code t =
      Mark.glue (Line.cuts .code (t.take i))
        (Line.cuts (Quoting.code.behind (t.take i)) (t.drop i))) ∧
    Line.cuts .code t = Line.cutMarks (Text.marks t) ∧
    (∀ (env : Environment) (i : Nat), env.fill t = (env.filled .code [] (t.take i)).1 ++
      env.fillFrom (Quoting.code.behind (t.take i)) (env.filled .code [] (t.take i)).2 (t.drop i)) ∧
    (∀ env : Environment, env.fill t = env.fillMarks [] (Text.marks t)) ∧
    (∀ tokens, Token.scan? t = some tokens →
      ∃ ls : List Token.Lexeme, Token.Lexeme.IsSeries ls ∧ t = ls.flatMap Token.Lexeme.text ∧
        tokens = ls.flatMap Token.Lexeme.tokens) ∧
    ∀ ls : List Token.Lexeme, t = ls.flatMap Token.Lexeme.text →
      Text.marks t = ls.flatMap Token.Lexeme.marks := by
  rw [Text.marks_eq_scan]
  refine ⟨Quoting.getElem?_scan .code t, fun i => ?_, Line.cuts_eq_cutMarks .code t,
    fun env i => ?_, fun env => env.fillFrom_eq_fillMarks .code [] t, fun tokens htokens => ?_, ?_⟩
  · rw [← Line.cuts_append, List.take_append_drop]
  · rw [← Environment.fillFrom_append, List.take_append_drop]
    rfl
  · exact Token.scanFrom?_eq_some_iff.1 (Option.filter_eq_some_iff.1 htokens).1
  · rintro ls rfl
    rw [← Text.marks_eq_scan, Token.Lexeme.marks_flatMap_text]

/-- A sum with an escaped quote and a sign inside its literal. -/
theorem quote_scanners_agree_sum :
    ∃ ls : List Token.Lexeme, "'a\\'+' + b".toList = ls.flatMap Token.Lexeme.text ∧
      [Token.literal "a'+".toList, .sign '+', .name ['b']] = ls.flatMap Token.Lexeme.tokens ∧
      Text.marks "'a\\'+' + b".toList = ls.flatMap Token.Lexeme.marks := by
  obtain ⟨-, -, -, -, -, hscan, hmarks⟩ := quote_scanners_agree "'a\\'+' + b".toList
  obtain ⟨ls, -, htext, htokens⟩ := hscan [.literal "a'+".toList, .sign '+', .name ['b']] rfl
  exact ⟨ls, htext, htokens, hmarks ls htext⟩

end TapScript
