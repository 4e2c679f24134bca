import TapScript.Proofs.Separation

/-! # Clauses of a source text

The lines of a script are made in three steps. Each source line loses its comment; what is left is
cut at the braces and semicolons outside literals; and a brace that stands alone goes to the line
before it. The first two steps give the **clauses** of the source text, and only the third one looks
at more than one clause at a time.

* `Line.cuts_append` says how a text is cut that is put together from two.
* `Line.sourceClauses_newline`, `Line.sourceClauses_behind` and `Line.sourceClauses_before` are the
  places at which a source text falls into two parts whose clauses can be told one by one.
* `Line.map_text_ofSource` says that the texts of a script are made from the clauses alone. -/

namespace TapScript

namespace Text.Mark

/-- Glueing leaves alone all but the last of the first parts. -/
theorem glue_append_left (xs : List Text) {ys : List Text} (hys : ys ≠ []) (zs : List Text) :
    glue (xs ++ ys) zs = xs ++ glue ys zs := by
  induction xs with
  | nil => rfl
  | cons x xs ih => rw [List.cons_append, glue_cons x (by simp [hys]), ih, List.cons_append]

/-- Glueing leaves alone all but the first of the second parts. -/
theorem glue_append_right (xs : List Text) {ys : List Text} (hys : ys ≠ []) (zs : List Text) :
    glue xs (ys ++ zs) = glue xs ys ++ zs := by
  cases ys with
  | nil => exact absurd rfl hys
  | cons y ys =>
    induction xs with
    | nil => rfl
    | cons x xs ih =>
      cases xs with
      | nil => rfl
      | cons x' xs => rw [glue_cons x (by simp), glue_cons x (by simp), ih, List.cons_append]

/-- An empty part in front is glued without a trace. -/
theorem glue_nil (ys : List Text) : glue [[]] ys = ys := by
  cases ys <;> rfl

end Text.Mark

namespace Line

open Text (Quoting)

/-! ## Cutting a text -/

/-- The pieces of a text that is read from `q` on, in one list. -/
def cuts (q : Quoting) (t : Text) : List Text := (pieces q t).1 :: (pieces q t).2

/-- The characters at which a text is cut where they stand in code. -/
def isCut (c : Char) : Bool := c == '{' || c == '}' || c == ';'

/-- What a cut leaves in front of it: the end of the piece that is cut off, and the piece that the
character is. -/
def severed (c : Char) : List Text :=
  if c == '{' then [['{']] else if c == '}' then [[], ['}']] else [[]]

/-- The empty text is one piece. -/
@[simp] theorem cuts_nil (q : Quoting) : cuts q [] = [[]] := by simp [cuts]

/-- A text has at least one piece. -/
theorem cuts_ne_nil (q : Quoting) (t : Text) : cuts q t ≠ [] := by simp [cuts]

/-- There are three characters at which a text is cut. -/
theorem eq_of_isCut {c : Char} (h : isCut c) : c = '{' ∨ c = '}' ∨ c = ';' := by
  simpa [isCut, or_assoc] using h

/-- A text is not cut at quotes. -/
theorem isQuote_of_isCut {c : Char} (h : isCut c) : Text.isQuote c = false := by
  rcases eq_of_isCut h with rfl | rfl | rfl <;> rfl

/-- Behind a character at which the text is cut there is still code. -/
theorem step_code_of_isCut {c : Char} (h : isCut c) : Quoting.code.step c = .code := by
  rw [Quoting.step, isQuote_of_isCut h]
  rfl

/-- There is just one state in which the scanner reads code. -/
theorem eq_code_of_isCode {q : Quoting} (h : q.isCode) : q = .code := by
  cases q with
  | code => rfl
  | literal => cases h
  | escaped => cases h

/-- A cut leaves at least the end of a piece in front of it. -/
theorem severed_ne_nil (c : Char) : severed c ≠ [] := by
  unfold severed
  split
  · simp
  · split <;> simp

/-- Where a text is cut, a new piece begins behind the character. -/
theorem cuts_cons_of_isCut {c : Char} (h : isCut c) (t : Text) :
    cuts .code (c :: t) = severed c ++ cuts .code t := by
  rcases eq_of_isCut h with rfl | rfl | rfl <;> rfl

/-- Where a text is not cut, the character goes to the first piece of the rest. -/
theorem cuts_cons {q : Quoting} {c : Char} (h : (q.isCode && isCut c) = false) (t : Text) :
    cuts q (c :: t) = (cuts (q.step c) t).modifyHead (c :: ·) := by
  have hne : ∀ d, isCut d → (q.isCode && c == d) = false := by
    intro d hd
    cases hq : q.isCode with
    | false => rfl
    | true =>
      rw [hq, Bool.true_and] at h
      simp only [Bool.true_and, beq_eq_false_iff_ne]
      rintro rfl
      rw [hd] at h
      cases h
  simp only [cuts, pieces, hne '{' rfl, hne '}' rfl, hne ';' rfl, List.modifyHead_cons]
  rfl

/-- A text that is put together from two is cut as its parts are, but for the piece that reaches
over the border. -/
theorem cuts_append (q : Quoting) (s t : Text) :
    cuts q (s ++ t) = Text.Mark.glue (cuts q s) (cuts (q.behind s) t) := by
  induction s generalizing q with
  | nil => rw [List.nil_append, cuts_nil, Quoting.behind_nil, Text.Mark.glue_nil]
  | cons c s ih =>
    rw [List.cons_append, Quoting.behind_cons]
    cases hcut : q.isCode && isCut c with
    | true =>
      -- behind a cut the scan is in code again, and the pieces before it are complete
      rw [Bool.and_eq_true] at hcut
      rw [eq_code_of_isCode hcut.1, cuts_cons_of_isCut hcut.2, cuts_cons_of_isCut hcut.2, ih,
        step_code_of_isCut hcut.2, Text.Mark.glue_append_left _ (cuts_ne_nil _ _)]
    | false => rw [cuts_cons hcut, cuts_cons hcut, ih, Text.Mark.glue_modifyHead (cuts_ne_nil _ _)]

/-! ## Clauses of a source line -/

/-- The pieces without the blanks around them. Blank ones are left out. -/
def shown (ps : List Text) : List Text := (ps.map Text.trim).filter fun t => !t.isEmpty

/-- The clauses of a source line. -/
def clauses (raw : Text) : List Text := shown (cuts .code (withoutComment raw))

/-- Without pieces nothing is shown. -/
@[simp] theorem shown_nil : shown [] = [] := rfl

/-- Pieces are shown one after the other. -/
theorem shown_append (ps ps' : List Text) : shown (ps ++ ps') = shown ps ++ shown ps' := by
  rw [shown, List.map_append, List.filter_append, shown, shown]

/-- An empty piece is not shown. -/
@[simp] theorem shown_nil_cons (ps : List Text) : shown ([] :: ps) = shown ps := rfl

/-- Blanks behind the last piece are no matter, nor is what follows them a part of it. -/
theorem shown_glue {ps : List Text} (hps : ps ≠ []) {b : Text} (hb : ∀ c ∈ b, Text.isBlank c)
    (ps' : List Text) : shown (Text.Mark.glue ps (b :: ps')) = shown ps ++ shown ps' := by
  rw [shown, Text.map_trim_glue hps hb, List.filter_append, shown, shown]

/-- The two slashes of a comment are a symbol, so literals may hold them. -/
theorem isSymbol_comment : Text.isSymbol ['/', '/'] = true := rfl

/-- A text without slashes outside literals has no comment to be dropped. -/
theorem withoutComment_of_not_occurs {t : Text} (h : ¬Text.Occurs ['/', '/'] t) :
    withoutComment t = t := by
  rw [withoutComment, (Text.find?_eq_none_iff isSymbol_comment).2 h]

/-- A comment behind a place in code begins where it begins in the rest of the line. -/
theorem withoutComment_append {u : Text} (hu : Text.isClosed u)
    (hcomment : ¬Text.Occurs ['/', '/'] u) {c : Char} (hc : isCut c) (v : Text) :
    withoutComment (u ++ c :: v) = u ++ c :: withoutComment v := by
  have hmem : c ∉ ['/', '/'] := by
    rcases eq_of_isCut hc with rfl | rfl | rfl <;> decide
  have hnone : Text.Mark.find? ['/', '/'] (Text.marks u) = none :=
    (Text.find?_eq_none_iff isSymbol_comment).2 hcomment
  rw [withoutComment, withoutComment, Text.find?, Text.find?, Text.marks_append_cons hu
    (isQuote_of_isCut hc), Text.Mark.find?_append (by simp) hmem, hnone]
  cases Text.Mark.find? ['/', '/'] (Text.marks v) with
  | none => rfl
  | some found =>
    show Text.chars (Text.marks u) ++ c :: found.1 = u ++ c :: found.1
    rw [Text.chars_marks]

section Place

variable {u : Text} (hu : Text.isClosed u) (hcomment : ¬Text.Occurs ['/', '/'] u) {c : Char}
  (hc : isCut c)

include hu hcomment hc

/-- Behind a cut in code, the comment is looked for in the rest alone. -/
theorem cuts_withoutComment (v : Text) : cuts .code (withoutComment (u ++ c :: v)) =
    Text.Mark.glue (cuts .code u) (severed c ++ cuts .code (withoutComment v)) := by
  rw [withoutComment_append hu hcomment hc, cuts_append, Text.behind_eq_code hu,
    cuts_cons_of_isCut hc]

/-- What follows a cut has its own clauses. -/
theorem clauses_behind (v : Text) : clauses (u ++ c :: v) = clauses (u ++ [c]) ++ clauses v := by
  have hempty : cuts .code (withoutComment []) = [[]] := rfl
  rw [clauses, clauses, clauses, cuts_withoutComment hu hcomment hc, cuts_withoutComment hu
    hcomment hc, hempty, Text.Mark.glue_append_right _ (severed_ne_nil c),
    Text.Mark.glue_append_right _ (severed_ne_nil c), shown_append, shown_append, shown_nil_cons,
    shown_nil, List.append_nil]

/-- A `}` or `;` has no part in what stands in front of it. -/
theorem clauses_before (hopen : c ≠ '{') (v : Text) :
    clauses (u ++ c :: v) = clauses u ++ clauses (c :: v) := by
  -- only a `{` is part of the piece that it ends
  obtain ⟨others, hothers⟩ : ∃ others, severed c = [] :: others := by
    rcases eq_of_isCut hc with rfl | rfl | rfl
    · exact absurd rfl hopen
    · exact ⟨[['}']], rfl⟩
    · exact ⟨[], rfl⟩
  have hblank : ∀ d ∈ ([] : Text), Text.isBlank d := fun d hd => absurd hd List.not_mem_nil
  have hnil : clauses (c :: v) = shown (others ++ cuts .code (withoutComment v)) := by
    have hcuts := cuts_withoutComment (u := []) rfl (by rintro ⟨a, b, h, -⟩; simp at h) hc v
    rw [cuts_nil, Text.Mark.glue_nil, hothers] at hcuts
    rw [clauses, ← List.nil_append (c :: v), hcuts]
    rfl
  rw [hnil, clauses, cuts_withoutComment hu hcomment hc, hothers, List.cons_append,
    shown_glue (cuts_ne_nil _ _) hblank, clauses, withoutComment_of_not_occurs hcomment]

end Place

/-- A carriage return at the end of a source line is in none of its clauses. -/
theorem clauses_dropReturn (raw : Text) : clauses (dropReturn raw) = clauses raw := by
  unfold dropReturn
  cases hreturn : Text.before? ['\r'] raw with
  | none => rfl
  | some t =>
    rw [Option.getD_some, Text.before?_eq_some.1 hreturn]
    have hmem : '\r' ∉ ['/', '/'] := by decide
    have hblank : ∀ c ∈ ['\r'], Text.isBlank c := by simp [Text.isBlank]
    -- the literal that is open at the end, if there is one, does not matter to the search for a
    -- comment
    have hscan : Text.marks (t ++ ['\r']) = Text.marks t ++
        [⟨'\r', (Quoting.code.behind t).isCode⟩] := by
      rw [Text.marks_eq_scan, Quoting.scan_append, ← Text.marks_eq_scan]
      simp [Quoting.scan, Text.isQuote]
    have hcuts : ∀ q : Quoting, cuts q ['\r'] = [['\r']] := by
      intro q
      rw [cuts_cons (by simp [isCut]), cuts_nil]
      rfl
    rw [clauses, clauses, withoutComment, withoutComment, Text.find?, Text.find?, hscan,
      Text.Mark.find?_append (by simp) hmem]
    cases Text.Mark.find? ['/', '/'] (Text.marks t) with
    | some found => rfl
    | none =>
      show shown (cuts .code t) = shown (cuts .code (t ++ ['\r']))
      rw [cuts_append, hcuts, shown_glue (cuts_ne_nil _ _) hblank, shown_nil, List.append_nil]

/-! ## Clauses of a source text -/

/-- The clauses of all lines of a source text. -/
def sourceClauses (source : Text) : List Text := (sourceLines source).flatMap clauses

/-- The rows of a source text: what stands between its line feeds. -/
def rows (source : Text) : List Text := (Text.fields '\n' source).1 :: (Text.fields '\n' source).2

/-- A line feed in front ends an empty row. -/
@[simp] theorem rows_cons_newline (t : Text) : rows ('\n' :: t) = [] :: rows t := rfl

/-- Any other character in front belongs to the first row. -/
theorem rows_cons {c : Char} (hc : c ≠ '\n') (t : Text) :
    rows (c :: t) = (rows t).modifyHead (c :: ·) := by
  simp [rows, Text.fields, hc]

/-- The rows of two texts with a line feed between them are the rows of both. -/
theorem rows_newline (u v : Text) : rows (u ++ '\n' :: v) = rows u ++ rows v := by
  induction u with
  | nil => rfl
  | cons c u ih =>
    by_cases hc : c = '\n'
    · subst hc
      rw [List.cons_append, rows_cons_newline, rows_cons_newline, ih, List.cons_append]
    · rw [List.cons_append, rows_cons hc, rows_cons hc, ih]
      rfl

/-- A text without line feeds is one row. -/
theorem rows_of_not_mem {t : Text} (h : '\n' ∉ t) : rows t = [t] := by
  induction t with
  | nil => rfl
  | cons c t ih =>
    simp only [List.mem_cons, not_or] at h
    rw [rows_cons (Ne.symm h.1), ih h.2]
    rfl

/-- Neither carriage returns at the ends of lines nor an empty last line matter to the clauses. -/
theorem flatMap_clauses_ended (first : Text) (others : List Text) :
    (ended first others).flatMap clauses = (first :: others).flatMap clauses := by
  induction others generalizing first with
  | nil =>
    cases first with
    | nil => rfl
    | cons c t => rfl
  | cons next others ih => rw [ended, List.flatMap_cons, List.flatMap_cons, ih, clauses_dropReturn]

/-- The clauses of a source text are those of its rows. -/
theorem sourceClauses_eq (source : Text) : sourceClauses source = (rows source).flatMap clauses :=
  flatMap_clauses_ended _ _

/-- At the end of a row nothing is carried over to the next one. -/
theorem sourceClauses_newline (u v : Text) :
    sourceClauses (u ++ '\n' :: v) = sourceClauses u ++ sourceClauses v := by
  rw [sourceClauses_eq, rows_newline, List.flatMap_append, ← sourceClauses_eq, ← sourceClauses_eq]

/-- The clauses of a text without line feeds are those of one line. -/
theorem sourceClauses_of_not_mem {t : Text} (h : '\n' ∉ t) : sourceClauses t = clauses t := by
  rw [sourceClauses_eq, rows_of_not_mem h, List.flatMap_cons, List.flatMap_nil, List.append_nil]

/-- The last row of a text. -/
def lastRow (u : Text) : Text := (u.reverse.takeWhile (· != '\n')).reverse

/-- The place behind the text lies outside literals and comments. Both end with the row in which
they begin. -/
structure InCode (u : Text) : Prop where
  closed : Text.isClosed (lastRow u)
  uncommented : ¬Text.Occurs ['/', '/'] (lastRow u)

instance (u : Text) : Decidable (InCode u) :=
  decidable_of_iff (Text.isClosed (lastRow u) ∧ Text.find? ['/', '/'] (lastRow u) = none)
    ⟨fun h => ⟨h.1, (Text.find?_eq_none_iff isSymbol_comment).1 h.2⟩,
      fun h => ⟨h.closed, (Text.find?_eq_none_iff isSymbol_comment).2 h.uncommented⟩⟩

/-- There is no line feed in the last row. -/
theorem not_mem_lastRow (u : Text) : '\n' ∉ lastRow u := by
  intro h
  have hne := List.all_eq_true.1 List.all_takeWhile '\n' (List.mem_reverse.1 h)
  simp at hne

/-- A text is its last row, with other rows in front of it or not. -/
theorem eq_lastRow (u : Text) : u = lastRow u ∨ ∃ above, u = above ++ '\n' :: lastRow u := by
  have hsplit := List.takeWhile_append_dropWhile (p := (· != '\n')) (l := u.reverse)
  have hu := congrArg List.reverse hsplit
  rw [List.reverse_append, List.reverse_reverse] at hu
  cases hdrop : u.reverse.dropWhile (· != '\n') with
  | nil =>
    rw [hdrop] at hu
    exact .inl hu.symm
  | cons c above =>
    have hc : c = '\n' := by
      have hhead := List.head?_dropWhile_not (· != '\n') u.reverse
      rw [hdrop] at hhead
      simpa using hhead
    rw [hdrop, hc, List.reverse_cons, List.append_assoc] at hu
    exact .inr ⟨above.reverse, hu.symm⟩

/-- The rows in front of a place have their own clauses. -/
theorem sourceClauses_lastRow (u : Text) :
    ∃ above, ∀ w, sourceClauses (u ++ w) = above ++ sourceClauses (lastRow u ++ w) := by
  rcases eq_lastRow u with h | ⟨above, h⟩
  · exact ⟨[], fun w => by rw [← h, List.nil_append]⟩
  · refine ⟨sourceClauses above, fun w => ?_⟩
    rw [← sourceClauses_newline, ← List.cons_append, ← List.append_assoc, ← h]

/-- So have the rows behind it. -/
theorem sourceClauses_firstRow (v : Text) :
    ∃ row below, '\n' ∉ row ∧ ∀ w, sourceClauses (w ++ v) = sourceClauses (w ++ row) ++ below := by
  induction v with
  | nil => exact ⟨[], [], by simp, fun w => by simp⟩
  | cons c v ih =>
    by_cases hc : c = '\n'
    · subst hc
      exact ⟨[], sourceClauses v, by simp, fun w => by rw [sourceClauses_newline, List.append_nil]⟩
    · obtain ⟨row, below, hrow, hv⟩ := ih
      refine ⟨c :: row, below, by simp [hrow, Ne.symm hc], fun w => ?_⟩
      rw [List.append_cons, hv, ← List.append_cons]

/-- What holds of a place for every rest of its row holds of it for every rest of the source. -/
theorem sourceClauses_of_rows {u a b d : Text}
    (h : ∀ row, '\n' ∉ row → sourceClauses (lastRow u ++ (a ++ row)) =
      sourceClauses (lastRow u ++ b) ++ sourceClauses (d ++ row)) (v : Text) :
    sourceClauses (u ++ (a ++ v)) = sourceClauses (u ++ b) ++ sourceClauses (d ++ v) := by
  obtain ⟨above, habove⟩ := sourceClauses_lastRow u
  obtain ⟨row, below, hrow, hbelow⟩ := sourceClauses_firstRow v
  calc sourceClauses (u ++ (a ++ v))
      = above ++ (sourceClauses (lastRow u ++ (a ++ row)) ++ below) := by
        rw [habove, ← List.append_assoc, hbelow, List.append_assoc]
    _ = (above ++ sourceClauses (lastRow u ++ b)) ++ (sourceClauses (d ++ row) ++ below) := by
        simp only [h row hrow, List.append_assoc]
    _ = sourceClauses (u ++ b) ++ sourceClauses (d ++ v) := by rw [← habove, ← hbelow]

section Place

variable {u : Text} (hu : InCode u) {c : Char} (hc : isCut c)

include hc

/-- A text is not cut at line feeds. -/
theorem not_mem_cons_of_isCut {row : Text} (hrow : '\n' ∉ row) : '\n' ∉ c :: row := by
  rcases eq_of_isCut hc with rfl | rfl | rfl <;> simpa using hrow

/-- The last row and what follows it up to a line feed are one line. -/
theorem sourceClauses_lastRow_cons {row : Text} (hrow : '\n' ∉ row) :
    sourceClauses (lastRow u ++ c :: row) = clauses (lastRow u ++ c :: row) := by
  refine sourceClauses_of_not_mem fun h => ?_
  rcases List.mem_append.1 h with h | h
  · exact not_mem_lastRow u h
  · exact not_mem_cons_of_isCut hc hrow h

include hu

/-- What follows a cut has its own clauses. -/
theorem sourceClauses_behind (v : Text) :
    sourceClauses (u ++ c :: v) = sourceClauses (u ++ [c]) ++ sourceClauses v := by
  refine sourceClauses_of_rows (a := [c]) (b := [c]) (d := []) (fun row hrow => ?_) v
  show sourceClauses (lastRow u ++ c :: row) = sourceClauses (lastRow u ++ [c]) ++ sourceClauses row
  rw [sourceClauses_lastRow_cons hc hrow, sourceClauses_lastRow_cons hc List.not_mem_nil,
    sourceClauses_of_not_mem hrow, clauses_behind hu.closed hu.uncommented hc]

/-- A `}` or `;` has no part in what stands in front of it. -/
theorem sourceClauses_before (hopen : c ≠ '{') (v : Text) :
    sourceClauses (u ++ c :: v) = sourceClauses u ++ sourceClauses (c :: v) := by
  have hplace := sourceClauses_of_rows (u := u) (a := [c]) (b := []) (d := [c])
    (fun row hrow => ?_) v
  · rwa [List.append_nil] at hplace
  show sourceClauses (lastRow u ++ c :: row) = sourceClauses (lastRow u ++ []) ++
    sourceClauses (c :: row)
  rw [sourceClauses_lastRow_cons hc hrow, List.append_nil, sourceClauses_of_not_mem
    (not_mem_lastRow u), sourceClauses_of_not_mem (not_mem_cons_of_isCut hc hrow),
    clauses_before hu.closed hu.uncommented hc hopen]

end Place

/-! ## From clauses to lines -/

/-- Whether a `{` that stands alone can belong to a line with this text. -/
def awaitsBrace (t : Text) : Bool := t != closer && t.getLast? != some '{'

/-- The texts with one more clause, newest first. A `{` alone goes to the text before it, if that
one awaits it. -/
def addClause : List Text → Text → List Text
  | [], c => [c]
  | previous :: rest, c =>
    if c == ['{'] && awaitsBrace previous then (previous ++ [' ', '{']) :: rest
    else c :: previous :: rest

/-- The texts of the lines that the clauses make. -/
def assembled (cs : List Text) : List Text := (cs.foldl addClause []).reverse

/-- All that can become of a piece: it is dropped, it joins the newest line, or it is the newest
line. -/
theorem push_cases (lines : List Line) (number : Nat) (piece : Text) :
    (Text.trim piece = [] ∧ push lines number piece = lines) ∨
    (∃ previous rest, lines = previous :: rest ∧ Text.trim piece = ['{'] ∧
      awaitsBrace previous.text ∧
      push lines number piece = { previous with text := previous.text ++ [' ', '{'] } :: rest) ∨
    (Text.trim piece ≠ [] ∧
      (∀ previous ∈ lines.head?, Text.trim piece = ['{'] → awaitsBrace previous.text = false) ∧
      push lines number piece = ⟨number, Text.trim piece⟩ :: lines) := by
  unfold push
  by_cases hblank : Text.trim piece = []
  · exact .inl ⟨hblank, by simp [hblank]⟩
  · rw [if_neg (by simpa using hblank)]
    cases lines with
    | nil => exact .inr (.inr ⟨hblank, by simp, rfl⟩)
    | cons previous rest =>
      dsimp only
      split
      · rename_i hjoins
        rw [Bool.and_eq_true, beq_iff_eq] at hjoins
        exact .inr (.inl ⟨previous, rest, rfl, hjoins.1, hjoins.2, rfl⟩)
      · rename_i hjoins
        refine .inr (.inr ⟨hblank, ?_, rfl⟩)
        rintro previous' ⟨⟩ hbrace
        rw [hbrace, beq_self_eq_true, Bool.true_and, Bool.not_eq_true] at hjoins
        exact hjoins

/-- A brace alone is put behind the text that awaits it. -/
theorem addClause_of_awaits {previous : Text} (h : awaitsBrace previous) (rest : List Text) :
    addClause (previous :: rest) ['{'] = (previous ++ [' ', '{']) :: rest := by
  rw [addClause, h]
  rfl

/-- Any other clause is a text of its own. -/
theorem addClause_of_not_awaits {ts : List Text} {c : Text}
    (h : ∀ previous ∈ ts.head?, c = ['{'] → awaitsBrace previous = false) :
    addClause ts c = c :: ts := by
  cases ts with
  | nil => rfl
  | cons previous rest =>
    refine if_neg fun hjoins => ?_
    rw [Bool.and_eq_true, beq_iff_eq] at hjoins
    rw [h previous rfl hjoins.1] at hjoins
    cases hjoins.2

/-- A piece that is pushed adds its clause to the texts of the lines, if it is shown. -/
theorem map_text_push (lines : List Line) (number : Nat) (piece : Text) :
    (push lines number piece).map Line.text = (shown [piece]).foldl addClause
      (lines.map Line.text) := by
  rcases push_cases lines number piece with ⟨hblank, hpush⟩ | ⟨previous, rest, rfl, hbrace,
    hawaits, hpush⟩ | ⟨hne, hfirst, hpush⟩
  · simp [hpush, shown, hblank]
  · have hshown : shown [piece] = [['{']] := by simp [shown, hbrace]
    rw [hpush, hshown]
    exact (addClause_of_awaits hawaits _).symm
  · have hshown : shown [piece] = [Text.trim piece] := by simp [shown, hne]
    rw [hpush, hshown, List.foldl_cons, List.foldl_nil, addClause_of_not_awaits]
    · rfl
    · intro previous hprevious
      rw [List.head?_map, Option.mem_def, Option.map_eq_some_iff] at hprevious
      obtain ⟨line, hline, rfl⟩ := hprevious
      exact hfirst line hline

/-- Pieces that are pushed one after the other add their clauses. -/
theorem map_text_foldl_push (number : Nat) (ps : List Text) (lines : List Line) :
    (ps.foldl (fun lines piece => push lines number piece) lines).map Line.text =
      (shown ps).foldl addClause (lines.map Line.text) := by
  induction ps generalizing lines with
  | nil => rfl
  | cons p ps ih =>
    rw [List.foldl_cons, ih, map_text_push, ← List.foldl_append, ← shown_append]
    rfl

/-- Source lines that are read one after the other add their clauses. -/
theorem map_text_addSource (number : Nat) (raws : List Text) (lines : List Line) :
    (addSource lines number raws).map Line.text = (raws.flatMap clauses).foldl addClause
      (lines.map Line.text) := by
  induction raws generalizing number lines with
  | nil => rfl
  | cons raw raws ih =>
    have hpush : (pushSource lines number raw).map Line.text = (clauses raw).foldl addClause
        (lines.map Line.text) :=
      map_text_foldl_push number (cuts .code (withoutComment raw)) lines
    rw [addSource, ih, hpush, List.flatMap_cons, List.foldl_append]

/-- The texts of a script are made from the clauses of its source, wherever these stand. -/
theorem map_text_ofSource (source : Text) :
    (ofSource source).map Line.text = assembled (sourceClauses source) := by
  rw [ofSource, List.map_reverse, map_text_addSource]
  rfl

end Line

end TapScript
