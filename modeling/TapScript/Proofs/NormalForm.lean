import Mathlib.Data.List.Forall2
import TapScript.Proofs.Clauses

/-! # The normal form of scripts

Whatever the source text is, the lines of a script have a simple form: a `{` outside literals ends
its line, a `}` is a line, and neither semicolons nor comments are left. And the lines hold what the
source held: but for blanks, comments and the semicolons between statements, every character of the
source is in them once and in its place.

* `Line.IsNormal` is the form of a line's text.
* `Line.cuts_isPiece` says what the pieces of a text are and where in the text they stand.
* `Line.Numbered` is what the numbers of the lines keep to while lines are added.
* `Line.ofSource_normal_and_conserving` puts all of this together. -/

namespace TapScript

/-! ## Comments -/

namespace Text

namespace Mark

/-- What is found begins no later than the first place where the pattern is known to stand. -/
theorem length_le_of_find? {p before behind rest : Text} {ms ms' : List Mark}
    (h : find? p (ms ++ ms') = some (before, behind)) (h' : find? p ms' = some ([], rest)) :
    before.length ≤ ms.length := by
  induction ms generalizing before with
  | nil =>
    rw [List.nil_append, h'] at h
    cases h
    exact Nat.le_refl 0
  | cons m ms ih =>
    rw [List.cons_append, find?] at h
    split at h
    · cases h
      exact Nat.zero_le _
    · obtain ⟨⟨before', behind'⟩, hfound, heq⟩ := Option.map_eq_some_iff.1 h
      cases heq
      exact Nat.succ_le_succ (ih hfound)

/-- What is found stands outside literals, with the pattern between what is before it and what is
behind it. -/
theorem exists_of_find? {p before behind : Text} {ms : List Mark}
    (h : find? p ms = some (before, behind)) :
    ∃ ms₁ m ms₂, ms = ms₁ ++ m :: ms₂ ∧ chars ms₁ = before ∧ m.outside ∧
      chars (m :: ms₂) = p ++ behind := by
  induction ms generalizing before with
  | nil => cases h
  | cons m ms ih =>
    rw [find?] at h
    split at h
    · rename_i hfound
      rw [Bool.and_eq_true] at hfound
      cases h
      refine ⟨[], m, ms, rfl, rfl, hfound.1, ?_⟩
      have hdrop := List.prefix_iff_eq_append.1 (startWith_iff.1 hfound.2)
      rw [← hdrop, chars, chars, List.map_drop]
    · obtain ⟨⟨before', behind'⟩, hfound, heq⟩ := Option.map_eq_some_iff.1 h
      cases heq
      obtain ⟨ms₁, m', ms₂, rfl, rfl, hrest⟩ := ih hfound
      exact ⟨m :: ms₁, m', ms₂, rfl, rfl, hrest⟩

end Mark

/-- What is found of a symbol is its first occurrence. -/
theorem find?_eq_some {p t before behind : Text} (hp : isSymbol p)
    (h : find? p t = some (before, behind)) :
    t = before ++ p ++ behind ∧ isClosed before ∧
      ∀ u v, t = u ++ p ++ v → isClosed u → before.length ≤ u.length := by
  obtain ⟨ms₁, m, ms₂, hms, hbefore, hm, hbehind⟩ := Mark.exists_of_find? h
  obtain ⟨u, v, ht, hu, hmarks, hmarks'⟩ := marks_eq_append hms hm
  rw [← hmarks, chars_marks] at hbefore
  subst hbefore
  rw [chars_cons, ← hmarks', chars_marks] at hbehind
  refine ⟨by rw [ht, hbehind, List.append_assoc], hu, fun u' v' ht' hu' => ?_⟩
  rw [find?, ht', List.append_assoc, marks_append hu',
    marks_append (isClosed_of_isPlain (isPlain_of_isSymbol hp)), marks_of_isSymbol hp] at h
  have hle := Mark.length_le_of_find? h (Mark.find?_self (ne_nil_of_isSymbol hp) _)
  rwa [length_marks] at hle

/-- A symbol does not reach into characters that are not part of it. -/
theorem Occurs.of_append {p s t : Text} (hp : p ≠ []) (ht : ∀ c ∈ t, c ∉ p)
    (h : Occurs p (s ++ t)) : Occurs p s := by
  obtain ⟨u, v, heq, hu⟩ := h
  rcases List.append_eq_append_iff.1 heq with ⟨a, ha, ht'⟩ | ⟨b, hb, -⟩
  · -- the last character of the symbol would stand in `t`
    cases hlast : a.getLast? with
    | none =>
      rw [List.getLast?_eq_none_iff.1 hlast, List.append_nil] at ha
      exact ⟨u, [], by rw [ha, List.append_nil], hu⟩
    | some c =>
      have hlast' := congrArg List.getLast? ha
      rw [List.getLast?_append_of_ne_nil _ hp, List.getLast?_append, hlast,
        Option.some_or] at hlast'
      refine absurd (List.mem_of_getLast? hlast') (ht c ?_)
      rw [ht']
      exact List.mem_append_left _ (List.mem_of_getLast? hlast)
  · exact ⟨u, b, hb, hu⟩

/-- A trimmed text has no blanks in front. -/
theorem trimStart_of_trim {t : Text} (h : trim t = t) : trimStart t = t := by
  obtain ⟨left, ht, -⟩ := exists_eq_trimStart t
  have hle := trimEnd_length_le (trimStart t)
  have hlength := congrArg List.length ht
  rw [← trim, h] at hle
  rw [List.length_append] at hlength
  have hleft : left = [] := List.eq_nil_of_length_eq_zero (by omega)
  rw [hleft, List.nil_append] at ht
  exact ht.symm

/-- The characters of the text that are no blanks. -/
def inked (t : Text) : Text := t.filter fun c => !isBlank c

/-- The ink of two texts is the ink of both. -/
@[simp] theorem inked_append (s t : Text) : inked (s ++ t) = inked s ++ inked t :=
  List.filter_append ..

/-- There is no ink on blanks. -/
theorem inked_of_blank {b : Text} (hb : ∀ c ∈ b, isBlank c) : inked b = [] :=
  List.filter_eq_nil_iff.2 fun c hc => by simp [hb c hc]

/-- Trimming keeps the ink. -/
theorem inked_trim (t : Text) : inked (trim t) = inked t := by
  obtain ⟨left, right, ht, hleft, hright⟩ := exists_eq_trim t
  have h := congrArg inked ht
  rw [inked_append, inked_append, inked_of_blank hleft, inked_of_blank hright, List.nil_append,
    List.append_nil] at h
  exact h.symm

/-- The ink of joined texts is the ink of all of them. -/
theorem inked_flatten (ts : List Text) : inked ts.flatten = ts.flatMap inked := by
  rw [inked, List.filter_flatten, ← List.flatMap_def]
  rfl

end Text

namespace Line

open Text (Quoting)

/-- The code of a source line: the line up to its first `//` outside literals, or all of it if there
is none. -/
inductive IsCode (raw : Text) : Text → Prop
  | whole (h : ¬Text.Occurs ['/', '/'] raw) : IsCode raw raw
  | commented {code comment : Text} (hraw : raw = code ++ ['/', '/'] ++ comment)
      (hclosed : Text.isClosed code) (hfirst : ¬Text.Occurs ['/', '/'] (code ++ ['/'])) :
      IsCode raw code

/-- What is left of a source line is its code. -/
theorem isCode_withoutComment (raw : Text) : IsCode raw (withoutComment raw) := by
  unfold withoutComment
  cases hfind : Text.find? ['/', '/'] raw with
  | none => exact .whole ((Text.find?_eq_none_iff isSymbol_comment).1 hfind)
  | some found =>
    obtain ⟨code, comment⟩ := found
    obtain ⟨hraw, hclosed, hfirst⟩ := Text.find?_eq_some isSymbol_comment hfind
    refine .commented hraw hclosed ?_
    -- an occurrence before the first one would have been found
    rintro ⟨u, v, hcode, hu⟩
    have hle :=
      hfirst u (v ++ '/' :: comment) (by simpa [hraw] using congrArg (· ++ '/' :: comment) hcode) hu
    have hlength := congrArg List.length hcode
    simp only [List.length_append, List.length_cons, List.length_nil] at hlength
    omega

/-- There is no comment in the code of a row. -/
theorem IsCode.not_occurs {raw code : Text} (h : IsCode raw code) :
    ¬Text.Occurs ['/', '/'] code := by
  cases h with
  | whole h => exact h
  | commented _ _ hfirst => exact fun hoccurs => hfirst (hoccurs.append_right _)

/-- The code of a row is the front of it. -/
theorem IsCode.isPrefix {raw code : Text} (h : IsCode raw code) : code <+: raw := by
  cases h with
  | whole => exact List.prefix_rfl
  | commented hraw => exact ⟨_, by rw [hraw, List.append_assoc]⟩

/-! ## Pieces -/

/-- Read from `q` on, the text would be cut at one place at most, behind a `{` that is its last
character. -/
def IsUncut (q : Quoting) (t : Text) : Prop :=
  ∀ u c v, t = u ++ c :: v → (q.behind u).isCode → isCut c → c = '{' ∧ v = []

/-- There is nothing to cut in the empty text. -/
theorem isUncut_nil (q : Quoting) : IsUncut q [] := by
  rintro u c v h
  simp at h

/-- An opening brace alone is cut at its end at most. -/
theorem isUncut_open (q : Quoting) : IsUncut q ['{'] := by
  rintro u c v h - -
  cases u with
  | nil =>
    cases h
    exact ⟨rfl, rfl⟩
  | cons d u => simp at h

/-- A character at which the text is not cut can be put in front. -/
theorem IsUncut.cons {q : Quoting} {c : Char} {t : Text} (hc : (q.isCode && isCut c) = false)
    (h : IsUncut (q.step c) t) : IsUncut q (c :: t) := by
  rintro u d v heq hcode hd
  cases u with
  | nil =>
    cases heq
    rw [Quoting.behind_nil] at hcode
    rw [hcode, hd] at hc
    cases hc
  | cons d' u =>
    rw [List.cons_append, List.cons.injEq] at heq
    obtain ⟨rfl, heq⟩ := heq
    exact h u d v heq hcode hd

/-- Trimming a text makes no new places to cut it. -/
theorem IsUncut.trim {t : Text} (h : IsUncut .code t) : IsUncut .code (Text.trim t) := by
  rintro u c v heq hcode hc
  obtain ⟨left, right, ht, hleft, -⟩ := Text.exists_eq_trim t
  have hclosed : Text.isClosed left := (Text.isWhole_of_blank hleft).closed
  obtain ⟨hopen, hv⟩ := h (left ++ u) c (v ++ right) (by rw [ht, heq]; simp)
    (by rw [Quoting.behind_append, Text.behind_eq_code hclosed]; exact hcode) hc
  exact ⟨hopen, (List.append_eq_nil_iff.1 hv).1⟩

/-- The piece stands in the text behind a place in code, and is a `}` or cannot be cut further. -/
def IsPiece (q : Quoting) (t p : Text) : Prop :=
  ∃ u v, t = u ++ p ++ v ∧ (q.behind u).isCode ∧ (p = closer ∨ IsUncut .code p)

/-- A piece is still one with another character in front of the text. -/
theorem IsPiece.cons {q : Quoting} {c : Char} {t p : Text} (h : IsPiece (q.step c) t p) :
    IsPiece q (c :: t) p := by
  obtain ⟨u, v, rfl, hcode, hp⟩ := h
  exact ⟨c :: u, v, rfl, hcode, hp⟩

/-- The first piece begins where the text begins, and all others begin in code. The induction is on
the text, with any state of the scan: behind a cut it is in code again. -/
theorem cuts_isPiece (q : Quoting) (t : Text) :
    ∃ first others, cuts q t = first :: others ∧ first <+: t ∧ IsUncut q first ∧
      ∀ p ∈ others, IsPiece q t p := by
  induction t generalizing q with
  | nil =>
    exact ⟨[], [], cuts_nil q, List.prefix_rfl, isUncut_nil q,
      fun p hp => absurd hp List.not_mem_nil⟩
  | cons c t ih =>
    cases hcut : q.isCode && isCut c with
    | false =>
      obtain ⟨first, others, hcuts, hfirst, huncut, hothers⟩ := ih (q.step c)
      refine ⟨c :: first, others, ?_, ?_, huncut.cons hcut, fun p hp => (hothers p hp).cons⟩
      · rw [cuts_cons hcut, hcuts, List.modifyHead_cons]
      · exact (List.prefix_cons_inj c).2 hfirst
    | true =>
      rw [Bool.and_eq_true] at hcut
      obtain ⟨hq, hc⟩ := hcut
      obtain rfl := eq_code_of_isCode hq
      obtain ⟨first, others, hcuts, ⟨v, hfirst⟩, huncut, hothers⟩ := ih .code
      have hstep := step_code_of_isCut hc
      -- what was the first piece of the rest comes behind the cut
      have hpieces : ∀ p ∈ first :: others, IsPiece .code (c :: t) p := by
        intro p hp
        rcases List.mem_cons.1 hp with rfl | hp
        · exact ⟨[c], v, by rw [← hfirst]; rfl, by rw [Quoting.behind_cons, hstep]; rfl,
            .inr huncut⟩
        · exact IsPiece.cons (hstep.symm ▸ hothers p hp)
      rw [cuts_cons_of_isCut hc, hcuts]
      rcases eq_of_isCut hc with rfl | rfl | rfl
      · exact ⟨['{'], first :: others, rfl, ⟨t, rfl⟩, isUncut_open _, hpieces⟩
      · refine ⟨[], ['}'] :: first :: others, rfl, List.nil_prefix, isUncut_nil _, fun p hp => ?_⟩
        rcases List.mem_cons.1 hp with rfl | hp
        · exact ⟨[], t, rfl, rfl, .inl rfl⟩
        · exact hpieces p hp
      · exact ⟨[], first :: others, rfl, List.nil_prefix, isUncut_nil _, hpieces⟩

/-- Cutting gives pieces. -/
theorem isPiece_of_mem_cuts {t p : Text} (h : p ∈ cuts .code t) : IsPiece .code t p := by
  obtain ⟨first, others, hcuts, ⟨v, hfirst⟩, huncut, hothers⟩ := cuts_isPiece .code t
  rw [hcuts] at h
  rcases List.mem_cons.1 h with rfl | h
  · exact ⟨[], v, hfirst.symm, rfl, .inr huncut⟩
  · exact hothers p h

/-- The pieces hold all that the text holds but for the semicolons in code. -/
theorem flatten_cuts (q : Quoting) (t : Text) :
    (cuts q t).flatten = Text.chars ((q.scan t).filter fun m => !m.is ';') := by
  induction t generalizing q with
  | nil =>
    rw [cuts_nil]
    rfl
  | cons c t ih =>
    cases hcut : q.isCode && isCut c with
    | true =>
      rw [Bool.and_eq_true] at hcut
      obtain rfl := eq_code_of_isCode hcut.1
      rw [cuts_cons_of_isCut hcut.2, List.flatten_append, ih, Quoting.scan,
        step_code_of_isCut hcut.2]
      rcases eq_of_isCut hcut.2 with rfl | rfl | rfl <;> rfl
    | false =>
      have hkept : (!Text.Mark.is ⟨c, q.isCode && !Text.isQuote c⟩ ';') = true := by
        cases hq : q.isCode with
        | false => rfl
        | true =>
          rw [hq, Bool.true_and] at hcut
          have hne : c ≠ ';' := by
            rintro rfl
            cases hcut
          simp [Text.Mark.is, hne]
      rw [cuts_cons hcut, Quoting.scan, List.filter_cons, if_pos hkept, Text.chars_cons, ← ih]
      rfl

/-! ## Normal texts -/

/-- The form of the text of a line. Braces, semicolons and comments count where they stand outside
literals. -/
structure IsNormal (t : Text) : Prop where
  ne_nil : t ≠ []
  trimmed : Text.trim t = t
  opensLast : ∀ u v, t = u ++ '{' :: v → Text.isClosed u → v = []
  closesAlone : ∀ u v, t = u ++ '}' :: v → Text.isClosed u → t = closer
  noSemicolon : ¬Text.Occurs [';'] t
  noComment : ¬Text.Occurs ['/', '/'] t
  oneRow : '\n' ∉ t

/-- A closing brace is a normal text. -/
theorem isNormal_closer : IsNormal closer where
  ne_nil := by decide
  trimmed := by decide
  opensLast u v h _ := by
    cases u with
    | nil => cases h
    | cons c u => simp [closer] at h
  closesAlone _ _ _ _ := rfl
  noSemicolon := (Text.find?_eq_none_iff rfl).1 rfl
  noComment := (Text.find?_eq_none_iff rfl).1 rfl
  oneRow := by decide

/-- A text that cannot be cut, with nothing to trim and no comment, is normal. -/
theorem isNormal_of_isUncut {t : Text} (hne : t ≠ []) (htrim : Text.trim t = t)
    (h : IsUncut .code t) (hcomment : ¬Text.Occurs ['/', '/'] t) (hrow : '\n' ∉ t) :
    IsNormal t where
  ne_nil := hne
  trimmed := htrim
  opensLast u v ht hu := (h u '{' v ht hu rfl).2
  closesAlone u v ht hu := absurd (h u '}' v ht hu rfl).1 (by decide)
  noSemicolon := by
    rintro ⟨u, v, ht, hu⟩
    rw [List.append_assoc] at ht
    exact absurd (h u ';' v ht hu rfl).1 (by decide)
  noComment := hcomment
  oneRow := hrow

/-- A normal text is a `}` or cannot be cut further. -/
theorem IsNormal.eq_closer_or_isUncut {t : Text} (h : IsNormal t) :
    t = closer ∨ IsUncut .code t := by
  by_cases hcloser : t = closer
  · exact .inl hcloser
  · refine .inr fun u c v ht hu hc => ?_
    rcases eq_of_isCut hc with rfl | rfl | rfl
    · exact ⟨rfl, h.opensLast u v ht hu⟩
    · exact absurd (h.closesAlone u v ht hu) hcloser
    · exact absurd ⟨u, v, by rw [ht, List.append_assoc]; rfl, hu⟩ h.noSemicolon

/-- A brace that comes to a normal text leaves it normal, also if a literal of the text is open and
takes it in. -/
theorem IsNormal.append_brace {t : Text} (h : IsNormal t) (hawaits : awaitsBrace t) :
    IsNormal (t ++ [' ', '{']) := by
  obtain ⟨hcloser, hlast⟩ := Bool.and_eq_true_iff.1 hawaits
  have huncut := h.eq_closer_or_isUncut.resolve_left (by simpa using hcloser)
  have hcomment : ¬Text.Occurs ['/', '/'] (t ++ [' ', '{']) :=
    fun hoccurs => h.noComment (hoccurs.of_append (by simp) (by simp))
  have hstart := Text.trimStart_of_trim h.trimmed
  refine isNormal_of_isUncut (by simp) ?_ ?_ hcomment (by simp [h.oneRow])
  · rw [Text.trim, Text.trimStart_append (by rw [hstart]; exact h.ne_nil), hstart,
      Text.trimEnd_append (by decide)]
    rfl
  · rintro u c v heq hcode hc
    rcases List.append_eq_append_iff.1 heq with ⟨a, rfl, ha⟩ | ⟨b, ht, hb⟩
    · cases a with
      | nil =>
        cases ha
        cases hc
      | cons d a =>
        cases a with
        | nil =>
          cases ha
          exact ⟨rfl, rfl⟩
        | cons d' a => simp at ha
    · cases b with
      | nil =>
        cases hb
        cases hc
      | cons d b =>
        -- the text would end with a brace already
        obtain ⟨rfl, rfl⟩ := List.cons.inj hb
        obtain ⟨rfl, rfl⟩ := huncut u c b ht hcode hc
        rw [ht, List.getLast?_concat] at hlast
        cases hlast

/-- The clauses of a row are normal. -/
theorem isNormal_of_mem_clauses {raw c : Text} (hraw : '\n' ∉ raw) (h : c ∈ clauses raw) :
    IsNormal c := by
  obtain ⟨hmem, hne⟩ := List.mem_filter.1 h
  obtain ⟨p, hp, rfl⟩ := List.mem_map.1 hmem
  obtain ⟨u, v, hcode, hu, hpiece⟩ := isPiece_of_mem_cuts hp
  have hisCode := isCode_withoutComment raw
  rcases hpiece with rfl | huncut
  · exact isNormal_closer
  · obtain ⟨left, right, htrim, hleft, -⟩ := Text.exists_eq_trim p
    have hpart : Text.trim p <:+: raw := by
      refine List.IsInfix.trans ⟨u ++ left, right ++ v, ?_⟩ hisCode.isPrefix.isInfix
      rw [hcode]
      conv => rhs; rw [htrim]
      simp
    refine isNormal_of_isUncut (by simpa using hne) (Text.trim_trim p) huncut.trim ?_
      fun hrow => hraw (hpart.mem hrow)
    -- what occurs in the trimmed piece occurs in the code around it
    intro hoccurs
    have hoccurs' : Text.Occurs ['/', '/'] p := by
      rw [htrim]
      exact (hoccurs.append_left (Text.isWhole_of_blank hleft).closed).append_right right
    refine hisCode.not_occurs ?_
    rw [hcode]
    exact (hoccurs'.append_left hu).append_right v

/-- There are no line feeds in rows. -/
theorem not_mem_of_mem_rows {source row : Text} (h : row ∈ rows source) : '\n' ∉ row := by
  induction source generalizing row with
  | nil =>
    obtain rfl : row = [] := by simpa [rows, Text.fields] using h
    exact List.not_mem_nil
  | cons c source ih =>
    by_cases hc : c = '\n'
    · subst hc
      rcases List.mem_cons.1 h with rfl | h
      · exact List.not_mem_nil
      · exact ih h
    · rw [rows_cons hc] at h
      rcases List.mem_cons.1 h with rfl | h
      · have hfirst := ih (List.mem_cons_self ..)
        simpa [Ne.symm hc] using hfirst
      · exact ih (List.mem_cons_of_mem _ h)

/-- Each source line is the front of a row. -/
theorem mem_ended {first raw : Text} {others : List Text} (h : raw ∈ ended first others) :
    ∃ row ∈ first :: others, raw <+: row := by
  induction others generalizing first with
  | nil =>
    rw [ended] at h
    split at h
    · cases h
    · exact ⟨first, by simp, List.mem_singleton.1 h ▸ List.prefix_rfl⟩
  | cons next others ih =>
    rcases List.mem_cons.1 h with rfl | h
    · refine ⟨first, by simp, ?_⟩
      unfold dropReturn
      cases hreturn : Text.before? ['\r'] first with
      | none => exact List.prefix_rfl
      | some t => exact ⟨['\r'], (Text.before?_eq_some.1 hreturn).symm⟩
    · obtain ⟨row, hrow, hraw⟩ := ih h
      exact ⟨row, List.mem_cons_of_mem _ hrow, hraw⟩

/-- The clauses of a source text are normal. -/
theorem isNormal_of_mem_sourceClauses {source c : Text} (h : c ∈ sourceClauses source) :
    IsNormal c := by
  obtain ⟨raw, hraw, hc⟩ := List.mem_flatMap.1 h
  obtain ⟨row, hrow, hraw⟩ := mem_ended hraw
  exact isNormal_of_mem_clauses (fun hmem => not_mem_of_mem_rows hrow (hraw.mem hmem)) hc

/-- Normal texts are so with one more clause, also if a brace joins one of them. -/
theorem isNormal_of_mem_addClause {ts : List Text} (hts : ∀ t ∈ ts, IsNormal t) {c : Text}
    (hc : IsNormal c) : ∀ t ∈ addClause ts c, IsNormal t := by
  intro t ht
  cases ts with
  | nil => exact List.mem_singleton.1 ht ▸ hc
  | cons previous rest =>
    rw [addClause] at ht
    split at ht
    · rename_i hjoins
      rcases List.mem_cons.1 ht with rfl | ht
      · exact (hts previous (by simp)).append_brace (Bool.and_eq_true_iff.1 hjoins).2
      · exact hts t (List.mem_cons_of_mem _ ht)
    · rcases List.mem_cons.1 ht with rfl | ht
      · exact hc
      · exact hts t ht

/-- The texts of a script are normal. -/
theorem isNormal_of_mem_texts {source t : Text} (h : t ∈ (ofSource source).map Line.text) :
    IsNormal t := by
  rw [map_text_ofSource, assembled, List.mem_reverse] at h
  refine List.foldlRecOn (sourceClauses source) addClause (motive := fun ts => ∀ t ∈ ts, IsNormal t)
    (by simp) ?_ t h
  exact fun ts hts c hc => isNormal_of_mem_addClause hts (isNormal_of_mem_sourceClauses hc)

/-! ## Conservation -/

/-- Of the pieces, only blanks are not shown. -/
theorem flatMap_inked_shown (ps : List Text) :
    (shown ps).flatMap Text.inked = ps.flatMap Text.inked := by
  induction ps with
  | nil => rfl
  | cons p ps ih =>
    rw [← List.singleton_append, shown_append, List.flatMap_append, ih, List.flatMap_append]
    congr 1
    cases hblank : (Text.trim p).isEmpty with
    | true =>
      have hnil : Text.inked p = [] := by rw [← Text.inked_trim, List.isEmpty_iff.1 hblank]; rfl
      simp [shown, hblank, hnil]
    | false => simp [shown, hblank, Text.inked_trim]

/-- A clause brings its characters to the end, also if it is a brace that goes to the text before
it. -/
theorem flatMap_inked_addClause (ts : List Text) (c : Text) :
    (addClause ts c).reverse.flatMap Text.inked =
      ts.reverse.flatMap Text.inked ++ Text.inked c := by
  cases ts with
  | nil => simp [addClause]
  | cons previous rest =>
    rw [addClause]
    split
    · rename_i hjoins
      have hc : c = ['{'] := by simpa using (Bool.and_eq_true_iff.1 hjoins).1
      have hbrace : Text.inked [' ', '{'] = Text.inked ['{'] := rfl
      simp [hc, hbrace]
    · simp

/-- The texts of clauses have the ink of the clauses. -/
theorem flatMap_inked_foldl (cs ts : List Text) :
    (cs.foldl addClause ts).reverse.flatMap Text.inked = ts.reverse.flatMap Text.inked ++
      cs.flatMap Text.inked := by
  induction cs generalizing ts with
  | nil => simp
  | cons c cs ih =>
    rw [List.foldl_cons, ih, flatMap_inked_addClause, List.flatMap_cons, List.append_assoc]

/-- What a text without comments says: its characters without blanks and without the semicolons
outside literals. -/
def matter (code : Text) : Text :=
  Text.inked (Text.chars ((Text.marks code).filter fun m => !m.is ';'))

/-- The clauses of a row say what its code says. -/
theorem flatMap_inked_clauses (raw : Text) :
    (clauses raw).flatMap Text.inked = matter (withoutComment raw) := by
  rw [clauses, flatMap_inked_shown, ← Text.inked_flatten, flatten_cuts, matter, Text.marks_eq_scan]

/-- The texts of a script hold what the code of its source says, once and in its order. -/
theorem inked_texts (source : Text) :
    Text.inked ((ofSource source).map Line.text).flatten =
      ((sourceLines source).map withoutComment).flatMap matter := by
  rw [Text.inked_flatten, map_text_ofSource, assembled, flatMap_inked_foldl, sourceClauses,
    List.flatMap_assoc, List.flatMap_map]
  simp only [flatMap_inked_clauses]
  rfl

/-! ## Line numbers -/

/-- Lines, newest first, whose numbers never decrease and lie between one and `n`. -/
structure Numbered (n : Nat) (lines : List Line) : Prop where
  sorted : lines.Pairwise fun line earlier => earlier.number ≤ line.number
  bounds : ∀ line ∈ lines, 1 ≤ line.number ∧ line.number ≤ n

/-- A later line may have the same bounds and more. -/
theorem Numbered.mono {m n : Nat} {lines : List Line} (h : Numbered m lines) (hmn : m ≤ n) :
    Numbered n lines :=
  ⟨h.sorted, fun line hline => ⟨(h.bounds line hline).1, Nat.le_trans (h.bounds line hline).2 hmn⟩⟩

/-- A piece of the newest line, or of a later one, keeps the numbers in order. -/
theorem Numbered.push {n : Nat} (hn : 1 ≤ n) {lines : List Line} (h : Numbered n lines)
    (piece : Text) : Numbered n (push lines n piece) := by
  rcases push_cases lines n piece with ⟨-, hpush⟩ | ⟨previous, rest, rfl, -, -,
    hpush⟩ | ⟨-, -, hpush⟩
  · rwa [hpush]
  · -- a line that takes the brace keeps the number it has
    rw [hpush]
    obtain ⟨hfirst, hrest⟩ := List.pairwise_cons.1 h.sorted
    refine ⟨List.pairwise_cons.2 ⟨hfirst, hrest⟩, ?_⟩
    intro line hline
    rcases List.mem_cons.1 hline with rfl | hline
    · exact h.bounds previous (List.mem_cons_self ..)
    · exact h.bounds line (List.mem_cons_of_mem _ hline)
  · rw [hpush]
    refine ⟨List.pairwise_cons.2 ⟨fun line hline => (h.bounds line hline).2, h.sorted⟩, ?_⟩
    intro line hline
    rcases List.mem_cons.1 hline with rfl | hline
    · exact ⟨hn, Nat.le_refl n⟩
    · exact h.bounds line hline

/-- Source lines that are read one after the other are numbered in order. -/
theorem Numbered.addSource {n : Nat} {lines : List Line} (h : Numbered n lines) (raws : List Text) :
    Numbered (n + raws.length) (addSource lines (n + 1) raws) := by
  induction raws generalizing n lines with
  | nil => exact h
  | cons raw raws ih =>
    have hpush : Numbered (n + 1) (pushSource lines (n + 1) raw) :=
      List.foldlRecOn _ _ (motive := Numbered (n + 1)) (h.mono (Nat.le_succ n))
        fun lines hlines piece _ =>
        hlines.push (Nat.le_add_left 1 n) piece
    have hnext := ih hpush
    rwa [List.length_cons, Nat.add_comm raws.length, ← Nat.add_assoc]

/-! ## The lines of a script -/

/-- Every line of a script is in normal form; the numbers of the lines never decrease and are
numbers of source lines; and the lines say what the code of the source lines says, so that no
statement is lost, doubled or moved. -/
theorem ofSource_normal_and_conserving (source : Text) :
    (∀ line ∈ ofSource source, IsNormal line.text ∧ 1 ≤ line.number ∧ line.number ≤
      (sourceLines source).length) ∧
    (ofSource source).Pairwise (fun line later => line.number ≤ later.number) ∧
    ∃ codes, List.Forall₂ IsCode (sourceLines source) codes ∧
      Text.inked ((ofSource source).map Line.text).flatten = codes.flatMap matter := by
  have hnumbered : Numbered (0 + (sourceLines source).length)
      (addSource [] (0 + 1) (sourceLines source)) :=
    Numbered.addSource ⟨.nil, by simp⟩ _
  rw [Nat.zero_add, Nat.zero_add] at hnumbered
  refine ⟨fun line hline => ?_, List.pairwise_reverse.2 hnumbered.sorted, _, ?_, inked_texts source⟩
  · exact ⟨isNormal_of_mem_texts (List.mem_map_of_mem hline), hnumbered.bounds line
      (List.mem_reverse.1 hline)⟩
  · exact List.forall₂_map_right_iff.2 (List.forall₂_same.2 fun raw _ => isCode_withoutComment raw)

/-- A brace on the second line goes to the first one, whose comment is gone. -/
theorem ofSource_normal_and_conserving_joined :
    let source := "f() // \x7d\n\x7b log('\x7d;') ; \x7d".toList
    let line : Line := ⟨1, "f() \x7b".toList⟩
    line ∈ ofSource source ∧ IsNormal line.text ∧ 1 ≤ line.number ∧
      line.number ≤ (sourceLines source).length := by
  intro source line
  have hline : line ∈ ofSource source := by decide +kernel
  exact ⟨hline, (ofSource_normal_and_conserving source).1 line hline⟩

end Line

end TapScript
