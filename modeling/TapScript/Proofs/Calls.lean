import Mathlib.Data.Option.Basic
import TapScript.Proofs.Nesting
import TapScript.Run.Query

/-! # Calls of queries in a text

The calls of queries in a text are the places where the name of a query stands outside literals as a
word of its own, with an opening parenthesis right behind it that is closed later. Replacing the
last of them by a literal leaves all others where they are and makes no new one.

* `Query.IsCall` says what a call is, `Query.calls` lists all calls of a text from left to right;
  `Query.mem_calls_iff` compares the two.
* `Query.Silent` texts have no call in them and make none with what follows.
* `Query.map_head_calls` says what replacing the last call does to the calls. -/

namespace TapScript

/-- A name is that of the command it is looked up as, and of no other one. -/
theorem Builtin.ofName?_eq_some_iff {name : Text} {b : Builtin} :
    Builtin.ofName? name = some b ↔ b.name.toList = name := by
  constructor
  · intro h
    have hname := List.find?_some h
    exact eq_of_beq hname
  · rintro rfl
    cases b <;> rfl

namespace Query

open Text (Mark)

/-- The call as it is written. -/
def source (q : Query) : Text := q.builtin.name.toList ++ Text.wrap q.args

/-- The query is called in the text: outside literals, by a word of its own, and with its
parenthesis closed. -/
structure IsCall (t : Text) (q : Query) : Prop where
  text : q.replace q.source = t
  isQuery : q.builtin.isQuery
  outside : Text.isClosed q.before
  word : ∀ c ∈ q.before.getLast?, Text.isNameChar c = false
  args : Text.IsWhole q.args

/-- The calls in the marked text, behind `word` and the text before it, which both are in reverse
order. -/
def callsFrom : (before word : Text) → List Mark → List Query
  | _, _, [] => []
  | before, word, m :: ms =>
    if m.outside && Text.isNameChar m.char then callsFrom before (m.char :: word) ms
    else (if m.is '(' then (call? before word ms).toList else []) ++
      callsFrom (m.char :: (word ++ before)) [] ms

/-- The calls of queries in the text, from left to right. -/
def calls (t : Text) : List Query := callsFrom [] [] (Text.marks t)

/-- Where the call starts. -/
def start (q : Query) : Nat := q.before.length

/-- The call that is replaced is the last one of all calls. -/
theorem lastFrom?_eq_getLast? (before word : Text) (ms : List Mark) :
    lastFrom? before word ms = (callsFrom before word ms).getLast? := by
  induction ms generalizing before word with
  | nil => rfl
  | cons m ms ih =>
    rw [lastFrom?, callsFrom]
    by_cases hname : (m.outside && Text.isNameChar m.char) = true
    · rw [if_pos hname, if_pos hname, ih]
    · -- a later call comes first, else the one whose parenthesis this is
      rw [if_neg hname, if_neg hname, ih, List.getLast?_append]
      cases (callsFrom (m.char :: (word ++ before)) [] ms).getLast? with
      | some q => rfl
      | none =>
        by_cases hopen : m.is '('
        · rw [if_pos hopen, if_pos hopen, Option.none_or]
          cases call? before word ms <;> rfl
        · rw [if_neg hopen, if_neg hopen]
          rfl

/-- The call that is replaced first is the last one. -/
theorem last?_eq_getLast? (t : Text) : last? t = (calls t).getLast? := lastFrom?_eq_getLast? _ _ _

/-! ## The order of the calls -/

/-- A word is called if it names a query and its parenthesis is closed. -/
theorem call?_eq_some_iff {before word : Text} {ms : List Mark} {q : Query} :
    call? before word ms = some q ↔ q.builtin.isQuery ∧ q.builtin.name.toList = word.reverse ∧
      q.before = before.reverse ∧ Mark.closing? 0 ms = some (q.args, q.behind) := by
  obtain ⟨before', b, args, behind⟩ := q
  simp only [call?, Option.bind_eq_bind, Option.bind_eq_some_iff]
  constructor
  · rintro ⟨b', hname, u, hu, ⟨args', behind'⟩, hclosing, heq⟩
    cases heq
    have hquery : b.isQuery = true := (Option.guard_eq_some' u).1 hu
    exact ⟨hquery, Builtin.ofName?_eq_some_iff.1 hname, rfl, hclosing⟩
  · rintro ⟨hquery, hname, rfl, hclosing⟩
    exact ⟨b, Builtin.ofName?_eq_some_iff.2 hname, (), (Option.guard_eq_some' ()).2 hquery,
      (args, behind), hclosing, rfl⟩

/-- A call starts where the text before it ends. -/
theorem start_of_call? {before word : Text} {ms : List Mark} {q : Query}
    (h : call? before word ms = some q) : q.start = before.length := by
  rw [start, (call?_eq_some_iff.1 h).2.2.1, List.length_reverse]

/-- Calls start behind the text that was read before. -/
theorem length_le_start {before word : Text} {ms : List Mark} {q : Query}
    (h : q ∈ callsFrom before word ms) : before.length ≤ q.start := by
  induction ms generalizing before word with
  | nil => cases h
  | cons m ms ih =>
    rw [callsFrom] at h
    by_cases hname : (m.outside && Text.isNameChar m.char) = true
    · rw [if_pos hname] at h
      exact ih h
    · rw [if_neg hname, List.mem_append] at h
      rcases h with h | h
      · by_cases hopen : m.is '('
        · rw [if_pos hopen, Option.mem_toList] at h
          exact Nat.le_of_eq (start_of_call? h).symm
        · rw [if_neg hopen] at h
          cases h
      · have hle := ih h
        simp only [List.length_cons, List.length_append] at hle
        omega

/-- The calls are listed by their starts. -/
theorem pairwise_callsFrom (before word : Text) (ms : List Mark) :
    (callsFrom before word ms).Pairwise fun q q' => q.start < q'.start := by
  induction ms generalizing before word with
  | nil => exact .nil
  | cons m ms ih =>
    rw [callsFrom]
    by_cases hname : (m.outside && Text.isNameChar m.char) = true
    · rw [if_pos hname]
      exact ih _ _
    · rw [if_neg hname]
      refine List.pairwise_append.2 ⟨?_, ih _ _, fun q hq q' hq' => ?_⟩
      · split
        · cases call? before word ms with
          | none => exact .nil
          | some q => exact List.pairwise_singleton _ _
        · exact .nil
      · have hle := length_le_start hq'
        by_cases hopen : m.is '('
        · rw [if_pos hopen, Option.mem_toList] at hq
          have hstart := start_of_call? hq
          simp only [List.length_cons, List.length_append] at hle
          omega
        · rw [if_neg hopen] at hq
          cases hq

/-- No two calls start at the same place, and they are listed from left to right. -/
theorem pairwise_calls (t : Text) : (calls t).Pairwise fun q q' => q.start < q'.start :=
  pairwise_callsFrom _ _ _

/-! ## What is a call -/

/-- Behind the marks: the text before the current word and the word, both in reverse order. -/
def scanned : (before word : Text) → List Mark → Text × Text
  | before, word, [] => (before, word)
  | before, word, m :: ms =>
    if m.outside && Text.isNameChar m.char then scanned before (m.char :: word) ms
    else scanned (m.char :: (word ++ before)) [] ms

/-- What is scanned in two parts is scanned as a whole. -/
theorem scanned_append (before word : Text) (ms ms' : List Mark) :
    scanned before word (ms ++ ms') =
      scanned (scanned before word ms).1 (scanned before word ms).2 ms' := by
  induction ms generalizing before word with
  | nil => rfl
  | cons m ms ih =>
    rw [List.cons_append, scanned, scanned]
    split
    · exact ih _ _
    · exact ih _ _

/-- The characters of a name go to the current word. -/
theorem scanned_name (before word : Text) {name : Text} (h : ∀ c ∈ name, Text.isNameChar c) :
    scanned before word (name.map fun c => ⟨c, true⟩) = (before, name.reverse ++ word) := by
  induction name generalizing word with
  | nil => rfl
  | cons c name ih =>
    rw [List.map_cons, scanned, if_pos (by simp [h c (by simp)]),
      ih _ fun d hd => h d (by simp [hd])]
    simp

/-- The calls are found at the opening parentheses, each with what was scanned before it. -/
theorem mem_callsFrom_iff {before word : Text} {ms : List Mark} {q : Query} :
    q ∈ callsFrom before word ms ↔ ∃ ms₁ ms₂, ms = ms₁ ++ ⟨'(', true⟩ :: ms₂ ∧
      call? (scanned before word ms₁).1 (scanned before word ms₁).2 ms₂ = some q := by
  induction ms generalizing before word with
  | nil => simp [callsFrom]
  | cons m ms ih =>
    rw [callsFrom]
    -- a character of a name goes to the word, and any other one ends it
    by_cases hname : (m.outside && Text.isNameChar m.char) = true
    · rw [if_pos hname, ih]
      constructor
      · rintro ⟨ms₁, ms₂, rfl, hcall⟩
        exact ⟨m :: ms₁, ms₂, rfl, by rw [scanned, if_pos hname]; exact hcall⟩
      · rintro ⟨_ | ⟨m', ms₁⟩, ms₂, heq, hcall⟩
        · -- a parenthesis is not part of a name
          cases heq
          exact absurd hname (by decide)
        · cases heq
          rw [scanned, if_pos hname] at hcall
          exact ⟨ms₁, ms₂, rfl, hcall⟩
    · rw [if_neg hname, List.mem_append, ih]
      constructor
      · rintro (hcall | ⟨ms₁, ms₂, rfl, hcall⟩)
        · by_cases hopen : m.is '('
          · rw [if_pos hopen, Option.mem_toList] at hcall
            exact ⟨[], ms, by rw [Mark.eq_of_is hopen, List.nil_append], hcall⟩
          · rw [if_neg hopen] at hcall
            cases hcall
        · exact ⟨m :: ms₁, ms₂, rfl, by rw [scanned, if_neg hname]; exact hcall⟩
      · rintro ⟨_ | ⟨m', ms₁⟩, ms₂, heq, hcall⟩
        · cases heq
          exact .inl (Option.mem_toList.2 hcall)
        · cases heq
          rw [scanned, if_neg hname] at hcall
          exact .inr ⟨ms₁, ms₂, rfl, hcall⟩

/-- The text ends with the word, which is the longest name there that stands outside literals. -/
structure IsLastWord (t before word : Text) : Prop where
  text : t = before ++ word
  name : ∀ c ∈ word, Text.isNameChar c
  outside : word ≠ [] → Text.isClosed before
  longest : Text.isClosed before → ∀ c ∈ before.getLast?, Text.isNameChar c = false

/-- No character of a name is a quote. -/
theorem isQuote_eq_false_of_isNameChar {c : Char} (h : Text.isNameChar c) :
    Text.isQuote c = false := by
  cases hq : Text.isQuote c with
  | false => rfl
  | true =>
    simp only [Text.isQuote, Bool.or_eq_true, beq_iff_eq] at hq
    rcases hq with rfl | rfl <;> exact absurd h (by decide)

/-- One more character either continues the word or starts all over. -/
theorem IsLastWord.scanned_concat {t before word : Text} (h : IsLastWord t before word) (c : Char) :
    ∃ before' word' : Text, scanned before.reverse word.reverse
        [⟨c, (Text.Quoting.code.behind t).isCode && !Text.isQuote c⟩] =
          (before'.reverse, word'.reverse) ∧
      IsLastWord (t ++ [c]) before' word' := by
  have htext := h.text
  by_cases hname :
    ((Text.Quoting.code.behind t).isCode && !Text.isQuote c && Text.isNameChar c) = true
  · refine ⟨before, word ++ [c], ?_, ?_, ?_, fun _ => ?_, h.longest⟩
    · rw [scanned, if_pos hname, scanned, List.reverse_append]
      rfl
    · rw [htext, List.append_assoc]
    · simp only [Bool.and_eq_true] at hname
      intro d hd
      rcases List.mem_append.1 hd with hd | hd
      · exact h.name d hd
      · rw [List.mem_singleton.1 hd]
        exact hname.2
    · cases word with
      | nil =>
        rw [List.append_nil] at htext
        simp only [Bool.and_eq_true] at hname
        rw [← htext]
        exact hname.1.1
      | cons d word => exact h.outside (by simp)
  · refine ⟨t ++ [c], [], ?_, by simp, by simp, fun hnil => absurd rfl hnil, fun hclosed d hd => ?_⟩
    · rw [scanned, if_neg hname, scanned, htext, List.reverse_append, List.reverse_append]
      rfl
    · rw [List.getLast?_concat, Option.mem_some_iff] at hd
      subst hd
      cases hd : Text.isNameChar c with
      | false => rfl
      | true =>
        -- a closed text with this end has code in front of the end
        have hquote := isQuote_eq_false_of_isNameChar hd
        have hproper : Text.Quoting.IsProper (Text.Quoting.code.behind t) :=
          Text.Quoting.IsProper.behind (q := .code) trivial t
        rw [Text.isClosed, Text.Quoting.behind_append] at hclosed
        have hcode := Text.Quoting.isCode_of_isCode_step hproper hquote hclosed
        rw [hcode, hquote, hd] at hname
        exact absurd rfl hname

/-- What is scanned of a text is its last word and all that stands before it. -/
theorem scanned_marks (t : Text) :
    ∃ before word : Text, scanned [] [] (Text.marks t) = (before.reverse, word.reverse) ∧
      IsLastWord t before word := by
  -- marks depend on what is in front of them, so the text grows at its end: `s` is done, `r` is
  -- left
  have hstep : ∀ (r s : Text), (∃ before word : Text,
      scanned [] [] (Text.marks s) = (before.reverse, word.reverse) ∧ IsLastWord s before word) →
      ∃ before word : Text, scanned [] [] (Text.marks (s ++ r)) = (before.reverse, word.reverse) ∧
        IsLastWord (s ++ r) before word := by
    intro r
    induction r with
    | nil =>
      intro s hs
      rwa [List.append_nil]
    | cons c r ih =>
      rintro s ⟨before, word, hscan, hword⟩
      rw [List.append_cons]
      refine ih (s ++ [c]) ?_
      obtain ⟨before', word', hscan', hword'⟩ := hword.scanned_concat c
      refine ⟨before', word', ?_, hword'⟩
      rw [Text.marks_eq_scan] at hscan
      rw [Text.marks_eq_scan, Text.Quoting.scan_append, scanned_append, hscan]
      exact hscan'
  have hnil : IsLastWord [] [] [] := ⟨rfl, nofun, fun h => absurd rfl h, fun _ => nofun⟩
  exact hstep t [] ⟨[], [], rfl, hnil⟩

/-- The names of queries are not empty and consist of the characters of names. -/
theorem name_of_isQuery {b : Builtin} (h : b.isQuery) :
    b.name.toList ≠ [] ∧ ∀ c ∈ b.name.toList, Text.isNameChar c := by
  have hall : (b.name.toList.isEmpty || !b.name.toList.all Text.isNameChar) = false := by
    cases b with
    | getVar | waitForColor | waitForText | compareColor | getColor | getText | findText
    | findImage => rfl
    | _ => exact absurd h (by decide)
  simp only [Bool.or_eq_false_iff, Bool.not_eq_false'] at hall
  exact ⟨fun hnil => by simp [hnil] at hall, List.all_eq_true.1 hall.2⟩

/-- The name of a query is whole: it has neither quotes nor parentheses. -/
theorem isWhole_name {b : Builtin} (h : b.isQuery) : Text.IsWhole b.name.toList := by
  refine Text.isWhole_of_isPlain (List.all_eq_true.2 fun c hc => ?_)
  have hname := (name_of_isQuery h).2 c hc
  have hparen : c ≠ '(' ∧ c ≠ ')' := by
    constructor <;>
      · rintro rfl
        exact absurd hname (by decide)
  simp [isQuote_eq_false_of_isNameChar hname, hparen]

/-- In front of a call there is no word. -/
theorem IsCall.scanned_before {t : Text} {q : Query} (h : IsCall t q) :
    scanned [] [] (Text.marks q.before) = (q.before.reverse, []) := by
  obtain ⟨before, word, hscan, hword⟩ := scanned_marks q.before
  rcases List.eq_nil_or_concat word with rfl | ⟨word, c, rfl⟩
  · have hbefore : q.before = before := by rw [hword.text, List.append_nil]
    rw [hscan, ← hbefore]
    rfl
  · -- the end of a word would be the end of the text
    have hlast : c ∈ q.before.getLast? := by
      rw [hword.text, List.concat_eq_append, ← List.append_assoc, List.getLast?_concat,
        Option.mem_some_iff]
    have hname := hword.name c (by simp)
    rw [h.word c hlast] at hname
    cases hname

/-- A call is marked as its name, its parentheses and what stands between them. -/
theorem IsCall.marks_source {t : Text} {q : Query} (h : IsCall t q) (ms : List Mark) :
    Text.marks q.source ++ ms = (q.builtin.name.toList.map fun c => ⟨c, true⟩) ++
      ⟨'(', true⟩ :: (Text.marks q.args ++ ⟨')', true⟩ :: ms) := by
  have hname := Text.marks_of_forall_not_isQuote fun c hc =>
    isQuote_eq_false_of_isNameChar ((name_of_isQuery h.isQuery).2 c hc)
  rw [source, Text.wrap, List.cons_append, Text.marks_append_cons hname.1 rfl, hname.2,
    Text.marks_append_cons h.args.closed rfl]
  simp

/-- A call leaves no literal and no parenthesis open. -/
theorem IsCall.isWhole_source {t : Text} {q : Query} (h : IsCall t q) : Text.IsWhole q.source :=
  (isWhole_name h.isQuery).append h.args.wrap

/-- A whole text in the place of a call leaves the marks around it as they are. -/
theorem IsCall.marks_replace {t : Text} {q : Query} (h : IsCall t q) {s : Text}
    (hs : Text.IsWhole s) :
    Text.marks (q.replace s) = Text.marks q.before ++ (Text.marks s ++ Text.marks q.behind) := by
  rw [replace, List.append_assoc, Text.marks_append h.outside, Text.marks_append hs.closed]

/-- A call is recognised at its parenthesis. -/
theorem IsCall.call?_args {t : Text} {q : Query} (h : IsCall t q) :
    call? q.before.reverse (q.builtin.name.toList.reverse ++ [])
      (Text.marks q.args ++ ⟨')', true⟩ :: Text.marks q.behind) = some q := by
  rw [call?_eq_some_iff]
  refine ⟨h.isQuery, by simp, by simp, ?_⟩
  exact Mark.closing?_eq_some_iff.2 ⟨_, _, rfl, Text.chars_marks _, Text.chars_marks _,
    Text.opened?_of_isBalanced h.args.balanced 0⟩

/-- The list of the calls has all of them and nothing else. -/
theorem mem_calls_iff {t : Text} {q : Query} : q ∈ calls t ↔ IsCall t q := by
  rw [calls, mem_callsFrom_iff]
  constructor
  · rintro ⟨ms₁, ms₂, hmarks, hcall⟩
    -- the marks are cut at the parenthesis that opens the call and at the one that closes it
    obtain ⟨u, v, rfl, -, rfl, rfl⟩ := Text.marks_eq_append hmarks rfl
    obtain ⟨before, word, hscan, hword⟩ := scanned_marks u
    rw [hscan] at hcall
    obtain ⟨hquery, hname, hbefore, hclosing⟩ := call?_eq_some_iff.1 hcall
    rw [List.reverse_reverse] at hname hbefore
    obtain ⟨ms₁, ms₂, hmarks, hargs, hbehind, hopened⟩ := Mark.closing?_eq_some_iff.1 hclosing
    obtain ⟨x, y, rfl, hx, rfl, rfl⟩ := Text.marks_eq_append hmarks rfl
    rw [Text.chars_marks] at hargs hbehind
    have hne : word ≠ [] := hname ▸ (name_of_isQuery hquery).1
    constructor
    · rw [replace, source, Text.wrap, hbefore, hname, ← hargs, ← hbehind, hword.text]
      simp
    · exact hquery
    · rw [hbefore]
      exact hword.outside hne
    · rw [hbefore]
      exact hword.longest (hword.outside hne)
    · rw [← hargs]
      exact ⟨hx, beq_iff_eq.2 hopened⟩
  · intro h
    refine ⟨Text.marks q.before ++ q.builtin.name.toList.map fun c => ⟨c, true⟩,
      Text.marks q.args ++ ⟨')', true⟩ :: Text.marks q.behind, ?_, ?_⟩
    · rw [← h.text, h.marks_replace h.isWhole_source, h.marks_source, List.append_assoc]
    · rw [scanned_append, h.scanned_before, scanned_name _ _ (name_of_isQuery h.isQuery).2]
      exact h.call?_args

-- a call inside another one is listed behind it, and what stands in a literal is no call
example :
    (calls "findText(getVar('n')) == 'getText()' && x_getVar(1)".toList).map (·.start) =
      [0, 9] := by
  decide +kernel

/-- A call is still one behind a closed text that does not run into its name. -/
theorem IsCall.append_left {s t : Text} {q : Query} (h : IsCall t q) (hs : Text.isClosed s)
    (hs' : ∀ c ∈ s.getLast?, Text.isNameChar c = false) :
    IsCall (s ++ t) { q with before := s ++ q.before } where
  text := by
    rw [← h.text]
    simp [replace, source, Text.wrap]
  isQuery := h.isQuery
  outside := Text.isClosed_append hs h.outside
  word := by
    intro c hc
    rw [List.getLast?_append] at hc
    cases hlast : q.before.getLast? with
    | none =>
      rw [hlast, Option.none_or] at hc
      exact hs' c hc
    | some d =>
      rw [hlast, Option.some_or] at hc
      exact h.word c (hlast ▸ hc)
  args := h.args

/-- A call is still one whatever stands behind the text. -/
theorem IsCall.append_right {t : Text} {q : Query} (h : IsCall t q) (s : Text) :
    IsCall (t ++ s) { q with behind := q.behind ++ s } where
  text := by
    rw [← h.text]
    simp [replace, source, Text.wrap]
  isQuery := h.isQuery
  outside := h.outside
  word := h.word
  args := h.args

/-! ## The last call -/

section Last

variable {t : Text} {q : Query} (h : last? t = some q)

include h

/-- The last call of a text is one. -/
theorem isCall_of_last? : IsCall t q := by
  rw [last?_eq_getLast?] at h
  exact mem_calls_iff.1 (List.mem_of_getLast? h)

/-- No call starts behind the start of the last one. -/
theorem start_le_of_last? {q' : Query} (h' : IsCall t q') : q'.start ≤ q.start := by
  rw [last?_eq_getLast?] at h
  obtain ⟨qs, hqs⟩ := List.getLast?_eq_some_iff.1 h
  have hmem := mem_calls_iff.2 h'
  have hsorted := pairwise_calls t
  rw [hqs] at hmem hsorted
  rcases List.mem_append.1 hmem with hmem | hmem
  · exact Nat.le_of_lt ((List.pairwise_append.1 hsorted).2.2 q' hmem q (by simp))
  · exact Nat.le_of_eq (congrArg start (List.mem_singleton.1 hmem))

/-- There is no call inside the last one. -/
theorem calls_args_of_last? : calls q.args = [] := by
  rw [List.eq_nil_iff_forall_not_mem]
  intro q' hq'
  have hcall := isCall_of_last? h
  -- a call in the arguments would be a later call of the whole text
  have hclosed : Text.isClosed (q.before ++ q.builtin.name.toList ++ ['(']) :=
    Text.isClosed_append (Text.isClosed_append hcall.outside (isWhole_name hcall.isQuery).closed)
      rfl
  have hinner := ((mem_calls_iff.1 hq').append_right (')' :: q.behind)).append_left hclosed
    (by simp; decide)
  have htext : q.before ++ q.builtin.name.toList ++ ['('] ++ (q.args ++ ')' :: q.behind) = t := by
    rw [← hcall.text]
    simp [replace, source, Text.wrap]
  rw [htext] at hinner
  have hle := start_le_of_last? h hinner
  simp only [start, List.length_append, List.length_cons] at hle
  omega

/-- There is no call behind the last one. -/
theorem calls_behind_of_last? : calls q.behind = [] := by
  rw [List.eq_nil_iff_forall_not_mem]
  intro q' hq'
  have hcall := isCall_of_last? h
  have hclosed : Text.isClosed (q.before ++ q.source) :=
    Text.isClosed_append hcall.outside hcall.isWhole_source.closed
  have hend : ∀ c ∈ (q.before ++ q.source).getLast?, Text.isNameChar c = false := by
    intro c hc
    rw [source, Text.wrap, ← List.append_assoc, ← List.append_assoc, List.getLast?_concat,
      Option.mem_some_iff] at hc
    rw [← hc]
    rfl
  have hlater := (mem_calls_iff.1 hq').append_left hclosed hend
  have htext : q.before ++ q.source ++ q.behind = t := hcall.text
  rw [htext] at hlater
  have hle := start_le_of_last? h hlater
  simp only [start, source, Text.wrap, List.length_append, List.length_cons] at hle
  omega

end Last

/-! ## Calls in the parts of a text -/

/-- What is called, and behind which text. -/
def head (q : Query) : Text × Builtin := (q.before, q.builtin)

/-- Which word is called depends on the marks behind it only by whether they close its parenthesis.
-/
theorem map_head_call? (before word : Text) {ms ms' : List Mark}
    (h : (Mark.closing? 0 ms).isSome = (Mark.closing? 0 ms').isSome) :
    (call? before word ms).map head = (call? before word ms').map head := by
  have hforward : ∀ {ms ms' : List Mark} {q : Query},
      (Mark.closing? 0 ms).isSome = (Mark.closing? 0 ms').isSome → call? before word ms = some q →
      (call? before word ms').map head = some q.head := by
    intro ms ms' q h hq
    obtain ⟨hquery, hname, hbefore, hclosing⟩ := call?_eq_some_iff.1 hq
    rw [hclosing, Option.isSome_some] at h
    obtain ⟨⟨args, behind⟩, hclosing'⟩ := Option.isSome_iff_exists.1 h.symm
    have hcall : call? before word ms' = some ⟨q.before, q.builtin, args, behind⟩ :=
      call?_eq_some_iff.2 ⟨hquery, hname, hbefore, hclosing'⟩
    rw [hcall]
    rfl
  cases hq : call? before word ms with
  | some q => rw [hforward h hq, Option.map_some]
  | none =>
    cases hq' : call? before word ms' with
    | none => rfl
    | some q' =>
      have hcall := hforward h.symm hq'
      rw [hq] at hcall
      cases hcall

/-- Which calls start in the first part of a text depends on the second part only through the
parentheses that it closes. -/
theorem callsFrom_append (before word : Text) (ms : List Mark) {rest rest' : List Mark}
    (h : ∀ k, (Mark.closing? k rest).isSome = (Mark.closing? k rest').isSome) :
    ∃ qs qs' : List Query,
      callsFrom before word (ms ++ rest) =
        qs ++ callsFrom (scanned before word ms).1 (scanned before word ms).2 rest ∧
      callsFrom before word (ms ++ rest') =
        qs' ++ callsFrom (scanned before word ms).1 (scanned before word ms).2 rest' ∧
      qs.map head = qs'.map head := by
  induction ms generalizing before word with
  | nil => exact ⟨[], [], rfl, rfl, rfl⟩
  | cons m ms ih =>
    rw [List.cons_append, List.cons_append, callsFrom, callsFrom, scanned]
    by_cases hname : (m.outside && Text.isNameChar m.char) = true
    · rw [if_pos hname, if_pos hname, if_pos hname]
      exact ih _ _
    · rw [if_neg hname, if_neg hname, if_neg hname]
      -- a call that starts here may end in the rest, but only whether it ends matters for its head
      obtain ⟨qs, qs', hqs, hqs', hheads⟩ := ih (m.char :: (word ++ before)) []
      refine ⟨_ ++ qs, _ ++ qs', by rw [hqs, List.append_assoc], by rw [hqs', List.append_assoc],
        ?_⟩
      have hclosing : (Mark.closing? 0 (ms ++ rest)).isSome =
          (Mark.closing? 0 (ms ++ rest')).isSome := by
        rw [Mark.isSome_closing?_append, Mark.isSome_closing?_append]
        cases Mark.opened? 0 ms with
        | none => rfl
        | some k => exact h k
      rw [List.map_append, List.map_append, hheads]
      split
      · rw [← Option.toList_map, map_head_call? before word hclosing, Option.toList_map]
      · rfl

/-- The text in front does not matter for whether there are calls. -/
theorem callsFrom_eq_nil {before word : Text} {ms : List Mark} (h : callsFrom before word ms = [])
    (before' : Text) : callsFrom before' word ms = [] := by
  induction ms generalizing before before' word with
  | nil => rfl
  | cons m ms ih =>
    rw [callsFrom] at h ⊢
    by_cases hname : (m.outside && Text.isNameChar m.char) = true
    · rw [if_pos hname] at h ⊢
      exact ih h before'
    · rw [if_neg hname, List.append_eq_nil_iff] at h ⊢
      refine ⟨?_, ih h.2 _⟩
      by_cases hopen : m.is '('
      · rw [if_pos hopen] at h ⊢
        cases hcall : call? before' word ms with
        | none => rfl
        | some q =>
          obtain ⟨hquery, hname, -, hclosing⟩ := call?_eq_some_iff.1 hcall
          have hcall' : call? before word ms = some { q with before := before.reverse } :=
            call?_eq_some_iff.2 ⟨hquery, hname, rfl, hclosing⟩
          rw [hcall'] at h
          cases h.1
      · rw [if_neg hopen]

/-- The characters of a name are added to the word and call nothing. -/
theorem callsFrom_name (before word : Text) {name : Text} (h : ∀ c ∈ name, Text.isNameChar c)
    (ms : List Mark) : callsFrom before word ((name.map fun c => ⟨c, true⟩) ++ ms) =
      callsFrom before (name.reverse ++ word) ms := by
  induction name generalizing word with
  | nil => rfl
  | cons c name ih =>
    rw [List.map_cons, List.cons_append, callsFrom, if_pos (by simp [h c (by simp)]),
      ih _ fun d hd => h d (by simp [hd])]
    simp

/-- Behind the text before it, a call is the first one. -/
theorem IsCall.callsFrom_source {t : Text} {q : Query} (h : IsCall t q) : ∃ later : List Query,
    callsFrom q.before.reverse [] (Text.marks q.source ++ Text.marks q.behind) = q :: later ∧
      ∀ q' ∈ later, q.start < q'.start := by
  have hname := (name_of_isQuery h.isQuery).2
  refine ⟨callsFrom ('(' :: (q.builtin.name.toList.reverse ++ [] ++ q.before.reverse)) []
    (Text.marks q.args ++ ⟨')', true⟩ :: Text.marks q.behind), ?_, fun q' hq' => ?_⟩
  · rw [h.marks_source, callsFrom_name _ _ hname, callsFrom, if_neg (by decide), if_pos (by decide),
      h.call?_args]
    rfl
  · have hle := length_le_start hq'
    simp only [List.length_cons, List.length_append, List.length_reverse] at hle
    rw [start]
    omega

/-! ## Silent texts -/

/-- There is no call in the text, and none comes about with what follows. -/
def Silent (s : Text) : Prop := ∀ (before : Text) (ms : List Mark),
  callsFrom [] [] ms = [] → callsFrom before [] (Text.marks s ++ ms) = []

/-- The inside of a literal ends the word in front of it. -/
theorem callsFrom_inside {ms₀ ms : List Mark} (hne : ms₀ ≠ []) (h : ∀ m ∈ ms₀, m.outside = false)
    (hms : callsFrom [] [] ms = []) (before word : Text) :
    callsFrom before word (ms₀ ++ ms) = [] := by
  induction ms₀ generalizing before word with
  | nil => exact absurd rfl hne
  | cons m ms₀ ih =>
    have hm : m.outside = false := h m (by simp)
    rw [List.cons_append, callsFrom, if_neg (by simp [hm]), if_neg (by simp [Mark.is, hm]),
      List.nil_append]
    by_cases hnil : ms₀ = []
    · rw [hnil]
      exact callsFrom_eq_nil hms _
    · exact ih hnil (fun m' hm' => h m' (by simp [hm'])) _ _

/-- A text that is one literal is silent. -/
theorem silent_of_inside {s : Text} (hs : s ≠ []) (h : ∀ m ∈ Text.marks s, m.outside = false) :
    Silent s := by
  intro before ms hms
  refine callsFrom_inside (fun hnil => hs ?_) h hms before []
  have hchars := Text.chars_marks s
  rw [hnil] at hchars
  exact hchars.symm

/-- A word with the wrong start does not become the name of a query, whatever continues it. -/
theorem callsFrom_word {s : Text} (h : ∀ b : Builtin, b.isQuery → ¬s <+: b.name.toList)
    {before word : Text} {ms : List Mark} (hms : callsFrom before word ms = []) (before' : Text) :
    callsFrom before' (word ++ s.reverse) ms = [] := by
  induction ms generalizing word with
  | nil => rfl
  | cons m ms ih =>
    rw [callsFrom] at hms ⊢
    by_cases hname : (m.outside && Text.isNameChar m.char) = true
    · rw [if_pos hname] at hms ⊢
      exact ih hms
    · rw [if_neg hname, List.append_eq_nil_iff] at hms ⊢
      refine ⟨?_, callsFrom_eq_nil hms.2 _⟩
      by_cases hopen : m.is '('
      · rw [if_pos hopen]
        cases hcall : call? before' (word ++ s.reverse) ms with
        | none => rfl
        | some q =>
          obtain ⟨hquery, hname, -, -⟩ := call?_eq_some_iff.1 hcall
          rw [List.reverse_append, List.reverse_reverse] at hname
          exact absurd ⟨word.reverse, hname.symm⟩ (h q.builtin hquery)
      · rw [if_neg hopen]

/-- A word is silent if no query has a name that starts with it. -/
theorem silent_of_word {s : Text} (hs : ∀ c ∈ s, Text.isNameChar c)
    (h : ∀ b : Builtin, b.isQuery → ¬s <+: b.name.toList) : Silent s := by
  intro before ms hms
  have hmarks := (Text.marks_of_forall_not_isQuote fun c hc =>
    isQuote_eq_false_of_isNameChar (hs c hc)).2
  rw [hmarks, callsFrom_name before [] hs, List.append_nil]
  exact callsFrom_word h hms before

/-- Replacing the last call by a silent text takes away that call and leaves the others. -/
theorem map_head_calls {t : Text} {q : Query} (h : last? t = some q) {s : Text}
    (hs : Text.IsWhole s) (hsilent : Silent s) :
    (calls t).map head = (calls (q.replace s)).map head ++ [q.head] := by
  have hcall := isCall_of_last? h
  have hsource := hcall.isWhole_source
  -- both texts in the middle leave the parentheses around them as they are
  have hclosing : ∀ k, (Mark.closing? k (Text.marks q.source ++ Text.marks q.behind)).isSome =
      (Mark.closing? k (Text.marks s ++ Text.marks q.behind)).isSome := by
    intro k
    rw [Mark.isSome_closing?_append, Mark.isSome_closing?_append,
      Text.opened?_of_isBalanced hsource.balanced, Text.opened?_of_isBalanced hs.balanced]
  obtain ⟨qs, qs', hqs, hqs', hheads⟩ := callsFrom_append [] [] (Text.marks q.before) hclosing
  rw [← hcall.marks_replace hsource, hcall.text, hcall.scanned_before] at hqs
  rw [← hcall.marks_replace hs, hcall.scanned_before, hsilent _ _ (calls_behind_of_last? h),
    List.append_nil] at hqs'
  -- nothing but the call itself is listed behind the text before it
  obtain ⟨later, hlater, hstart⟩ := hcall.callsFrom_source
  have hnil : later = [] := by
    rw [List.eq_nil_iff_forall_not_mem]
    intro q' hq'
    have hmem : q' ∈ calls t := by
      rw [calls, hqs, hlater]
      simp [hq']
    have hle := start_le_of_last? h (mem_calls_iff.1 hmem)
    have hlt := hstart q' hq'
    omega
  rw [calls, hqs, hlater, hnil, calls, hqs', List.map_append, hheads]
  rfl

end Query

end TapScript
