import Mathlib.Data.Option.Basic
import TapScript.Proofs.Phrase
import TapScript.Run.Walk

/-! # Programs as trees

A script with its blocks as a tree, and the lines by which the tree is written: one line for each
node, a `{` at the end of each header and a `}` alone behind each block. Every node keeps the
numbers of its lines.

* `Program` are the trees, `Program.lines` their lines.
* `Line.kind_loop` and its neighbours say what each line is to the walk.
* `Heading.header?_text` says that the header of a definition is read as what it is. -/

namespace TapScript

/-! ## Texts of lines -/

/-- A statement that is neither `break`, `continue` nor `return`. -/
structure Leaf extends Phrase where
  stays : text ≠ "break".toList ∧ text ≠ "continue".toList
  goesOn : text ≠ "return".toList ∧ Text.after? "return ".toList text = none

/-- The two words that leave a loop. -/
inductive Leave where
  | «break»
  | «continue»
deriving DecidableEq, Repr

/-- The word as a phrase. -/
def Leave.phrase : Leave → Phrase
  | «break» => ⟨"break".toList, rfl, rfl⟩
  | «continue» => ⟨"continue".toList, rfl, rfl⟩

/-- The header of a definition. A function may not be called `elseif`, since its header would be
taken for the next branch of an `if`. -/
structure Heading where
  /-- Whether the word `fun` stands in front. -/
  marked : Bool
  name : Text
  params : Phrase
  isName : ∃ c r, name = c :: r ∧ Text.isNameStart c ∧ ∀ d ∈ r, Text.isWordChar d
  notKeyword : name ∉ Function.keywords
  notElseif : name ≠ "elseif".toList
  flat : ∀ c ∈ params.text, c ≠ '(' ∧ c ≠ ')'

/-- A condition with its parentheses. -/
def Phrase.wrapped (c : Phrase) : Text := '(' :: c.text ++ [')']

/-- The header of a block with a condition. -/
def Phrase.header (keyword : Text) (c : Phrase) : Text := keyword ++ ' ' :: c.wrapped ++ [' ', '{']

/-- What stands in front of the parameters. -/
def Heading.front (h : Heading) : Text :=
  (if h.marked then "fun ".toList else []) ++ h.name ++ ['(']

/-- The heading as it is written. -/
def Heading.text (h : Heading) : Text := h.front ++ h.params.text ++ ") \x7b".toList

/-- A `return`, with a value or without. -/
def Phrase.quit : Option Phrase → Phrase
  | none => ⟨"return".toList, rfl, rfl⟩
  | some v => ⟨"return ".toList ++ v.text, Text.isClosed_append rfl v.closed,
    Text.isBraceless_append rfl rfl v.braceless⟩

/-! ## Trees -/

mutual

/-- Some nodes one behind the other. -/
inductive Program where
  | nil
  | cons (item : Item) (rest : Program)

/-- A node, with the numbers of its first line and of the lines that close its blocks. -/
inductive Item where
  | leaf (number : Nat) (t : Leaf)
  | leave (number : Nat) (word : Leave)
  | quit (number : Nat) (value : Option Phrase)
  | loop (number : Nat) (c : Phrase) (body : Program) (closing : Nat)
  | choice (number : Nat) (c : Phrase) (body : Program) (closing : Nat) (others : Branches)
  | define (number : Nat) (h : Heading) (body : Program) (closing : Nat)

/-- The branches of an `if` behind its first one. -/
inductive Branches where
  | done
  | otherwise (number : Nat) (body : Program) (closing : Nat)
  | orElse (number : Nat) (c : Phrase) (body : Program) (closing : Nat) (others : Branches)

end

/-- The line that closes a block. -/
def Line.closing (number : Nat) : Line := ⟨number, Line.closer⟩

mutual

/-- The lines of a program. -/
def Program.lines : Program → List Line
  | .nil => []
  | .cons item rest => item.lines ++ rest.lines

/-- The lines of an item, with its header and its closing brace if it has a body. -/
def Item.lines : Item → List Line
  | .leaf n t => [⟨n, t.text⟩]
  | .leave n word => [⟨n, word.phrase.text⟩]
  | .quit n value => [⟨n, (Phrase.quit value).text⟩]
  | .loop n c body m => ⟨n, c.header "while".toList⟩ :: (body.lines ++ [.closing m])
  | .choice n c body m others =>
    ⟨n, c.header "if".toList⟩ :: (body.lines ++ .closing m :: others.lines)
  | .define n h body m => ⟨n, h.text⟩ :: (body.lines ++ [.closing m])

/-- The lines of further branches. -/
def Branches.lines : Branches → List Line
  | .done => []
  | .otherwise n body m => ⟨n, "else \x7b".toList⟩ :: (body.lines ++ [.closing m])
  | .orElse n c body m others =>
    ⟨n, c.header "else if".toList⟩ :: (body.lines ++ .closing m :: others.lines)

end

/-! ## Kinds of lines -/

namespace Line

/-- The condition of a header is found, with its parentheses, whatever it is. -/
theorem condition?_enclosed (keyword inner : Text) :
    condition? keyword (keyword ++ ' ' :: ('(' :: inner ++ [')']) ++ [' ', '{']) =
      some ('(' :: inner ++ [')']) := by
  generalize hwrapped : '(' :: inner ++ [')'] = wrapped
  have hafter : Text.after? keyword (keyword ++ ' ' :: wrapped ++ [' ', '{']) =
      some (' ' :: (wrapped ++ [' ', '{'])) := by
    rw [Text.after?_eq_some]
    simp
  have hstart : Text.trimStart (' ' :: (wrapped ++ [' ', '{'])) = wrapped ++ [' ', '{'] := by
    rw [← hwrapped]
    rfl
  have hbefore : Text.before? ['{'] (wrapped ++ [' ', '{']) = some (wrapped ++ [' ']) := by
    rw [Text.before?_eq_some]
    simp
  have hend : Text.trimEnd (wrapped ++ [' ']) = wrapped := by
    simp [Text.trimEnd, ← hwrapped, List.dropWhile, Text.isBlank]
  have hhead : (wrapped ++ [' ', '{']).head? = some '(' := by
    rw [← hwrapped]
    rfl
  have hlast : wrapped.getLast? = some ')' := by
    rw [← hwrapped, List.getLast?_concat]
  rw [condition?, hafter]
  simp [hstart, hhead, hbefore, hend, hlast, guard]

/-- A condition is read back from its header. -/
theorem condition?_header (keyword : Text) (c : Phrase) :
    condition? keyword (c.header keyword) = some c.wrapped :=
  condition?_enclosed keyword c.text

/-- A text ends as the last part of it does. -/
theorem getLast?_of_suffix {s t : Text} {c : Char} (h : s <:+ t) (hs : s.getLast? = some c) :
    t.getLast? = some c := by
  obtain ⟨u, rfl⟩ := h
  rw [List.getLast?_append, hs]
  rfl

/-- Only a text that ends with an opening brace is a header. -/
theorem condition?_eq_none {t : Text} (keyword : Text) (h : t.getLast? ≠ some '{') :
    condition? keyword t = none := by
  cases hc : condition? keyword t with
  | none => rfl
  | some condition =>
    simp only [condition?, Option.bind_eq_bind, Option.bind_eq_some_iff] at hc
    obtain ⟨r, hr, -, -, inner, hinner, -⟩ := hc
    rw [Text.after?_eq_some] at hr
    rw [Text.before?_eq_some] at hinner
    -- what is read is a suffix of the text, and it ends with the brace
    have hsuffix : Text.trimStart r <:+ t :=
      (List.dropWhile_suffix _).trans (hr ▸ List.suffix_append keyword r)
    exact absurd (getLast?_of_suffix hsuffix (hinner ▸ List.getLast?_concat)) h

/-- What does not end with a brace is no alternative. -/
theorem alternative?_eq_none {t : Text} (h : t.getLast? ≠ some '{') : alternative? t = none := by
  cases hafter : Text.after? "else".toList t with
  | none => rw [alternative?, hafter]; rfl
  | some r =>
    have hsuffix : Text.trimStart r <:+ t :=
      (List.dropWhile_suffix _).trans (Text.after?_eq_some.1 hafter ▸ List.suffix_append _ r)
    have hlast : (Text.trimStart r).getLast? ≠ some '{' :=
      fun hr => h (getLast?_of_suffix hsuffix hr)
    have hbrace : (Text.trimStart r == ['{']) = false := by
      rw [beq_eq_false_iff_ne]
      exact fun hr => hlast (hr ▸ rfl)
    rw [alternative?, hafter]
    simp only [Option.bind_eq_bind, Option.bind_some, hbrace, condition?_eq_none _ hlast]
    rfl

/-- The header of a loop is read as one. -/
theorem kind_loop (c : Phrase) : kind (c.header "while".toList) = .loop c.wrapped := by
  rw [kind, condition?_header]

/-- The header of a branch is read as one. -/
theorem kind_branch (c : Phrase) : kind (c.header "if".toList) = .branch c.wrapped := by
  have hwhile : condition? "while".toList (c.header "if".toList) = none := rfl
  rw [kind, hwhile, condition?_header]

/-- A phrase is no header and closes nothing. -/
theorem kind_phrase (p : Phrase) : kind p.text =
    if p.text == "break".toList || p.text == "continue".toList then .leave
    else if p.text == "return".toList || (Text.after? "return ".toList p.text).isSome then .quit
    else .statement := by
  have hlast : (p.text.getLast? == some '{') = false := by simpa using p.getLast?
  have hcloser : (p.text == closer) = false := by
    cases h : p.text == closer with
    | false => rfl
    | true =>
      have hp := p.braceless
      rw [beq_iff_eq.1 h] at hp
      cases hp
  simp only [kind, condition?_eq_none _ p.getLast?, hlast, hcloser]
  rfl

/-- A leaf is read as a statement. -/
theorem kind_leaf (t : Leaf) : kind t.text = .statement := by
  have hleave : (t.text == "break".toList || t.text == "continue".toList) = false := by
    rw [Bool.or_eq_false_iff, beq_eq_false_iff_ne, beq_eq_false_iff_ne]
    exact t.stays
  have hquit : (t.text == "return".toList || (Text.after? "return ".toList t.text).isSome) =
      false := by
    rw [t.goesOn.2, Bool.or_eq_false_iff, beq_eq_false_iff_ne]
    exact ⟨t.goesOn.1, rfl⟩
  rw [kind_phrase, hleave, hquit]
  rfl

/-- The words that leave a loop are read as such. -/
theorem kind_leave (word : Leave) : kind word.phrase.text = .leave := by
  cases word <;> rfl

/-- A return is read as one, with or without a value. -/
theorem kind_quit (value : Option Phrase) : kind (Phrase.quit value).text = .quit := by
  cases value with
  | none => rfl
  | some v =>
    have hafter : Text.after? "return ".toList (Phrase.quit (some v)).text = some v.text :=
      Text.after?_eq_some.2 rfl
    -- the first letter tells the words apart
    have hbreak : ((Phrase.quit (some v)).text == "break".toList) = false := rfl
    have hcontinue : ((Phrase.quit (some v)).text == "continue".toList) = false := rfl
    rw [kind_phrase, hafter, hbreak, hcontinue]
    simp

/-! ## Headers of definitions -/

/-- A word that starts the text `name(…` starts the name. -/
theorem eq_append_of_after? {word name rest r : Text} (hw : '(' ∉ word)
    (h : Text.after? word (name ++ '(' :: rest) = some r) :
    ∃ s, name = word ++ s ∧ r = s ++ '(' :: rest := by
  rw [Text.after?_eq_some, List.append_eq_append_iff] at h
  rcases h with ⟨s, hword, hrest⟩ | ⟨s, hname, hr⟩
  · -- the word reaches at most up to the parenthesis, since it has none itself
    cases s with
    | nil => exact ⟨[], by simpa using hword.symm, hrest.symm⟩
    | cons d s =>
      cases hrest
      exact absurd hword (by rintro rfl; simp at hw)
  · exact ⟨s, hname, hr⟩

/-- What looks like a call is a header with a condition only if it calls the keyword. -/
theorem condition?_call (keyword : Text) {name : Text} (hkeyword : '(' ∉ keyword)
    (hname : ∀ c ∈ name, Text.isWordChar c) (hne : name ≠ keyword) (rest : Text) :
    condition? keyword (name ++ '(' :: rest) = none := by
  cases hafter : Text.after? keyword (name ++ '(' :: rest) with
  | none => simp [condition?, hafter]
  | some r =>
    obtain ⟨s, hs, rfl⟩ := eq_append_of_after? hkeyword hafter
    cases s with
    | nil => exact absurd (by simpa using hs) hne
    | cons d s =>
      -- behind the keyword the name goes on, where blanks or the parenthesis are expected
      have hd : Text.isWordChar d := hname d (by simp [hs])
      have hblank := Text.isBlank_eq_false_of_isWordChar hd
      have hparen : d ≠ '(' := Text.ne_of_isWordChar hd rfl
      simp [condition?, hafter, Text.trimStart, hblank, hparen, guard]

end Line

namespace Heading

/-- The name of a function consists of characters of words. -/
theorem isWordChar_of_mem (h : Heading) {c : Char} (hc : c ∈ h.name) : Text.isWordChar c := by
  obtain ⟨d, r, hname, hd, hr⟩ := h.isName
  rw [hname] at hc
  rcases List.mem_cons.1 hc with rfl | hc
  · exact Text.isWordChar_of_isNameStart hd
  · exact hr c hc

/-- A header without the word `fun` looks like a call. -/
theorem text_of_not_marked {h : Heading} (hm : h.marked = false) :
    h.text = h.name ++ '(' :: (h.params.text ++ ") \x7b".toList) := by
  simp [text, front, hm]

/-- A marked heading begins with its word. -/
theorem text_of_marked {h : Heading} (hm : h.marked = true) :
    h.text = "fun ".toList ++ (h.name ++ '(' :: (h.params.text ++ ") \x7b".toList)) := by
  simp [text, front, hm]

/-- That a text has neither quotes nor braces is seen letter by letter. -/
theorem plain_of_all {t : Text} (ht : t.all fun c => !Text.isQuote c && c != '{' && c != '}') :
    ∀ c ∈ t, Text.isQuote c = false ∧ c ≠ '{' ∧ c ≠ '}' := by
  intro c hc
  have hplain := List.all_eq_true.1 ht c hc
  simp only [Bool.and_eq_true, Bool.not_eq_true', bne_iff_ne] at hplain
  exact ⟨hplain.1.1, hplain.1.2, hplain.2⟩

/-- In front of the parameters there are no quotes and no braces. -/
theorem front_plain (h : Heading) :
    (∀ c ∈ h.front, Text.isQuote c = false) ∧ ∀ c ∈ h.front, c ≠ '{' ∧ c ≠ '}' := by
  have hname : ∀ c ∈ h.name, Text.isQuote c = false ∧ c ≠ '{' ∧ c ≠ '}' := fun c hc =>
    have hw := h.isWordChar_of_mem hc
    ⟨Text.isQuote_eq_false_of_isWordChar hw, Text.ne_of_isWordChar hw rfl,
      Text.ne_of_isWordChar hw rfl⟩
  have hfront : ∀ c ∈ h.front, Text.isQuote c = false ∧ c ≠ '{' ∧ c ≠ '}' := by
    intro c hc
    simp only [front, List.mem_append] at hc
    rcases hc with (hc | hc) | hc
    · split at hc
      · exact plain_of_all rfl c hc
      · cases hc
    · exact hname c hc
    · exact plain_of_all rfl c hc
  exact ⟨fun c hc => (hfront c hc).1, fun c hc => (hfront c hc).2⟩

/-- A heading ends with a brace. -/
theorem getLast?_text (h : Heading) : h.text.getLast? = some '{' := by
  have hend : h.text = h.front ++ h.params.text ++ [')', ' '] ++ ['{'] := by
    rw [text, List.append_assoc _ [')', ' ']]
    rfl
  rw [hend, List.getLast?_concat]

/-- A heading is not taken for a header with a condition. -/
theorem condition?_text (h : Heading) {keyword : Text} (hk : keyword ∈ Function.keywords)
    (hparen : '(' ∉ keyword) (hfun : ∀ t, Text.after? keyword ("fun ".toList ++ t) = none) :
    Line.condition? keyword h.text = none := by
  cases hm : h.marked with
  | true =>
    rw [text_of_marked hm, Line.condition?, hfun]
    rfl
  | false =>
    rw [text_of_not_marked hm]
    exact Line.condition?_call keyword hparen (fun _ => h.isWordChar_of_mem)
      (fun heq => h.notKeyword (heq ▸ hk)) _

/-- A heading is read as the header of a function. -/
theorem kind_text (h : Heading) : Line.kind h.text = .header := by
  rw [Line.kind, h.condition?_text (by decide) (by decide) fun _ => rfl,
    h.condition?_text (by decide) (by decide) fun _ => rfl, h.getLast?_text]
  rfl

/-- A definition is never taken for the next branch of an `if`. -/
theorem alternative?_text (h : Heading) : Line.alternative? h.text = none := by
  cases hm : h.marked with
  | true =>
    rw [text_of_marked hm]
    rfl
  | false =>
    rw [text_of_not_marked hm, Line.alternative?]
    cases hafter :
      Text.after? "else".toList (h.name ++ '(' :: (h.params.text ++ ") \x7b".toList)) with
    | none => rfl
    | some r =>
      -- the name would have to be `else` or `elseif`, or to go on with a word
      obtain ⟨s, hs, rfl⟩ := Line.eq_append_of_after? (by decide) hafter
      have hword : ∀ c ∈ s, Text.isWordChar c := fun c hc =>
        h.isWordChar_of_mem (by rw [hs]; simp [hc])
      have hif : s ≠ "if".toList := by
        rintro rfl
        exact h.notElseif hs
      have hcondition := Line.condition?_call "if".toList (by decide) hword hif
      cases s with
      | nil => exact absurd (by rw [hs]; decide) h.notKeyword
      | cons d s =>
        have hd : Text.isWordChar d := hword d (by simp)
        have hblank := Text.isBlank_eq_false_of_isWordChar hd
        have hstart : ∀ t, Text.trimStart (d :: t) = d :: t := fun t => by
          simp [Text.trimStart, hblank]
        have hbrace : d ≠ '{' := Text.ne_of_isWordChar hd rfl
        simp only [List.cons_append] at hcondition ⊢
        simp only [Option.bind_eq_bind, Option.bind_some, hstart, hcondition]
        simp [hbrace]

/-- There are no blanks in front of a name. -/
theorem trimStart_name (h : Heading) (t : Text) : Text.trimStart (h.name ++ t) = h.name ++ t := by
  obtain ⟨c, r, hname, hc, -⟩ := h.isName
  have hblank := Text.isBlank_eq_false_of_isWordChar (Text.isWordChar_of_isNameStart hc)
  simp [hname, Text.trimStart, hblank]

/-- There are no blanks around a heading. -/
theorem trim_text (h : Heading) : Text.trim h.text = h.text := by
  have hstart : Text.trimStart h.text = h.text := by
    cases hm : h.marked with
    | true =>
      rw [text_of_marked hm]
      rfl
    | false => rw [text_of_not_marked hm, h.trimStart_name]
  rw [Text.trim, hstart, text]
  simp [Text.trimEnd, Text.isBlank]

/-- Behind the word `fun`, or without it, the header looks like a call. -/
theorem afterFun?_text (h : Heading) :
    (Function.afterFun? h.text).getD h.text =
      h.name ++ '(' :: (h.params.text ++ ") \x7b".toList) := by
  cases hm : h.marked with
  | true =>
    have hafter : Function.afterFun? h.text =
        some (Text.trimStart (h.name ++ '(' :: (h.params.text ++ ") \x7b".toList))) := by
      rw [text_of_marked hm]
      rfl
    rw [hafter, Option.getD_some, h.trimStart_name]
  | false =>
    rw [text_of_not_marked hm, Function.afterFun?]
    cases hfun : Text.after? "fun".toList (h.name ++ '(' :: (h.params.text ++ ") \x7b".toList)) with
    | none => rfl
    | some t =>
      -- a name may start with `fun`, but then no blank follows
      obtain ⟨s, hs, rfl⟩ := Line.eq_append_of_after? (by decide) hfun
      cases s with
      | nil => exact absurd (by rw [hs]; decide) h.notKeyword
      | cons d s =>
        have hd : Text.isBlank d = false :=
          Text.isBlank_eq_false_of_isWordChar (h.isWordChar_of_mem (by rw [hs]; simp))
        simp [hd, guard]

/-- The name and the parameters are read back from a heading without its word. -/
theorem signature?_call (h : Heading) :
    Function.signature? (h.name ++ '(' :: (h.params.text ++ ") \x7b".toList)) =
      some (h.name, Function.parameters h.params.text) := by
  obtain ⟨c, r, hname, hc, hr⟩ := h.isName
  -- the name ends at the first parenthesis, the parameters at the second one
  have htail : (r ++ '(' :: (h.params.text ++ ") \x7b".toList)).takeWhile Text.isWordChar = r := by
    rw [List.takeWhile_append_of_pos hr]
    simp [show Text.isWordChar '(' = false from rfl]
  have hparams : (h.params.text ++ ") \x7b".toList).takeWhile (fun c => c != '(' && c != ')') =
      h.params.text := by
    rw [List.takeWhile_append_of_pos fun c hc => by simp [h.flat c hc]]
    simp
  have hopen : Text.after? ['('] (Text.trimStart ('(' :: (h.params.text ++ ") \x7b".toList))) =
      some (h.params.text ++ ") \x7b".toList) := rfl
  have hclose : Text.after? [')'] ") \x7b".toList = some " \x7b".toList := rfl
  simp only [hname, List.cons_append, Function.signature?, hc, htail, List.drop_left, hopen,
    Option.bind_eq_bind, Option.bind_some, hparams, hclose]
  rfl

/-- The header is read as the definition that it is. -/
theorem header?_text (h : Heading) :
    Function.header? h.text = some (h.name, Function.parameters h.params.text) := by
  rw [Function.header?, h.trim_text, h.afterFun?_text, h.signature?_call]
  simp [Option.filter, h.notKeyword]

end Heading

/-! ## Lines that are no definitions -/

namespace Function

/-- What is read as a definition ends with an opening brace. -/
theorem getLast?_of_signature? {t : Text} {s : Text × List Text} (h : signature? t = some s) :
    t.getLast? = some '{' := by
  cases t with
  | nil => cases h
  | cons c r =>
    simp only [signature?, Option.bind_eq_bind, Option.bind_eq_some_iff] at h
    obtain ⟨_, -, opened, hopened, closed, hclosed, _, hbrace, -⟩ := h
    rw [Text.after?_eq_some] at hopened hclosed
    have hrest : Text.trimStart closed = ['{'] := by
      exact beq_iff_eq.1 ((Option.guard_eq_some' _).1 hbrace)
    -- each step of the reading leaves a suffix of the text
    have h1 : Text.trimStart closed <:+ closed := List.dropWhile_suffix _
    have h2 : closed <:+ opened :=
      (hclosed ▸ List.suffix_append [')'] closed).trans (List.drop_suffix _ opened)
    have h3 : opened <:+ r :=
      ((hopened ▸ List.suffix_append ['('] opened).trans (List.dropWhile_suffix _)).trans
        (List.drop_suffix _ r)
    have hsuffix : Text.trimStart closed <:+ c :: r :=
      ((h1.trans h2).trans h3).trans (List.suffix_cons c r)
    exact Line.getLast?_of_suffix hsuffix (hrest ▸ rfl)

/-- Taking off the marking word leaves the end of the text. -/
theorem afterFun?_getD_suffix (t : Text) : (afterFun? t).getD t <:+ t := by
  cases h : afterFun? t with
  | none => exact List.suffix_refl t
  | some u =>
    simp only [afterFun?, Option.bind_eq_bind, Option.bind_eq_some_iff] at h
    obtain ⟨r, hr, -, -, hu⟩ := h
    cases hu
    rw [Text.after?_eq_some] at hr
    exact (List.dropWhile_suffix _).trans (hr ▸ List.suffix_append _ r)

/-- A phrase is no heading. -/
theorem header?_phrase (p : Phrase) : header? p.text = none := by
  cases h : signature? ((afterFun? (Text.trim p.text)).getD (Text.trim p.text)) with
  | none => simp only [header?, h, Option.filter_none]
  | some s =>
    have hlast := Line.getLast?_of_suffix (afterFun?_getD_suffix _) (getLast?_of_signature? h)
    exact absurd hlast p.trim_getLast?

/-- The name that is read is the first word. -/
theorem fst_of_signature? {c : Char} {r : Text} {s : Text × List Text}
    (h : signature? (c :: r) = some s) : s.1 = c :: r.takeWhile Text.isWordChar := by
  simp only [signature?, Option.bind_eq_bind, Option.bind_eq_some_iff] at h
  obtain ⟨_, -, opened, -, closed, -, _, -, hs⟩ := h
  cases hs
  rfl

/-- A block that starts with a keyword is no definition. -/
theorem header?_eq_none (word : Text) (hk : word ∈ ["if".toList, "while".toList, "else".toList])
    (t : Text) : header? (word ++ ' ' :: (t ++ ['{'])) = none := by
  obtain ⟨c, r, hcr, hblank, hfun, hword⟩ : ∃ c r, word = c :: r ∧ Text.isBlank c = false ∧
      (∀ u, afterFun? (word ++ u) = none) ∧ r.all Text.isWordChar := by
    simp only [List.mem_cons, List.not_mem_nil, or_false] at hk
    rcases hk with rfl | rfl | rfl <;> exact ⟨_, _, rfl, rfl, fun _ => rfl, rfl⟩
  have htrim : Text.trim (word ++ ' ' :: (t ++ ['{'])) = word ++ ' ' :: (t ++ ['{']) := by
    refine Text.trim_eq_self (fun d hd => ?_) fun d hd => ?_
    · rw [hcr] at hd
      cases hd
      exact hblank
    · rw [← List.cons_append, ← List.append_assoc, List.getLast?_concat] at hd
      cases hd
      rfl
  rw [header?, htrim, hfun, Option.getD_none]
  cases h : signature? (word ++ ' ' :: (t ++ ['{'])) with
  | none => rfl
  | some s =>
    -- it has the shape of a definition, of a function that may not be defined
    have hname : s.1 = word := by
      rw [hcr, List.cons_append] at h
      rw [fst_of_signature? h, List.takeWhile_append_of_pos (List.all_eq_true.1 hword), hcr]
      simp [show Text.isWordChar ' ' = false from rfl]
    have hmem : s.1 ∈ keywords := by
      rw [hname]
      simp only [List.mem_cons, List.not_mem_nil, or_false] at hk
      rcases hk with rfl | rfl | rfl <;> decide
    simp [Option.filter, hmem]

/-- The header of a loop is no heading. -/
theorem header?_loop (c : Phrase) : header? (c.header "while".toList) = none := by
  have heq : c.header "while".toList = "while".toList ++ ' ' :: (c.wrapped ++ [' '] ++ ['{']) := by
    simp [Phrase.header]
  exact heq ▸ header?_eq_none "while".toList (by decide) (c.wrapped ++ [' '])

/-- The header of a branch is no heading. -/
theorem header?_branch (c : Phrase) : header? (c.header "if".toList) = none := by
  have heq : c.header "if".toList = "if".toList ++ ' ' :: (c.wrapped ++ [' '] ++ ['{']) := by
    simp [Phrase.header]
  exact heq ▸ header?_eq_none "if".toList (by decide) (c.wrapped ++ [' '])

/-- The header of a last branch is no heading. -/
theorem header?_otherwise : header? "else \x7b".toList = none :=
  header?_eq_none "else".toList (by decide) []

/-- The header of an alternative is no heading. -/
theorem header?_alternative (c : Phrase) : header? (c.header "else if".toList) = none := by
  have heq : c.header "else if".toList =
      "else".toList ++ ' ' :: ("if ".toList ++ c.wrapped ++ [' '] ++ ['{']) := by
    simp [Phrase.header]
  exact heq ▸ header?_eq_none "else".toList (by decide) ("if ".toList ++ c.wrapped ++ [' '])

end Function

end TapScript
