import Mathlib.Data.Option.Basic
import TapScript.Proofs.Matching
import TapScript.Proofs.Openers

/-! # Which functions a script has

Before a script runs, a scan goes through its lines from top to bottom, steps into the blocks of
loops and branches and jumps over the block of every definition that it meets. Where all blocks and
literals are closed, the functions that it registers are those whose headers stand in the block of
no other definition; of several headers with one name the last one counts, and the body is what
stands between the header and the brace that matches it.

* `Function.IsHeader` is the grammar of headers, and `Function.header?_eq_some_iff` says that
  headers are read by it.
* `Function.Surveyed.mem_iff` says at which lines the scan finds definitions.
* `Registry.ofLines_registers_outermost` puts this together with what is registered of the
  definitions. -/

namespace TapScript

/-! ## Headers -/

namespace Text

/-- No blank is a character of a word. -/
theorem isWordChar_eq_false_of_isBlank {c : Char} (h : isBlank c) : isWordChar c = false := by
  by_contra hword
  have hblank := isBlank_eq_false_of_isWordChar (by simpa using hword)
  rw [h] at hblank
  cases hblank

end Text

namespace Function

/-- The text is `name(params) {`, with blanks around the parentheses. -/
inductive IsSignature : Text → Text → List Text → Prop
  | intro {c : Char} {tail gap inner gap' : Text} (hc : Text.isNameStart c)
      (htail : ∀ d ∈ tail, Text.isWordChar d) (hgap : ∀ d ∈ gap, Text.isBlank d)
      (hinner : ∀ d ∈ inner, d ≠ '(' ∧ d ≠ ')') (hgap' : ∀ d ∈ gap', Text.isBlank d) :
      IsSignature (c :: (tail ++ (gap ++ '(' :: (inner ++ ')' :: (gap' ++ ['{'])))))
        (c :: tail) (parameters inner)

/-- The text is `name(params) {`, or the same behind the word `fun` and blanks. -/
inductive IsHeader : Text → Text → List Text → Prop
  | bare {t name : Text} {params : List Text} (h : IsSignature t name params) :
      IsHeader t name params
  | marked {blanks t name : Text} {params : List Text} (hne : blanks ≠ [])
      (hblanks : ∀ c ∈ blanks, Text.isBlank c) (h : IsSignature t name params) :
      IsHeader ("fun".toList ++ (blanks ++ t)) name params

/-- A signature is read exactly from the texts that are one. -/
theorem signature?_eq_some_iff {t name : Text} {params : List Text} :
    signature? t = some (name, params) ↔ IsSignature t name params := by
  constructor
  · intro h
    cases t with
    | nil => cases h
    | cons c r =>
      simp only [signature?, Option.bind_eq_bind, Option.bind_eq_some_iff,
        Option.guard_eq_some', beq_iff_eq, Text.after?_eq_some, Option.some.injEq,
        Prod.mk.injEq] at h
      obtain ⟨-, hc, opened, hopened, closed, hclosed, -, hbrace, rfl, rfl⟩ := h
      -- the parts of the text in their order
      obtain ⟨gap, hgap, hblank⟩ :=
        Text.exists_eq_trimStart (r.drop (r.takeWhile Text.isWordChar).length)
      obtain ⟨gap', hgap', hblank'⟩ := Text.exists_eq_trimStart closed
      rw [hbrace] at hgap'
      have hr : r = r.takeWhile Text.isWordChar ++ (gap ++ '(' :: opened) := by
        rw [hopened] at hgap
        rw [← List.singleton_append, ← hgap, List.prefix_iff_eq_append.1 (List.takeWhile_prefix _)]
      have hinner := (List.prefix_iff_eq_append.1
        (List.takeWhile_prefix (l := opened) fun c => c != '(' && c != ')')).symm
      rw [hclosed, List.singleton_append, hgap'] at hinner
      have hsignature := @IsSignature.intro c (r.takeWhile Text.isWordChar) gap
        (opened.takeWhile fun c => c != '(' && c != ')') gap' hc
        (fun d hd => List.all_eq_true.1 List.all_takeWhile d hd) hblank
        (fun d hd => by simpa using List.all_eq_true.1 List.all_takeWhile d hd) hblank'
      rw [← hinner, ← hr] at hsignature
      exact hsignature
  · rintro @⟨c, tail, gap, inner, gap', hc, htail, hgap, hinner, hgap'⟩
    have hname : (tail ++ (gap ++ '(' :: (inner ++ ')' :: (gap' ++ ['{'])))).takeWhile
        Text.isWordChar = tail := by
      refine Text.takeWhile_run htail fun d hd => ?_
      cases gap with
      | nil =>
        cases hd
        rfl
      | cons e gap =>
        cases hd
        exact Text.isWordChar_eq_false_of_isBlank (hgap d List.mem_cons_self)
    have hopen :
        Text.after? ['('] (Text.trimStart (gap ++ '(' :: (inner ++ ')' :: (gap' ++ ['{'])))) =
        some (inner ++ ')' :: (gap' ++ ['{'])) := by
      rw [Text.trimStart_append_of_blank hgap]
      rfl
    have hparams : (inner ++ ')' :: (gap' ++ ['{'])).takeWhile (fun c => c != '(' && c != ')') =
        inner := by
      rw [List.takeWhile_append_of_pos fun d hd => by simp [hinner d hd]]
      simp
    have hclose : Text.after? [')'] (')' :: (gap' ++ ['{'])) = some (gap' ++ ['{']) :=
      Text.after?_eq_some.2 rfl
    have hbrace : Text.trimStart (gap' ++ ['{']) = ['{'] := by
      rw [Text.trimStart_append_of_blank hgap']
      rfl
    simp only [signature?, hc, hname, List.drop_left, hopen, Option.bind_eq_bind, Option.bind_some,
      hparams, hclose, hbrace]
    rfl

/-- What follows the word `fun` and blanks, up to the first character that is none. -/
theorem afterFun?_eq_some_iff {t u : Text} :
    afterFun? t = some u ↔ Text.trimStart u = u ∧ ∃ blanks : Text, blanks ≠ [] ∧
      (∀ c ∈ blanks, Text.isBlank c) ∧ t = "fun".toList ++ (blanks ++ u) := by
  simp only [afterFun?, Option.bind_eq_bind, Option.bind_eq_some_iff, Option.guard_eq_some',
    Text.after?_eq_some, Option.some.injEq]
  constructor
  · rintro ⟨r, rfl, -, hhead, rfl⟩
    obtain ⟨blanks, hr, hblanks⟩ := Text.exists_eq_trimStart r
    refine ⟨?_, blanks, ?_, hblanks, by rw [← hr]⟩
    · have htrim := Text.trimStart_append_of_blank hblanks (Text.trimStart r)
      rw [← hr] at htrim
      exact htrim.symm
    · -- the first character is a blank, which trimming removes
      rintro rfl
      rw [List.nil_append] at hr
      cases r with
      | nil => cases hhead
      | cons c r =>
        have hc : Text.isBlank c := hhead
        have hlength := Text.trimStart_length_le r
        rw [Text.trimStart, List.dropWhile_cons_of_pos hc] at hr
        rw [Text.trimStart, ← hr, List.length_cons] at hlength
        omega
  · rintro ⟨hu, blanks, hne, hblanks, rfl⟩
    refine ⟨blanks ++ u, rfl, (), ?_, by rw [Text.trimStart_append_of_blank hblanks, hu]⟩
    cases blanks with
    | nil => exact absurd rfl hne
    | cons c blanks => exact hblanks c List.mem_cons_self

/-- The name is the first word. -/
theorem IsSignature.takeWhile_eq {t name : Text} {params : List Text}
    (h : IsSignature t name params) : t.takeWhile Text.isWordChar = name := by
  cases t with
  | nil => cases h
  | cons c r =>
    have hname := fst_of_signature? (signature?_eq_some_iff.2 h)
    obtain ⟨hc, -⟩ := h
    rw [List.takeWhile_cons_of_pos (Text.isWordChar_of_isNameStart hc)]
    exact hname.symm

/-- A signature begins with its name. -/
theorem IsSignature.trimStart_eq {t name : Text} {params : List Text}
    (h : IsSignature t name params) : Text.trimStart t = t := by
  obtain @⟨c, tail, gap, inner, gap', hc, -, -, -, -⟩ := h
  have hblank := Text.isBlank_eq_false_of_isWordChar (Text.isWordChar_of_isNameStart hc)
  rw [Text.trimStart, List.dropWhile_cons_of_neg (by simp [hblank])]

/-- Headers are read as the grammar says, and a keyword names no function. -/
theorem header?_eq_some_iff {t name : Text} {params : List Text} (ht : Text.trim t = t) :
    header? t = some (name, params) ↔ IsHeader t name params ∧ name ∉ keywords := by
  have hread : header? t = some (name, params) ↔
      IsSignature ((afterFun? t).getD t) name params ∧ name ∉ keywords := by
    simp only [header?, ht, Option.filter_eq_some_iff, signature?_eq_some_iff]
    simp
  rw [hread]
  constructor
  · rintro ⟨hsignature, hname⟩
    refine ⟨?_, hname⟩
    cases hfun : afterFun? t with
    | none =>
      rw [hfun] at hsignature
      exact .bare hsignature
    | some u =>
      rw [hfun] at hsignature
      obtain ⟨-, blanks, hne, hblanks, rfl⟩ := afterFun?_eq_some_iff.1 hfun
      exact .marked hne hblanks hsignature
  · rintro ⟨hheader, hname⟩
    refine ⟨?_, hname⟩
    cases hheader with
    | marked hne hblanks hsignature =>
      rw [afterFun?_eq_some_iff.2 ⟨hsignature.trimStart_eq, _, hne, hblanks, rfl⟩]
      exact hsignature
    | bare hsignature =>
      cases hfun : afterFun? t with
      | none => exact hsignature
      | some u =>
        -- then the name would be the word `fun`, which is a keyword
        obtain ⟨-, blanks, hne, hblanks, heq⟩ := afterFun?_eq_some_iff.1 hfun
        refine absurd ?_ hname
        have hword : t.takeWhile Text.isWordChar = "fun".toList := by
          rw [heq]
          refine Text.takeWhile_run (List.all_eq_true.1 rfl) fun c hc => ?_
          cases blanks with
          | nil => exact absurd rfl hne
          | cons d blanks =>
            cases hc
            exact Text.isWordChar_eq_false_of_isBlank (hblanks c List.mem_cons_self)
        rw [← hsignature.takeWhile_eq, hword]
        decide

/-- A header ends with a brace. -/
theorem IsHeader.getLast?_eq {t name : Text} {params : List Text} (h : IsHeader t name params) :
    t.getLast? = some '{' := by
  have hbare : ∀ {t}, IsSignature t name params → t.getLast? = some '{' := fun h =>
    getLast?_of_signature? (signature?_eq_some_iff.2 h)
  cases h with
  | bare h => exact hbare h
  | marked _ _ h => rw [← List.append_assoc, List.getLast?_append, hbare h, Option.some_or]

end Function

/-! ## Where definitions stand -/

namespace Block

/-- What matches in a part of some lines matches in the lines. -/
theorem Matches.extend {lines : List Line} {i j : Nat} (h : Matches lines i j) (u v : List Line) :
    Matches (u ++ (lines ++ v)) (u.length + i) (u.length + j) := by
  obtain @⟨header, last, inner, before, after, hheader, hinner, hlast⟩ := h
  have hmatches := Matches.intro (u ++ before) (after ++ v) hheader hinner hlast
  simpa [Nat.add_assoc] using hmatches

/-- Where all blocks are closed, some line matches each header. -/
theorem Nested.exists_matches {lines : List Line} (h : Nested lines) {i : Nat} {header : Line}
    (hi : lines[i]? = some header) (hheader : delta header.text = 1) : ∃ j, Matches lines i j := by
  induction h generalizing i with
  | nil => cases hi
  | @plain line rest hline _ ih =>
    cases i with
    | zero =>
      cases hi
      rw [hline] at hheader
      cases hheader
    | succ i =>
      obtain ⟨j, hj⟩ := ih hi
      have hmatches := hj.extend [line] []
      rw [List.append_nil, List.length_singleton, Nat.add_comm 1 i] at hmatches
      exact ⟨_, hmatches⟩
  | @block first last inner rest hfirst hinner hlast hrest ihinner ihrest =>
    cases i with
    | zero => exact ⟨_, .intro [] rest hfirst hinner hlast⟩
    | succ i =>
      rw [List.getElem?_cons_succ] at hi
      -- the header stands in the first block, or behind it
      by_cases hlt : i < inner.length
      · rw [List.getElem?_append_left hlt] at hi
        obtain ⟨j, hj⟩ := ihinner hi
        have hmatches := hj.extend [first] (last :: rest)
        rw [List.length_singleton, Nat.add_comm 1 i] at hmatches
        exact ⟨_, hmatches⟩
      · rw [List.getElem?_append_right (Nat.le_of_not_lt hlt)] at hi
        cases hk : i - inner.length with
        | zero =>
          rw [hk] at hi
          cases hi
          rw [hlast] at hheader
          cases hheader
        | succ k =>
          rw [hk] at hi
          obtain ⟨j, hj⟩ := ihrest hi
          have hmatches := hj.extend (first :: (inner ++ [last])) []
          simp only [List.append_nil, List.cons_append, List.append_assoc, List.nil_append,
            List.length_cons, List.length_append, List.length_nil] at hmatches
          rw [show inner.length + (0 + 1) + 1 + k = i + 1 by omega] at hmatches
          exact ⟨_, hmatches⟩

end Block

namespace Function

/-- The line at the place is the header of a definition, which no keyword is. -/
def Heads (lines : List Line) (i : Nat) (name : Text) (params : List Text) : Prop :=
  ∃ line, lines[i]? = some line ∧ IsHeader line.text name params ∧ name ∉ keywords

/-- The place is in the block of no definition whose header stands elsewhere. -/
def IsOutermost (lines : List Line) (i : Nat) : Prop :=
  ∀ a b name params, Heads lines a name params → Block.Matches lines a b → ¬(a < i ∧ i < b)

/-- The line at the place is the header of a function of the script. -/
structure Registers (lines : List Line) (i : Nat) (name : Text) (params : List Text) : Prop where
  heads : Heads lines i name params
  notBuiltin : Builtin.isNameOf name = false
  outermost : IsOutermost lines i

/-- The lines have the form of the lines of a script, and each closes its literals. -/
def AreClosed (lines : List Line) : Prop :=
  ∀ line ∈ lines, Line.IsNormal line.text ∧ Text.isClosed line.text

section Closed

variable {lines : List Line} (hlines : AreClosed lines)

include hlines

/-- A line is read as a header exactly if it heads a definition. -/
theorem header?_eq_some_iff_heads {i : Nat} {line : Line} {name : Text} {params : List Text}
    (hi : lines[i]? = some line) :
    header? line.text = some (name, params) ↔ Heads lines i name params := by
  rw [header?_eq_some_iff (hlines line (List.mem_of_getElem? hi)).1.trimmed]
  constructor
  · exact fun h => ⟨line, hi, h⟩
  · rintro ⟨line', hi', h⟩
    rw [hi] at hi'
    cases hi'
    exact h

/-- A header stands at a place exactly if a definition is headed there. -/
theorem headerAt_iff {i : Nat} : HeaderAt lines i ↔ ∃ name params, Heads lines i name params := by
  constructor
  · rintro ⟨line, hi, hsome⟩
    obtain ⟨⟨name, params⟩, hheader⟩ := Option.isSome_iff_exists.1 hsome
    exact ⟨name, params, (header?_eq_some_iff_heads hlines hi).1 hheader⟩
  · rintro ⟨name, params, h⟩
    have ⟨line, hi, _⟩ := h
    exact ⟨line, hi, by rw [(header?_eq_some_iff_heads hlines hi).2 h]; rfl⟩

/-- A header opens one block. -/
theorem Heads.delta_eq {i : Nat} {line : Line} {name : Text} {params : List Text}
    (h : Heads lines i name params) (hi : lines[i]? = some line) : Block.delta line.text = 1 := by
  obtain ⟨line', hi', hheader, -⟩ := h
  rw [hi] at hi'
  cases hi'
  obtain ⟨hnormal, hclosed⟩ := hlines line (List.mem_of_getElem? hi)
  exact (Block.delta_eq_one_iff hnormal).2 ⟨hheader.getLast?_eq, hclosed⟩

/-- A header does not stand at the end of a block. -/
theorem Heads.ne_of_matches {i a b : Nat} {name : Text} {params : List Text}
    (h : Heads lines i name params) (hab : Block.Matches lines a b) : i ≠ b := by
  rintro rfl
  obtain ⟨line, hi, hlast⟩ := hab.last
  rw [h.delta_eq hlines hi] at hlast
  cases hlast

/-- The body of a block is what stands between its header and the line that matches it. -/
theorem body_of_matches {i j : Nat} (h : Block.Matches lines i j) :
    Block.body lines i (Block.finish lines i) = (lines.take j).drop (i + 1) := by
  obtain ⟨hij, -, -, -⟩ := h.above
  obtain ⟨line, hj, hlast⟩ := h.last
  have hcloser := (Block.delta_eq_neg_one_iff (hlines line (List.mem_of_getElem? hj)).1).1 hlast
  rw [h.finish_eq, Block.body, if_neg (by omega), hj]
  dsimp only
  rw [if_pos (beq_iff_eq.2 hcloser)]

/-- What is defined at a place is headed there. -/
theorem DefinedAt.heads {i : Nat} {d : Nat × Function} (h : DefinedAt lines i d) :
    Heads lines i d.2.name d.2.params := by
  obtain ⟨line, hi, -, hheader, -⟩ := h
  exact (header?_eq_some_iff_heads hlines hi).1 hheader

end Closed

/-- A place has one header. -/
theorem Heads.unique {lines : List Line} (hlines : AreClosed lines) {i : Nat} {name name' : Text}
    {params params' : List Text} (h : Heads lines i name params)
    (h' : Heads lines i name' params') :
    name = name' ∧ params = params' := by
  have ⟨line, hi, _⟩ := h
  have heq := (header?_eq_some_iff_heads hlines hi).2 h
  rw [(header?_eq_some_iff_heads hlines hi).2 h'] at heq
  cases heq
  exact ⟨rfl, rfl⟩

/-- At each of the places something is defined. -/
theorem exists_of_mem_places {lines : List Line} {places : List Nat} {ds : List (Nat × Function)}
    (h : List.Forall₂ (DefinedAt lines) places ds) {i : Nat} (hi : i ∈ places) :
    ∃ d ∈ ds, DefinedAt lines i d := by
  obtain ⟨n, hn, rfl⟩ := List.getElem_of_mem hi
  have hn' : n < ds.length := h.length_eq ▸ hn
  exact ⟨ds[n], List.getElem_mem hn', h.get hn hn'⟩

namespace Surveyed

variable {lines : List Line} {places : List Nat} {ds : List (Nat × Function)}
  (h : Surveyed lines 0 places ds)

include h

/-- The scan goes on behind the block of what it has found. -/
theorem finish_lt {a i : Nat} (ha : a ∈ places) (hi : i ∈ places) (hai : a < i) :
    Block.finish lines a < i := by
  obtain ⟨m, hm, rfl⟩ := List.getElem_of_mem ha
  obtain ⟨n, hn, rfl⟩ := List.getElem_of_mem hi
  rcases Nat.lt_trichotomy m n with hlt | rfl | hgt
  · exact List.pairwise_iff_getElem.1 h.ordered m n hm hn hlt
  · exact absurd hai (Nat.lt_irrefl _)
  · -- the places ascend
    have hfinish := List.pairwise_iff_getElem.1 h.ordered n m hn hm hgt
    have hle := Block.le_finish (h.bounds _ hi).2
    omega

/-- The last definition with a property stands at the last place where every definition would have
it. -/
theorem exists_of_find? {p : Nat × Function → Bool} {d : Nat × Function}
    (hfind : ds.reverse.find? p = some d) :
    ∃ i ∈ places, DefinedAt lines i d ∧
      ∀ i' ∈ places, (∀ d', DefinedAt lines i' d' → p d') → i' ≤ i := by
  obtain ⟨-, later, earlier, hsplit, hlater⟩ := List.find?_eq_some_iff_append.1 hfind
  -- the places from the last one back, split where the definition stands
  have hdefined : List.Forall₂ (DefinedAt lines) places.reverse (later ++ d :: earlier) :=
    hsplit ▸ List.rel_reverse h.defined
  obtain ⟨i, before, hd, -, hback⟩ :=
    List.forall₂_cons_right_iff.1 (List.forall₂_drop_append _ _ _ hdefined)
  have hbehind := List.forall₂_take_append _ _ _ hdefined
  have hreverse : places.reverse = places.reverse.take later.length ++ i :: before := by
    rw [← hback, List.take_append_drop]
  have hordered := List.pairwise_reverse.2 h.ordered
  rw [hreverse] at hordered
  refine ⟨i, List.mem_reverse.1 (hreverse ▸ List.mem_append_right _ List.mem_cons_self), hd,
    fun i' hi' hp => ?_⟩
  have hle := Block.le_finish (h.bounds i' hi').2
  rw [← List.mem_reverse, hreverse, List.mem_append, List.mem_cons] at hi'
  rcases hi' with hlast | rfl | hfirst
  · -- a definition behind would have been found first
    obtain ⟨d', hd', hat⟩ := exists_of_mem_places hbehind hlast
    have hne := hlater d' hd'
    rw [hp d' hat] at hne
    cases hne
  · exact Nat.le_refl _
  · have hfinish := (List.pairwise_cons.1 (List.pairwise_append.1 hordered).2.1).1 i' hfirst
    omega

/-- The scan finds definitions at the headers that stand in the block of no other one. -/
theorem mem_iff (hlines : AreClosed lines) (hnested : Block.Nested lines) {i : Nat} :
    i ∈ places ↔ (∃ name params, Heads lines i name params) ∧ IsOutermost lines i := by
  have hmatches : ∀ {a name params}, Heads lines a name params → ∃ b, Block.Matches lines a b := by
    intro a name params hheads
    have ⟨line, ha, _⟩ := hheads
    exact hnested.exists_matches ha (hheads.delta_eq hlines ha)
  have hfound : ∀ {a}, a ∈ places → ∃ name params, Heads lines a name params := by
    intro a ha
    obtain ⟨d, -, hd⟩ := exists_of_mem_places h.defined ha
    exact ⟨_, _, hd.heads hlines⟩
  constructor
  · intro hi
    refine ⟨hfound hi, ?_⟩
    rintro a b name params hheads hab ⟨hai, hib⟩
    rcases h.complete a (Nat.zero_le a) ((headerAt_iff hlines).2 ⟨name, params, hheads⟩) with
      ha | ⟨a', ha', hlt, hle⟩
    · have hfinish := h.finish_lt ha hi hai
      rw [hab.finish_eq] at hfinish
      omega
    · -- the block around `a` that the scan has jumped over holds `i` as well
      obtain ⟨_, _, hheads'⟩ := hfound ha'
      obtain ⟨b', hab'⟩ := hmatches hheads'
      have hne := hheads.ne_of_matches hlines hab'
      have hfinish := h.finish_lt ha' hi (Nat.lt_trans hlt hai)
      rw [hab'.finish_eq] at hle hfinish
      have hinside := hab'.inside hab hlt (by omega)
      omega
  · rintro ⟨⟨name, params, hheads⟩, houter⟩
    rcases h.complete i (Nat.zero_le i) ((headerAt_iff hlines).2 ⟨name, params, hheads⟩) with
      hi | ⟨a, ha, hlt, hle⟩
    · exact hi
    · obtain ⟨_, _, hheads'⟩ := hfound ha
      obtain ⟨b, hab⟩ := hmatches hheads'
      have hne := hheads.ne_of_matches hlines hab
      rw [hab.finish_eq] at hle
      exact absurd ⟨hlt, by omega⟩ (houter a b _ _ hheads' hab)

end Surveyed

end Function

/-! ## What is registered -/

namespace Registry

/-- A definition hides the earlier ones of its name, and no others. -/
theorem get?_define (r : Registry) (f : Function) (name : Text) :
    (r.define f).get? name = if f.name = name then some f else r.get? name := by
  by_cases hname : f.name = name
  · rw [if_pos hname]
    exact List.find?_cons_of_pos (p := fun f : Function => f.name == name) (beq_iff_eq.2 hname)
  · rw [if_neg hname, get?, define, List.find?_cons_of_neg (by simpa using hname),
      List.find?_filter, get?]
    -- what was replaced has another name
    congr 1
    funext f'
    by_cases hf' : f'.name = name
    · simp [hf', Ne.symm hname]
    · simp [hf']

/-- A function that is added is found under its name, unless a command has that name. -/
theorem get?_add (r : Registry) (number : Nat) (f : Function) {name : Text}
    (hname : Builtin.isNameOf name = false) :
    (r.add number f).1.get? name = if f.name = name then some f else r.get? name := by
  unfold add
  dsimp only
  split
  · rename_i hbuiltin
    rw [if_neg]
    rintro rfl
    rw [hname] at hbuiltin
    cases hbuiltin
  · split <;> exact get?_define r f name

/-- Under the name of a command no function is added. -/
theorem get?_add_of_isNameOf (r : Registry) (number : Nat) (f : Function) {name : Text}
    (hname : Builtin.isNameOf name) : (r.add number f).1.get? name = r.get? name := by
  have hdefine : Builtin.isNameOf f.name ≠ true → (r.define f).get? name = r.get? name := by
    intro hf
    rw [get?_define, if_neg]
    rintro rfl
    exact hf hname
  unfold add
  dsimp only
  split
  · rfl
  · rename_i hf
    split <;> exact hdefine hf

/-- The last definition of a name counts. -/
theorem get?_addAll (ds : List (Nat × Function)) (r : Registry) {name : Text}
    (hname : Builtin.isNameOf name = false) :
    (r.addAll ds).1.get? name =
      ((ds.reverse.find? fun d => d.2.name == name).map Prod.snd).or (r.get? name) := by
  induction ds generalizing r with
  | nil => rfl
  | cons d ds ih =>
    obtain ⟨number, f⟩ := d
    have hrest : (r.addAll ((number, f) :: ds)).1 = ((r.add number f).1.addAll ds).1 := rfl
    rw [hrest, ih, get?_add r number f hname, List.reverse_cons, List.find?_append]
    cases ds.reverse.find? fun d => d.2.name == name with
    | some d => rfl
    | none =>
      by_cases hf : f.name = name
      · simp [hf]
      · simp [hf]

/-- Commands cannot be redefined. -/
theorem get?_addAll_of_isNameOf (ds : List (Nat × Function)) (r : Registry) {name : Text}
    (hname : Builtin.isNameOf name) : (r.addAll ds).1.get? name = r.get? name := by
  induction ds generalizing r with
  | nil => rfl
  | cons d ds ih =>
    have hrest : (r.addAll (d :: ds)).1 = ((r.add d.1 d.2).1.addAll ds).1 := rfl
    rw [hrest, ih, get?_add_of_isNameOf r d.1 d.2 hname]

section Closed

open TapScript.Function (AreClosed Registers Heads DefinedAt exists_of_mem_places exists_surveyed)

variable {lines : List Line} (hlines : AreClosed lines) (hnested : Block.Nested lines)

include hlines hnested

/-- A header of a function of the script gives its name a meaning. -/
theorem isSome_get?_ofLines {i : Nat} {name : Text} {params : List Text}
    (h : Registers lines i name params) : ((ofLines lines).1.get? name).isSome := by
  obtain ⟨places, hplaces⟩ := exists_surveyed 0 lines
  obtain ⟨d, hd, hdefined⟩ := exists_of_mem_places hplaces.defined
    ((hplaces.mem_iff hlines hnested).2 ⟨⟨name, params, h.heads⟩, h.outermost⟩)
  have hname : d.2.name = name := ((hdefined.heads hlines).unique hlines h.heads).1
  have hfind : ((Function.definitions 0 lines).reverse.find? fun d => d.2.name == name).isSome :=
    List.find?_isSome.2 ⟨d, List.mem_reverse.2 hd, beq_iff_eq.2 hname⟩
  rw [ofLines, get?_addAll _ _ h.notBuiltin, Option.isSome_or, Option.isSome_map,
    hfind, Bool.true_or]

/-- What a name means is the definition at the last of the headers. -/
theorem exists_of_get?_ofLines {name : Text} {f : Function}
    (h : (ofLines lines).1.get? name = some f) :
    f.name = name ∧ ∃ i j, Registers lines i name f.params ∧
      (∀ i' params', Registers lines i' name params' → i' ≤ i) ∧ Block.Matches lines i j ∧
      f.body = (lines.take j).drop (i + 1) := by
  cases hbuiltin : Builtin.isNameOf name with
  | true =>
    rw [ofLines, get?_addAll_of_isNameOf _ _ hbuiltin] at h
    cases h
  | false =>
    have hempty : empty.get? name = none := rfl
    rw [ofLines, get?_addAll _ _ hbuiltin, hempty, Option.or_none, Option.map_eq_some_iff] at h
    obtain ⟨d, hfind, rfl⟩ := h
    have hname : d.2.name = name := beq_iff_eq.1 (List.find?_some hfind :)
    obtain ⟨places, hplaces⟩ := exists_surveyed 0 lines
    obtain ⟨i, hi, hd, hlast⟩ := hplaces.exists_of_find? hfind
    obtain ⟨-, houter⟩ := (hplaces.mem_iff hlines hnested).1 hi
    have hheads := hd.heads hlines
    have ⟨line, hline, _⟩ := hheads
    obtain ⟨j, hij⟩ := hnested.exists_matches hline (hheads.delta_eq hlines hline)
    refine ⟨hname, i, j, ⟨hname ▸ hheads, hbuiltin, houter⟩, fun i' params' h' => ?_, hij, ?_⟩
    · have hi' := (hplaces.mem_iff hlines hnested).2 ⟨⟨name, params', h'.heads⟩, h'.outermost⟩
      refine hlast i' hi' fun d' hat => beq_iff_eq.2 ?_
      exact ((hat.heads hlines).unique hlines h'.heads).1
    · obtain ⟨_, _, _, _, hbody⟩ := hd
      rw [hbody, Function.body_of_matches hlines hij]

/-- **The scan registers the outermost definitions.** Among lines in the form of a script's lines,
in which all literals and blocks are closed, a name means a function exactly if it stands in a
header, is neither a keyword nor the name of a command, and the header is in the block of no other
definition, be it one of a command. The function is then that of the last such header: it has the
header's parameters, and its body is what stands between the header and the line that matches it. -/
theorem ofLines_registers_outermost (name : Text) :
    (((ofLines lines).1.get? name).isSome ↔ ∃ i params, Registers lines i name params) ∧
    ∀ f, (ofLines lines).1.get? name = some f ↔ f.name = name ∧ ∃ i j,
      Registers lines i name f.params ∧ (∀ i' params', Registers lines i' name params' → i' ≤ i) ∧
      Block.Matches lines i j ∧ f.body = (lines.take j).drop (i + 1) := by
  have hexists := @exists_of_get?_ofLines lines hlines hnested name
  refine ⟨⟨fun h => ?_, fun ⟨_, _, h⟩ => isSome_get?_ofLines hlines hnested h⟩,
    fun f => ⟨hexists, ?_⟩⟩
  · obtain ⟨f, hf⟩ := Option.isSome_iff_exists.1 h
    obtain ⟨-, i, -, hi, -⟩ := hexists hf
    exact ⟨i, f.params, hi⟩
  · rintro ⟨hname, i, j, hi, hlast, hij, hbody⟩
    -- the name has a meaning, and of two last headers both are the same
    obtain ⟨f', hf'⟩ := Option.isSome_iff_exists.1 (isSome_get?_ofLines hlines hnested hi)
    obtain ⟨hname', i', j', hi', hlast', hij', hbody'⟩ := hexists hf'
    obtain rfl : i = i' := Nat.le_antisymm (hlast' i _ hi) (hlast i' _ hi')
    obtain rfl : j = j' := hij.finish_eq.symm.trans hij'.finish_eq
    have hparams := (hi.heads.unique hlines hi'.heads).2
    rw [hf', Option.some.injEq]
    obtain ⟨n, ps, b⟩ := f
    obtain ⟨n', ps', b'⟩ := f'
    rw [Function.mk.injEq]
    exact ⟨hname'.trans hname.symm, hparams.symm, hbody'.trans hbody.symm⟩

end Closed

/-- The second `greet` counts, though the first one stands in a branch and comes before it. What
stands inside the definition of a command or of another function is no function of the script, and
neither is the command. -/
theorem ofLines_registers_outermost_redefined :
    let lines : List Line :=
      [⟨1, "fun click(x) \x7b".toList⟩, ⟨2, "fun hidden() \x7b".toList⟩, ⟨2, "\x7d".toList⟩,
      ⟨3, "\x7d".toList⟩, ⟨4, "if (true) \x7b".toList⟩, ⟨5, "greet(name) \x7b".toList⟩,
      ⟨5, "\x7d".toList⟩, ⟨6, "\x7d".toList⟩, ⟨7, "fun greet(who, times) \x7b".toList⟩,
      ⟨8, "inner() \x7b".toList⟩, ⟨8, "\x7d".toList⟩, ⟨9, "log(\"\x7b\" + who)".toList⟩,
      ⟨10, "\x7d".toList⟩]
    let greet : Function := ⟨"greet".toList, ["who".toList, "times".toList], (lines.drop 9).take 3⟩
    Function.AreClosed lines ∧ Block.Nested lines ∧
      (∃ i j, Function.Registers lines i greet.name greet.params ∧ Block.Matches lines i j ∧
        greet.body = (lines.take j).drop (i + 1)) ∧
      ∀ name ∈ ["click".toList, "hidden".toList, "inner".toList],
        ¬∃ i params, Function.Registers lines i name params := by
  intro lines greet
  have hsource :
      Line.ofSource ("fun click(x) \x7b\nfun hidden() \x7b \x7d\n\x7d\nif (true) \x7b\n" ++
      "greet(name) \x7b \x7d\n\x7d\nfun greet(who, times) \x7b\ninner() \x7b \x7d\n" ++
      "log(\"\x7b\" + who)\n\x7d").toList = lines := by decide +kernel
  have hclosed : Function.AreClosed lines := by
    intro line hline
    refine ⟨Line.isNormal_of_mem_texts (List.mem_map_of_mem (hsource ▸ hline)), ?_⟩
    have hall : lines.all fun line => Text.isClosed line.text := rfl
    exact List.all_eq_true.1 hall line hline
  have hnested : Block.Nested lines := by
    refine @Block.Nested.block _ _ [_, _] _ rfl (@Block.Nested.block _ _ [] [] rfl .nil rfl .nil)
      rfl ?_
    refine @Block.Nested.block _ _ [_, _] _ rfl (@Block.Nested.block _ _ [] [] rfl .nil rfl .nil)
      rfl ?_
    refine @Block.Nested.block _ _ [_, _, _] [] rfl ?_ rfl .nil
    exact @Block.Nested.block _ _ [] [_] rfl .nil rfl (.plain rfl .nil)
  obtain ⟨hgreet, hothers⟩ : (ofLines lines).1.get? greet.name = some greet ∧
      ∀ name ∈ ["click".toList, "hidden".toList, "inner".toList],
        (ofLines lines).1.get? name = none := by
    decide +kernel
  obtain ⟨-, i, j, hi, -, hij, hbody⟩ :=
    ((ofLines_registers_outermost hclosed hnested greet.name).2 greet).1 hgreet
  refine ⟨hclosed, hnested, ⟨i, j, hi, hij, hbody⟩, fun name hname hregisters => ?_⟩
  have hsome := (ofLines_registers_outermost hclosed hnested name).1.2 hregisters
  rw [hothers name hname] at hsome
  cases hsome

end Registry

end TapScript
