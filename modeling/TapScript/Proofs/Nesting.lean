import TapScript.Proofs.Phrase

/-! # Nesting of parentheses

Searches and splits of a text look at its marks one by one and count parentheses on the way. When a
text is put together from parts that close the literals and the parentheses that they open, what is
found in the whole can be told from what is found in the parts.

* `Text.marks_eq_append` cuts a text at a mark that stands outside literals.
* `Mark.opened?` counts the open parentheses; `Mark.closing?_eq_some_iff` is the search for a
  closing parenthesis in these terms.
* `Text.IsWhole` says that a text leaves nothing open and closes nothing else. -/

namespace TapScript

namespace Text

/-! ## Marks and texts -/

/-- A scan can be cut at each of its marks. -/
theorem Quoting.scan_eq_append {q : Quoting} {t : Text} {ms₁ ms₂ : List Mark} {m : Mark}
    (h : q.scan t = ms₁ ++ m :: ms₂) :
    ∃ u v, t = u ++ m.char :: v ∧ q.scan u = ms₁ ∧
      m.outside = ((q.behind u).isCode && !isQuote m.char) ∧
      ((q.behind u).step m.char).scan v = ms₂ := by
  induction ms₁ generalizing q t with
  | nil =>
    cases t with
    | nil => cases h
    | cons c t =>
      rw [scan, List.nil_append, List.cons.injEq] at h
      obtain ⟨rfl, hrest⟩ := h
      exact ⟨[], t, rfl, rfl, rfl, hrest⟩
  | cons m' ms₁ ih =>
    cases t with
    | nil => cases h
    | cons c t =>
      rw [scan, List.cons_append, List.cons.injEq] at h
      obtain ⟨rfl, hrest⟩ := h
      obtain ⟨u, v, rfl, rfl, hout, hv⟩ := ih hrest
      exact ⟨c :: u, v, rfl, rfl, hout, hv⟩

/-- In front of a mark that stands outside literals all literals are closed. -/
theorem marks_eq_append {t : Text} {ms₁ ms₂ : List Mark} {m : Mark} (h : marks t = ms₁ ++ m :: ms₂)
    (hm : m.outside) :
    ∃ u v, t = u ++ m.char :: v ∧ isClosed u ∧ marks u = ms₁ ∧ marks v = ms₂ := by
  rw [marks_eq_scan] at h
  obtain ⟨u, v, rfl, hu, hout, hv⟩ := Quoting.scan_eq_append h
  rw [hm, Eq.comm, Bool.and_eq_true, Bool.not_eq_true'] at hout
  have hclosed : isClosed u := hout.1
  rw [behind_eq_code hclosed, Quoting.step, hout.2] at hv
  exact ⟨u, v, rfl, hclosed, by rw [marks_eq_scan, hu], by rw [marks_eq_scan]; exact hv⟩

/-- A character that is no quote stands outside literals behind a closed text. -/
theorem marks_append_cons {u : Text} (hu : isClosed u) {c : Char}
    (hc : isQuote c = false) (v : Text) :
    marks (u ++ c :: v) = marks u ++ ⟨c, true⟩ :: marks v := by
  rw [marks_append hu, marks_eq_scan (c :: v), Quoting.scan, Quoting.step, hc, marks_eq_scan v]
  rfl

/-- A character that is no quote stands outside literals, and nothing changes behind it. -/
theorem marks_cons {c : Char} (hc : isQuote c = false) (t : Text) :
    marks (c :: t) = ⟨c, true⟩ :: marks t :=
  marks_append_cons (u := []) rfl hc t

/-- Behind a closed text, another one is closed if it is so by itself. -/
theorem isClosed_append_eq {u v : Text} (hu : isClosed u) : isClosed (u ++ v) = isClosed v := by
  rw [isClosed, Quoting.behind_append, behind_eq_code hu, isClosed]

/-- Characters are read off two parts one after the other. -/
theorem chars_append (ms₁ ms₂ : List Mark) : chars (ms₁ ++ ms₂) = chars ms₁ ++ chars ms₂ :=
  List.map_append

/-- There are as many characters as marks. -/
theorem length_chars (ms : List Mark) : (chars ms).length = ms.length := List.length_map _

/-- There are as many marks as characters. -/
theorem length_marks (t : Text) : (marks t).length = t.length := by
  rw [← length_chars, chars_marks]

namespace Mark

/-! ## Counting parentheses -/

/-- The depth of parentheses behind the marks. -/
def depthBehind (depth : Int) (ms : List Mark) : Int :=
  ms.foldl (fun depth m => m.depthAfter depth) depth

/-- How many parentheses are open behind the mark, given that `extra` were open in front of it;
nothing if it closes one that was not opened. -/
def openAfter? (m : Mark) (extra : Nat) : Option Nat :=
  if m.is '(' then some (extra + 1)
  else if m.is ')' then
    match extra with
    | 0 => none
    | k + 1 => some k
  else some extra

/-- How many parentheses are open behind the marks; nothing if one is closed that was not opened. -/
def opened? : (extra : Nat) → List Mark → Option Nat
  | extra, [] => some extra
  | extra, m :: ms => (m.openAfter? extra).bind fun k => opened? k ms

/-- The mark of a character outside literals is determined by the character. -/
theorem eq_of_is {m : Mark} {c : Char} (h : m.is c) : m = ⟨c, true⟩ := by
  obtain ⟨d, outside⟩ := m
  simp only [Mark.is, Bool.and_eq_true, beq_iff_eq] at h
  rw [h.1, h.2]

/-- Without marks the depth does not change. -/
@[simp] theorem depthBehind_nil (depth : Int) : depthBehind depth [] = depth := rfl

/-- The depth is counted mark by mark. -/
@[simp] theorem depthBehind_cons (depth : Int) (m : Mark) (ms : List Mark) :
    depthBehind depth (m :: ms) = depthBehind (m.depthAfter depth) ms := rfl

/-- With more parentheses open in front of a mark, as many more are open behind it. -/
theorem openAfter?_add {m : Mark} {extra k : Nat} (h : m.openAfter? extra = some k) (more : Nat) :
    m.openAfter? (extra + more) = some (k + more) := by
  unfold openAfter? at h ⊢
  split at h
  · rw [if_pos ‹_›]
    cases h
    rw [Nat.add_right_comm]
  · rw [if_neg ‹_›]
    split at h
    · rw [if_pos ‹_›]
      cases extra with
      | zero => cases h
      | succ j =>
        cases h
        rw [Nat.add_right_comm]
    · rw [if_neg ‹_›]
      cases h
      rfl

/-- Where no unopened parenthesis is closed, both counts agree. -/
theorem depthAfter_of_openAfter? {m : Mark} {extra k : Nat} (h : m.openAfter? extra = some k) :
    m.depthAfter extra = k := by
  unfold openAfter? at h
  unfold depthAfter
  split at h
  · rw [if_pos ‹_›]
    cases h
    rfl
  · rw [if_neg ‹_›]
    split at h
    · rw [if_pos ‹_›]
      cases extra with
      | zero => cases h
      | succ j =>
        cases h
        omega
    · rw [if_neg ‹_›]
      cases h
      rfl

/-- Only a closing parenthesis can close what was not opened. -/
theorem openAfter?_eq_none_iff {m : Mark} {extra : Nat} :
    m.openAfter? extra = none ↔ m = ⟨')', true⟩ ∧ extra = 0 := by
  constructor
  · intro h
    unfold openAfter? at h
    split at h
    · cases h
    · split at h
      · rename_i hclose
        cases extra with
        | zero => exact ⟨eq_of_is hclose, rfl⟩
        | succ j => cases h
      · cases h
  · rintro ⟨rfl, rfl⟩
    rfl

/-- What stands in literals opens and closes nothing. -/
theorem opened?_of_inside {ms : List Mark} (h : ∀ m ∈ ms, m.outside = false) (extra : Nat) :
    opened? extra ms = some extra := by
  induction ms with
  | nil => rfl
  | cons m ms ih =>
    have hm : m.openAfter? extra = some extra := by
      simp [openAfter?, Mark.is, h m (by simp)]
    rw [opened?, hm, Option.bind_some]
    exact ih fun m' hm' => h m' (by simp [hm'])

/-- Two parts are counted one after the other. -/
theorem opened?_append (extra : Nat) (ms₁ ms₂ : List Mark) :
    opened? extra (ms₁ ++ ms₂) = (opened? extra ms₁).bind fun k => opened? k ms₂ := by
  induction ms₁ generalizing extra with
  | nil => rfl
  | cons m ms₁ ih =>
    rw [List.cons_append, opened?, opened?, Option.bind_assoc]
    exact congrArg _ (funext fun k => ih k)

/-- Parentheses around the marks stay open behind them. -/
theorem opened?_add {extra k : Nat} {ms : List Mark} (h : opened? extra ms = some k) (more : Nat) :
    opened? (extra + more) ms = some (k + more) := by
  induction ms generalizing extra with
  | nil =>
    cases h
    rfl
  | cons m ms ih =>
    obtain ⟨j, hm, hms⟩ := Option.bind_eq_some_iff.1 h
    rw [opened?, openAfter?_add hm, Option.bind_some]
    exact ih hms

/-- Where nothing is closed too much, the count is the depth. -/
theorem depthBehind_of_opened? {extra k : Nat} {ms : List Mark} (h : opened? extra ms = some k) :
    depthBehind extra ms = k := by
  induction ms generalizing extra with
  | nil =>
    cases h
    rfl
  | cons m ms ih =>
    obtain ⟨j, hm, hms⟩ := Option.bind_eq_some_iff.1 h
    rw [depthBehind_cons, depthAfter_of_openAfter? hm]
    exact ih hms

/-- The search for the closing parenthesis goes mark by mark. -/
theorem closing?_cons (extra : Nat) (m : Mark) (ms : List Mark) :
    closing? extra (m :: ms) = match m.openAfter? extra with
      | none => some ([], chars ms)
      | some k => (closing? k ms).map fun (inner, rest) => (m.char :: inner, rest) := by
  unfold openAfter?
  cases extra with
  | zero =>
    rw [closing?]
    split
    · rfl
    · split <;> rfl
  | succ k =>
    rw [closing?]
    split
    · rfl
    · split <;> rfl

/-- The parenthesis that closes an open one is the first behind which nothing is left open. -/
theorem closing?_eq_some_iff {extra : Nat} {ms : List Mark} {inner rest : Text} :
    closing? extra ms = some (inner, rest) ↔
      ∃ ms₁ ms₂, ms = ms₁ ++ ⟨')', true⟩ :: ms₂ ∧ chars ms₁ = inner ∧ chars ms₂ = rest ∧
        opened? extra ms₁ = some 0 := by
  induction ms generalizing extra inner with
  | nil => simp [closing?]
  | cons m ms ih =>
    rw [closing?_cons]
    cases hm : m.openAfter? extra with
    | none =>
      obtain ⟨rfl, rfl⟩ := openAfter?_eq_none_iff.1 hm
      constructor
      · intro h
        cases h
        exact ⟨[], ms, rfl, rfl, rfl, rfl⟩
      · rintro ⟨_ | ⟨m', ms₁⟩, ms₂, heq, rfl, rfl, hopened⟩
        · cases heq
          rfl
        · -- nothing goes on behind the parenthesis that closes too much
          cases heq
          cases hopened
    | some k =>
      constructor
      · intro h
        obtain ⟨⟨inner', rest'⟩, hfound, heq⟩ := Option.map_eq_some_iff.1 h
        cases heq
        obtain ⟨ms₁, ms₂, rfl, rfl, rfl, hopened⟩ := ih.1 hfound
        exact ⟨m :: ms₁, ms₂, rfl, rfl, rfl, by rw [opened?, hm, Option.bind_some, hopened]⟩
      · rintro ⟨_ | ⟨m', ms₁⟩, ms₂, heq, rfl, rfl, hopened⟩
        · cases heq
          cases hopened
          cases hm
        · cases heq
          rw [opened?, hm, Option.bind_some] at hopened
          rw [Option.map_eq_some_iff]
          exact ⟨(chars ms₁, chars ms₂), ih.2 ⟨ms₁, ms₂, rfl, rfl, rfl, hopened⟩, rfl⟩

/-- Whether a parenthesis is closed depends on what follows only through the parentheses left
open. -/
theorem isSome_closing?_append (extra : Nat) (ms rest : List Mark) :
    (closing? extra (ms ++ rest)).isSome = match opened? extra ms with
      | none => true
      | some k => (closing? k rest).isSome := by
  induction ms generalizing extra with
  | nil => rfl
  | cons m ms ih =>
    rw [List.cons_append, closing?_cons, opened?]
    cases m.openAfter? extra with
    | none => rfl
    | some k =>
      show (Option.map _ (closing? k (ms ++ rest))).isSome = _
      rw [Option.isSome_map, ih, Option.bind_some]

end Mark

/-! ## Balanced texts -/

/-- Outside literals, every parenthesis of the text is closed in it, and none is closed that was not
opened. -/
def isBalanced (t : Text) : Bool := Mark.opened? 0 (marks t) == some 0

/-- Behind a balanced text as many parentheses are open as in front of it. -/
theorem opened?_of_isBalanced {t : Text} (h : isBalanced t) (extra : Nat) :
    Mark.opened? extra (marks t) = some extra := by
  have hzero : Mark.opened? 0 (marks t) = some 0 := eq_of_beq h
  have hadd := Mark.opened?_add hzero extra
  rwa [Nat.zero_add] at hadd

/-- The depth behind a balanced text is as in front of it. -/
theorem depthBehind_of_isBalanced {t : Text} (h : isBalanced t) :
    Mark.depthBehind 0 (marks t) = 0 :=
  Mark.depthBehind_of_opened? (opened?_of_isBalanced h 0)

/-- A text without quotes and parentheses. -/
def isPlain (t : Text) : Bool := t.all fun c => !isQuote c && c != '(' && c != ')'

/-- A plain text has no quotes, so it is closed. -/
theorem isClosed_of_isPlain {t : Text} (h : isPlain t) : isClosed t := by
  refine (marks_of_forall_not_isQuote fun c hc => ?_).1
  have hplain := List.all_eq_true.1 h c hc
  simp only [Bool.and_eq_true, Bool.not_eq_true'] at hplain
  exact hplain.1.1

/-- A plain text has no parentheses, so it is balanced. -/
theorem isBalanced_of_isPlain {t : Text} (h : isPlain t) : isBalanced t := by
  have hplain := List.all_eq_true.1 h
  simp only [Bool.and_eq_true, Bool.not_eq_true', bne_iff_ne] at hplain
  rw [isBalanced, (marks_of_forall_not_isQuote fun c hc => (hplain c hc).1.1).2]
  clear h
  induction t with
  | nil => rfl
  | cons c t ih =>
    have hc : Mark.openAfter? ⟨c, true⟩ 0 = some 0 := by
      simp [Mark.openAfter?, Mark.is, hplain c (by simp)]
    rw [List.map_cons, Mark.opened?, hc, Option.bind_some]
    exact ih fun d hd => hplain d (by simp [hd])

/-- The text closes the literals and the parentheses that it opens, and no others. -/
structure IsWhole (t : Text) : Prop where
  closed : isClosed t
  balanced : isBalanced t

instance (t : Text) : Decidable (IsWhole t) :=
  decidable_of_iff (isClosed t ∧ isBalanced t)
    ⟨fun h => ⟨h.1, h.2⟩, fun h => ⟨h.closed, h.balanced⟩⟩

/-- A plain text is whole. -/
theorem isWhole_of_isPlain {t : Text} (h : isPlain t) : IsWhole t :=
  ⟨isClosed_of_isPlain h, isBalanced_of_isPlain h⟩

/-- A whole text in front does not matter to whether a text is whole. -/
theorem IsWhole.isWhole_append_iff {s : Text} (hs : IsWhole s) (t : Text) :
    IsWhole (s ++ t) ↔ IsWhole t := by
  have hclosed : isClosed (s ++ t) = isClosed t := isClosed_append_eq hs.closed
  have hbalanced : isBalanced (s ++ t) = isBalanced t := by
    rw [isBalanced, marks_append hs.closed, Mark.opened?_append, opened?_of_isBalanced hs.balanced,
      Option.bind_some, isBalanced]
  constructor
  · rintro ⟨hc, hb⟩
    exact ⟨hclosed ▸ hc, hbalanced ▸ hb⟩
  · rintro ⟨hc, hb⟩
    exact ⟨hclosed.symm ▸ hc, hbalanced.symm ▸ hb⟩

/-- Two whole texts are whole together. -/
theorem IsWhole.append {s t : Text} (hs : IsWhole s) (ht : IsWhole t) : IsWhole (s ++ t) :=
  (hs.isWhole_append_iff t).2 ht

/-- The text in parentheses. -/
def wrap (t : Text) : Text := '(' :: t ++ [')']

/-- A whole text in parentheses is whole. -/
theorem IsWhole.wrap {t : Text} (h : IsWhole t) : IsWhole (wrap t) := by
  have hmarks : marks (t.wrap) = ⟨'(', true⟩ :: (marks t ++ [⟨')', true⟩]) := by
    rw [Text.wrap, List.cons_append, marks_cons rfl, marks_append_cons h.closed rfl, marks_nil]
  constructor
  · rw [Text.wrap, List.cons_append]
    exact isClosed_append (s := ['(']) rfl (isClosed_append h.closed rfl)
  · have hopened : Mark.opened? 1 (marks t ++ [⟨')', true⟩]) = some 0 := by
      rw [Mark.opened?_append, opened?_of_isBalanced h.balanced, Option.bind_some]
      rfl
    rw [isBalanced, hmarks]
    exact beq_iff_eq.2 hopened

/-- The parentheses around a whole text are closed at its end. -/
theorem IsWhole.unwrap?_wrap {t : Text} (h : IsWhole t) : unwrap? (t.wrap) = some t := by
  have hclosing : Mark.closing? 0 (marks (t ++ [')'])) = some (t, []) := by
    rw [Mark.closing?_eq_some_iff]
    refine ⟨marks t, [], ?_, chars_marks t, rfl, opened?_of_isBalanced h.balanced 0⟩
    rw [marks_append_cons h.closed rfl, marks_nil]
  rw [Text.wrap, List.cons_append, unwrap?, hclosing]

/-- A text that goes on behind a whole one is no parenthesis from its first to its last
character. -/
theorem IsWhole.unwrap?_append {s t : Text} (hs : IsWhole s) (hs' : s ≠ []) (ht : t ≠ []) :
    unwrap? (s ++ t) = none := by
  cases s with
  | nil => exact absurd rfl hs'
  | cons c s =>
    by_cases hc : c = '('
    · subst hc
      have hclosed : isClosed s := hs.closed
      have hopened := opened?_of_isBalanced hs.balanced 0
      rw [marks_cons rfl] at hopened
      have hopened : Mark.opened? 1 (marks s) = some 0 := hopened
      -- the parenthesis is closed in `s`, so one is closed too much if it is not counted
      have hnone : Mark.opened? 0 (marks s) = none := by
        cases hk : Mark.opened? 0 (marks s) with
        | none => rfl
        | some k =>
          rw [Mark.opened?_add hk 1] at hopened
          cases hopened
      rw [List.cons_append, unwrap?]
      split
      · rename_i inner hclosing
        obtain ⟨ms₁, ms₂, hmarks, -, hms₂, hinner⟩ := Mark.closing?_eq_some_iff.1 hclosing
        have hlast : ms₂ = [] := List.map_eq_nil_iff.1 hms₂
        subst hlast
        have hlength := congrArg List.length hmarks
        rw [marks_append hclosed] at hmarks hlength
        have hpos : 0 < (marks t).length := by
          rw [length_marks]
          exact List.length_pos_iff.2 ht
        simp only [List.length_append, List.length_cons, List.length_nil] at hlength
        -- `s` ends in front of the last parenthesis, since `t` is not empty
        have hfront : marks s <+: ms₁ ++ [⟨')', true⟩] := by
          rw [← hmarks]
          exact List.prefix_append _ _
        obtain ⟨ms, rfl⟩ :=
          List.prefix_of_prefix_length_le hfront (List.prefix_append _ _) (by omega)
        rw [Mark.opened?_append, hnone] at hinner
        cases hinner
      · rfl
    · rw [List.cons_append, unwrap?]
      rintro r heq
      exact hc (List.cons.inj heq).1

end Text

end TapScript
