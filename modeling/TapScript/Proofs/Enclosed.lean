import TapScript.Proofs.Expansion

/-! # Calls in enclosed texts

A whole text may be put in parentheses, or between the parentheses of a call. Its calls are then the
calls of the larger text, at the same places, and behind the call around them.

* `Query.within` is a call seen in a larger text; `Query.callsFrom_within` lists the calls there.
* `Query.calls_wrap` and `Query.calls_source` are the two ways of enclosing a text.
* `Query.IsCall.isWhole_replace` says that replacing a call leaves a text whole. -/

namespace TapScript

namespace Text.Mark

/-- A parenthesis is closed at the same place, whatever follows. -/
theorem closing?_append {extra : Nat} {ms : List Mark} {inner rest : Text}
    (h : closing? extra ms = some (inner, rest)) (ms' : List Mark) :
    closing? extra (ms ++ ms') = some (inner, rest ++ chars ms') := by
  obtain ⟨ms₁, ms₂, rfl, rfl, rfl, hopened⟩ := closing?_eq_some_iff.1 h
  exact closing?_eq_some_iff.2 ⟨ms₁, ms₂ ++ ms', by simp, rfl, chars_append _ _, hopened⟩

/-- Where all parentheses are closed in the end, the last one that was opened is. -/
theorem isSome_closing?_of_opened? {k : Nat} {ms : List Mark} (h : opened? (k + 1) ms = some 0) :
    (closing? 0 ms).isSome := by
  have hnone : opened? 0 ms = none := by
    cases hj : opened? 0 ms with
    | none => rfl
    | some j =>
      rw [← Nat.zero_add (k + 1), opened?_add hj] at h
      cases h
  have hsome := isSome_closing?_append 0 ms []
  rw [List.append_nil, hnone] at hsome
  exact hsome

end Text.Mark

namespace Query

open Text (Mark)

/-! ## A text inside another -/

/-- The call in the text with more text in front of it and behind it. -/
def within (front back : Text) (q : Query) : Query :=
  { q with before := front ++ q.before, behind := q.behind ++ back }

/-- A call is replaced inside a larger text as it is in its own. -/
theorem replace_within (front back : Text) (q : Query) (s : Text) :
    (q.within front back).replace s = front ++ q.replace s ++ back := by
  simp [within, replace]

/-- A call that is closed in the first of two texts is the same call in both together. -/
theorem call?_within {ms : List Mark} (h : (Mark.closing? 0 ms).isSome) (front before word : Text)
    (rest : List Mark) : call? (before ++ front.reverse) word (ms ++ rest) =
      (call? before word ms).map (within front (Text.chars rest)) := by
  obtain ⟨⟨args, behind⟩, hclosing⟩ := Option.isSome_iff_exists.1 h
  simp only [call?, hclosing, Mark.closing?_append hclosing]
  cases Builtin.ofName? word.reverse with
  | none => rfl
  | some b =>
    cases hquery : b.isQuery with
    | true => simp [guard, hquery, within]
    | false =>
      have hfails : (guard (b.isQuery = true) : Option Unit) = none := by
        simp [guard, hquery, failure]
      simp [hfails]

/-- The calls in a text that closes all of its parentheses end in it, so they are not touched by
what stands around it. -/
theorem callsFrom_within {k : Nat} {ms : List Mark} (h : Mark.opened? k ms = some 0)
    (front before word : Text) (rest : List Mark) :
    callsFrom (before ++ front.reverse) word (ms ++ rest) =
      (callsFrom before word ms).map (within front (Text.chars rest)) ++
        callsFrom (scanned (before ++ front.reverse) word ms).1
          (scanned (before ++ front.reverse) word ms).2 rest := by
  induction ms generalizing k before word with
  | nil => rfl
  | cons m ms ih =>
    obtain ⟨j, hm, hms⟩ := Option.bind_eq_some_iff.1 h
    rw [List.cons_append, callsFrom, callsFrom, scanned]
    by_cases hname : (m.outside && Text.isNameChar m.char) = true
    · rw [if_pos hname, if_pos hname, if_pos hname]
      exact ih hms before (m.char :: word)
    · rw [if_neg hname, if_neg hname, if_neg hname, List.map_append, List.append_assoc]
      have hrest := ih hms (m.char :: (word ++ before)) []
      rw [List.cons_append, List.append_assoc] at hrest
      rw [hrest]
      by_cases hopen : m.is '('
      · -- one more parenthesis is open behind this one, and all of them are closed
        simp only [Mark.openAfter?, if_pos hopen, Option.some.injEq] at hm
        subst hm
        rw [if_pos hopen, if_pos hopen, call?_within (Mark.isSome_closing?_of_opened? hms),
          Option.toList_map]
      · rw [if_neg hopen, if_neg hopen]
        rfl

/-! ## Parentheses and calls around a text -/

section Whole

variable {t : Text} (ht : Text.IsWhole t)

include ht

/-- A closing parenthesis at the end adds no call and takes none away. -/
theorem callsFrom_closing (front : Text) :
    callsFrom front.reverse [] (Text.marks t ++ [⟨')', true⟩]) =
      (calls t).map (within front [')']) := by
  have hopened := Text.opened?_of_isBalanced ht.balanced 0
  have hcalls := callsFrom_within hopened front [] [] [⟨')', true⟩]
  rw [List.nil_append] at hcalls
  rw [hcalls, calls]
  exact List.append_nil _

/-- A parenthesis that stands alone calls nothing. -/
theorem calls_wrap : calls (Text.wrap t) = (calls t).map (within ['('] [')']) := by
  have hmarks : Text.marks (Text.wrap t) = ⟨'(', true⟩ :: (Text.marks t ++ [⟨')', true⟩]) := by
    rw [Text.wrap, List.cons_append, Text.marks_cons rfl, Text.marks_append_cons ht.closed rfl,
      Text.marks_nil]
  rw [calls, hmarks, ← callsFrom_closing ht]
  rfl

end Whole

/-- The call with nothing around it. -/
def alone (b : Builtin) (args : Text) : Query := ⟨[], b, args, []⟩

section Alone

variable {b : Builtin} (hb : b.isQuery) {args : Text} (hargs : Text.IsWhole args)

include hb hargs

/-- A call that stands alone is a call in its own text. -/
theorem isCall_alone : IsCall (alone b args).source (alone b args) where
  text := by simp [replace, alone]
  isQuery := hb
  outside := rfl
  word := nofun
  args := hargs

/-- The call around a text comes before the calls in it. -/
theorem calls_source : calls (alone b args).source =
    alone b args :: (calls args).map (within (b.name.toList ++ ['(']) [')']) := by
  have hcall := isCall_alone hb hargs
  have hmarks : Text.marks (alone b args).source = (b.name.toList.map fun c => ⟨c, true⟩) ++
      ⟨'(', true⟩ :: (Text.marks args ++ [⟨')', true⟩]) := by
    rw [← List.append_nil (Text.marks _)]
    exact hcall.marks_source []
  have hopen : call? [] (b.name.toList.reverse ++ []) (Text.marks args ++ [⟨')', true⟩]) =
      some (alone b args) := hcall.call?_args
  rw [calls, hmarks, callsFrom_name _ _ (name_of_isQuery hb).2, callsFrom, if_neg (by decide),
    if_pos (by decide), hopen, ← callsFrom_closing hargs]
  simp

/-- In parentheses, the call itself is the last one if there is no call in its arguments. -/
theorem last?_wrap_source_of_none (h : last? args = none) :
    last? (Text.wrap (alone b args).source) = some ((alone b args).within ['('] [')']) := by
  have hcalls : calls args = [] := by
    rw [last?_eq_getLast?] at h
    exact List.getLast?_eq_none_iff.1 h
  rw [last?_eq_getLast?, calls_wrap (isCall_alone hb hargs).isWhole_source,
    calls_source hb hargs, hcalls]
  rfl

/-- The last call among the arguments is the last one of the whole text. -/
theorem last?_wrap_source_of_some {q : Query} (h : last? args = some q) :
    last? (Text.wrap (alone b args).source) =
      some ((q.within (b.name.toList ++ ['(']) [')']).within ['('] [')']) := by
  rw [last?_eq_getLast?] at h
  rw [last?_eq_getLast?, calls_wrap (isCall_alone hb hargs).isWhole_source, calls_source hb hargs,
    List.map_cons, List.getLast?_cons, List.getLast?_map, List.getLast?_map, h]
  rfl

end Alone

/-! ## Replacing a call -/

/-- How many parentheses are open behind a text does not depend on the whole text in the place of a
call. -/
theorem IsCall.opened?_replace {t : Text} {q : Query} (h : IsCall t q) {s : Text}
    (hs : Text.IsWhole s) (k : Nat) :
    Mark.opened? k (Text.marks (q.replace s)) =
      (Mark.opened? k (Text.marks q.before)).bind fun j =>
        Mark.opened? j (Text.marks q.behind) := by
  rw [h.marks_replace hs, Mark.opened?_append]
  refine congrArg _ (funext fun j => ?_)
  rw [Mark.opened?_append, Text.opened?_of_isBalanced hs.balanced, Option.bind_some]

/-- A text stays whole when a call in it is replaced by a whole text. -/
theorem IsCall.isWhole_replace {t : Text} {q : Query} (h : IsCall t q)
    (ht : Text.IsWhole t) {s : Text} (hs : Text.IsWhole s) : Text.IsWhole (q.replace s) := by
  have hsource := h.isWhole_source
  have hclosed : ∀ {u : Text}, Text.IsWhole u →
      Text.isClosed (q.replace u) = Text.isClosed q.behind := by
    intro u hu
    rw [replace, Text.isClosed_append_eq (Text.isClosed_append h.outside hu.closed)]
  rw [← h.text] at ht
  constructor
  · rw [hclosed hs, ← hclosed hsource]
    exact ht.closed
  · rw [Text.isBalanced, h.opened?_replace hs, ← h.opened?_replace hsource]
    exact ht.balanced

end Query

end TapScript
