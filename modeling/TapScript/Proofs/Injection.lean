import Mathlib.Data.List.Nodup
import TapScript.Gateway.Device
import TapScript.Proofs.Assigned
import TapScript.Proofs.Enclosed
import TapScript.Proofs.Substitution

/-! # Values in texts

Where a text calls queries, its expansion has literals, and what is in a literal comes from the
device or from a variable. Two expansions of a text differ in these literals only, whatever was
returned. A literal is in quotes with everything escaped that could end it, or it is a plain word;
so it is cut nowhere, and nothing is found in it.

* `Query.calls_of_first` lists the calls of a text: the first one, those in its arguments, and those
  behind it.
* `Query.Expands` says that a text becomes another by replacing its calls one after the other;
  `Query.Expands.exists_of_first` says that a literal then stands in the place of the first call.
* `Query.Expands.varies` and `Query.Expands.varies_of_both` compare an expansion with the text and
  with another expansion.
* `values_add_no_structure` says that all expansions have the same parts. -/

namespace TapScript

namespace Query

open Text (Mark)

/-! ## The first call -/

/-- What is scanned is kept, in reverse order. -/
theorem scanned_eq_append (before word : Text) (ms : List Mark) :
    (scanned before word ms).2 ++ (scanned before word ms).1 = (Text.chars ms).reverse ++
      (word ++ before) := by
  induction ms generalizing before word with
  | nil => rfl
  | cons m ms ih =>
    rw [scanned]
    split
    · rw [ih]
      simp
    · rw [ih]
      simp

/-- From its start on, a call is followed by the calls in its arguments and by those behind it. -/
theorem IsCall.callsFrom_source_eq {t : Text} {q : Query} (h : IsCall t q) {k : Nat}
    (hopened : Mark.opened? k (Text.marks q.behind) = some 0) :
    callsFrom q.before.reverse [] (Text.marks q.source ++ Text.marks q.behind) =
      q ::
        ((calls q.args).map
            (within (q.before ++ q.builtin.name.toList ++ ['(']) (')' :: q.behind)) ++
          (calls q.behind).map (within (q.before ++ q.source) [])) := by
  have hname := (name_of_isQuery h.isQuery).2
  have hargs := callsFrom_within (Text.opened?_of_isBalanced h.args.balanced 0)
    (q.before ++ q.builtin.name.toList ++ ['(']) [] [] (⟨')', true⟩ :: Text.marks q.behind)
  have hbehind := callsFrom_within hopened (q.before ++ q.source) [] [] []
  have hscanned := scanned_eq_append ([] ++ (q.before ++ q.builtin.name.toList ++ ['(']).reverse) []
    (Text.marks q.args)
  -- the parenthesis at the end of the arguments ends every word
  have hclose : ∀ before word : Text, callsFrom before word (⟨')', true⟩ :: Text.marks q.behind) =
      callsFrom (')' :: (word ++ before)) [] (Text.marks q.behind) := fun _ _ => rfl
  rw [Text.chars_marks] at hscanned
  rw [hclose, hscanned, Text.chars_cons, Text.chars_marks] at hargs
  rw [List.append_nil, Text.chars_nil, callsFrom, List.append_nil] at hbehind
  rw [h.marks_source, callsFrom_name _ _ hname, callsFrom, if_neg (by decide),
    if_pos (by decide), h.call?_args, Option.toList_some, List.singleton_append, calls,
    calls, ← hbehind]
  simp only [source, Text.wrap, List.reverse_append, List.reverse_cons, List.reverse_nil,
    List.nil_append, List.cons_append, List.append_assoc, List.append_nil] at hargs ⊢
  rw [hargs]

/-- The calls of a text are the first one, those in its arguments, and those behind it. -/
theorem calls_of_first {t : Text} {q : Query} {later : List Query}
    (h : calls t = q :: later) {k : Nat} (hopened : Mark.opened? k (Text.marks q.behind) = some 0) :
    later = (calls q.args).map (within (q.before ++ q.builtin.name.toList ++ ['('])
      (')' :: q.behind)) ++ (calls q.behind).map (within (q.before ++ q.source) []) := by
  have hcall : IsCall t q := mem_calls_iff.1 (h ▸ List.mem_cons_self ..)
  have hrest : ∀ k, (Mark.closing? k (Text.marks q.source ++ Text.marks q.behind)).isSome =
      (Mark.closing? k (Text.marks q.source ++ Text.marks q.behind)).isSome := fun _ => rfl
  obtain ⟨qs, -, hqs, -⟩ := callsFrom_append [] [] (Text.marks q.before) hrest
  rw [← hcall.marks_replace hcall.isWhole_source, hcall.text, hcall.scanned_before,
    hcall.callsFrom_source_eq hopened] at hqs
  have hcalls : calls t = _ := hqs
  cases qs with
  | nil =>
    rw [h, List.nil_append, List.cons.injEq] at hcalls
    exact hcalls.2
  | cons q' qs =>
    -- the call would stand at two places of the list, but the list is in strict order
    have hsorted := pairwise_calls t
    rw [h, List.cons_append, List.cons.injEq] at hcalls
    rw [h, hcalls.2] at hsorted
    exact absurd (List.rel_of_pairwise_cons hsorted (by simp)) (Nat.lt_irrefl _)

/-- Two calls that start at the same place are the same. -/
theorem IsCall.eq_of_start_eq {t : Text} {q q' : Query} (h : IsCall t q) (h' : IsCall t q')
    (hstart : q.start = q'.start) : q = q' := by
  have hnodup : ((calls t).map start).Nodup :=
    List.pairwise_map.2 ((pairwise_calls t).imp Nat.ne_of_lt)
  exact List.inj_on_of_nodup_map hnodup (mem_calls_iff.2 h) (mem_calls_iff.2 h') hstart

/-- Replacing a call by a whole text opens and closes nothing. -/
theorem IsCall.opened?_replace_eq {t : Text} {q : Query} (h : IsCall t q) {s : Text}
    (hs : Text.IsWhole s) (k : Nat) :
    Mark.opened? k (Text.marks (q.replace s)) = Mark.opened? k (Text.marks t) := by
  rw [h.opened?_replace hs, ← h.opened?_replace h.isWhole_source, h.text]

/-- Behind a call, all parentheses are closed that the text closes. -/
theorem IsCall.exists_opened? {t : Text} {q : Query} (h : IsCall t q) {k : Nat}
    (hopened : Mark.opened? k (Text.marks t) = some 0) :
    ∃ j, Mark.opened? j (Text.marks q.behind) = some 0 := by
  rw [← h.text, h.opened?_replace h.isWhole_source] at hopened
  obtain ⟨j, -, hj⟩ := Option.bind_eq_some_iff.1 hopened
  exact ⟨j, hj⟩

/-! ## Expansions -/

/-- The first text becomes the second by replacing its calls, from the last one on, by literals of
values that queries can return. -/
inductive Expands : Text → Text → Prop
  | done {t : Text} (none : calls t = []) : Expands t t
  | step {t u : Text} {q : Query} {v : Value} (last : last? t = some q) (kind : v.kind ≠ "number")
      (rest : Expands (q.replace v.literal) u) : Expands t u

/-- A text without calls expands to itself only. -/
theorem Expands.eq_of_calls_eq_nil {t u : Text} (h : Expands t u) (hcalls : calls t = []) :
    u = t := by
  cases h with
  | done => rfl
  | step last =>
    rw [last?_eq_getLast?, hcalls] at last
    cases last

/-- An expansion opens and closes as many parentheses as the text. -/
theorem Expands.opened?_eq {t u : Text} (h : Expands t u) (k : Nat) :
    Mark.opened? k (Text.marks u) = Mark.opened? k (Text.marks t) := by
  induction h with
  | done => rfl
  | step hlast hkind _ ih =>
    exact ih.trans ((isCall_of_last? hlast).opened?_replace_eq (Value.isWhole_literal hkind) k)

/-- Replacing a later call leaves the first one where it is. -/
theorem calls_replace_of_first {t : Text} {q q₁ q' : Query} {later : List Query} {v : Value}
    (h : calls t = q :: later) (hlater : later ≠ []) (hlast : last? t = some q₁)
    (hkind : v.kind ≠ "number")
    (hcall : IsCall (q₁.replace v.literal) q') (hstart : q'.start = q.start) :
    ∃ later', calls (q₁.replace v.literal) = q' :: later' := by
  have hheads := map_head_calls hlast (Value.isWhole_literal hkind) (Value.silent_literal hkind)
  rw [h, List.map_cons] at hheads
  cases hcalls : calls (q₁.replace v.literal) with
  | nil =>
    rw [hcalls, List.map_nil, List.nil_append, List.cons.injEq, List.map_eq_nil_iff] at hheads
    exact absurd hheads.2 hlater
  | cons q'' later' =>
    rw [hcalls, List.map_cons, List.cons_append, List.cons.injEq] at hheads
    have hcall'' : IsCall (q₁.replace v.literal) q'' :=
      mem_calls_iff.1 (hcalls ▸ List.mem_cons_self ..)
    have hbefore : q.before = q''.before := congrArg Prod.fst hheads.1
    have heq : q'' = q' := by
      refine hcall''.eq_of_start_eq hcall ?_
      rw [hstart, start, start, hbefore]
    exact ⟨later', by rw [heq]⟩

/-- The last call of a text stands behind the first one, or else in its arguments, or else it is the
first one. -/
theorem last_cases {t : Text} {q q₁ : Query} {later : List Query}
    (h : calls t = q :: later) {k : Nat} (hopened : Mark.opened? k (Text.marks q.behind) = some 0)
    (hlast : last? t = some q₁) :
    (∃ q₂, last? q.behind = some q₂ ∧ q₁ = q₂.within (q.before ++ q.source) [] ∧ later ≠ []) ∨
      calls q.behind = [] ∧
        ((∃ q₂, last? q.args = some q₂ ∧
            q₁ = q₂.within (q.before ++ q.builtin.name.toList ++ ['(']) (')' :: q.behind) ∧
              later ≠ []) ∨
          q₁ = q ∧ later = []) := by
  have hlater := calls_of_first h hopened
  rw [last?_eq_getLast?, h] at hlast
  have hne : ∀ {q₂ : Query}, q₂ ∈ later → later ≠ [] := fun hmem hnil => by simp [hnil] at hmem
  -- if there is a call behind the first one, the last one is there too
  cases hbehind : last? q.behind with
  | some q₂ =>
    rw [last?_eq_getLast?] at hbehind
    rw [hlater, ← List.cons_append, List.getLast?_append, List.getLast?_map, hbehind] at hlast
    have hmem := List.mem_map_of_mem (f := within (q.before ++ q.source) [])
      (List.mem_of_getLast? hbehind)
    exact .inl ⟨q₂, rfl, (Option.some.inj hlast).symm, hne (hlater ▸ List.mem_append_right _ hmem)⟩
  | none =>
    rw [last?_eq_getLast?, List.getLast?_eq_none_iff] at hbehind
    rw [hbehind, List.map_nil, List.append_nil] at hlater
    refine .inr ⟨hbehind, ?_⟩
    -- else the calls behind it are those in its arguments
    cases hargs : last? q.args with
    | some q₂ =>
      rw [last?_eq_getLast?] at hargs
      rw [hlater, List.getLast?_cons, List.getLast?_map, hargs] at hlast
      have hmem :=
        List.mem_map_of_mem
          (f := within (q.before ++ q.builtin.name.toList ++ ['(']) (')' :: q.behind))
          (List.mem_of_getLast? hargs)
      exact .inl ⟨q₂, rfl, (Option.some.inj hlast).symm, hne (hlater ▸ hmem)⟩
    | none =>
      rw [last?_eq_getLast?, List.getLast?_eq_none_iff] at hargs
      rw [hargs, List.map_nil] at hlater
      subst hlater
      exact .inr ⟨(Option.some.inj hlast).symm, rfl⟩

/-- In an expansion, a literal stands in the place of the first call, and behind it an expansion of
what was behind the call. -/
theorem Expands.exists_of_first {t u : Text} (h : Expands t u) {q : Query} {later : List Query}
    (hcalls : calls t = q :: later) {k : Nat} (hopened : Mark.opened? k (Text.marks t) = some 0) :
    ∃ (v : Value) (r : Text), v.kind ≠ "number" ∧ u = q.before ++ (v.literal ++ r) ∧
      Expands q.behind r := by
  -- the induction is on the rounds; what a round does to the text of the first call is told by
  -- `last_cases`
  induction h generalizing q later with
  | done hnone =>
    rw [hnone] at hcalls
    cases hcalls
  | @step t u q₁ v hlast hkind hrest ih =>
    have hcall : IsCall t q := mem_calls_iff.1 (hcalls ▸ List.mem_cons_self ..)
    have hliteral := Value.isWhole_literal hkind
    have hopened' := ((isCall_of_last? hlast).opened?_replace_eq hliteral k).trans hopened
    obtain ⟨j, hbehind⟩ := hcall.exists_opened? hopened
    rcases last_cases hcalls hbehind hlast with
      ⟨q₂, hlast₂, hq₁, hne⟩ | ⟨hnone, ⟨q₂, hlast₂, hq₁, hne⟩ | ⟨rfl, rfl⟩⟩
    · have htext : q₁.replace v.literal = q.before ++ q.source ++ q₂.replace v.literal := by
        rw [hq₁, replace_within, List.append_nil]
      have hcall' : IsCall (q₁.replace v.literal) { q with behind := q₂.replace v.literal } :=
        ⟨htext.symm, hcall.isQuery, hcall.outside, hcall.word, hcall.args⟩
      obtain ⟨later', hcalls'⟩ := calls_replace_of_first hcalls hne hlast hkind hcall' rfl
      obtain ⟨v', r, hkind', hu, hexpands⟩ := ih hcalls' hopened'
      exact ⟨v', r, hkind', hu, .step hlast₂ hkind hexpands⟩
    · have htext : q₁.replace v.literal =
          q.before ++ (q.builtin.name.toList ++ Text.wrap (q₂.replace v.literal)) ++ q.behind := by
        rw [hq₁, replace_within]
        simp [Text.wrap]
      have hwhole := (isCall_of_last? hlast₂).isWhole_replace hcall.args hliteral
      have hcall' : IsCall (q₁.replace v.literal) { q with args := q₂.replace v.literal } :=
        ⟨htext.symm, hcall.isQuery, hcall.outside, hcall.word, hwhole⟩
      obtain ⟨later', hcalls'⟩ := calls_replace_of_first hcalls hne hlast hkind hcall' rfl
      have hexists := ih hcalls' hopened'
      exact hexists
    · -- the first call is the only one, so this is the last round
      have hheads := map_head_calls hlast hliteral (Value.silent_literal hkind)
      rw [hcalls, List.map_cons, List.map_nil, List.self_eq_append_left,
        List.map_eq_nil_iff] at hheads
      refine ⟨v, q₁.behind, hkind, ?_, .done hnone⟩
      rw [hrest.eq_of_calls_eq_nil hheads, replace, List.append_assoc]

/-! ## Comparing expansions -/

/-- The text is a call of a query as it is written. -/
def IsSource (x : Text) : Prop := ∃ t q, IsCall t q ∧ x = q.source

end Query

/-- The text is the literal of a value that a query can return. -/
def Value.IsLiteral (x : Text) : Prop := ∃ v : Value, v.kind ≠ "number" ∧ x = v.literal

namespace Query

open Text (Mark)

/-- What holds of a text without calls, and of one with calls if it holds of what stands behind its
first call, holds of all texts. -/
theorem first_induction {P : Text → Prop} (hnone : ∀ t, calls t = [] → P t)
    (hfirst : ∀ t q later, calls t = q :: later → P q.behind → P t) (t : Text) : P t := by
  induction hn : t.length using Nat.strongRecOn generalizing t with
  | ind n ih =>
    cases hcalls : calls t with
    | nil => exact hnone t hcalls
    | cons q later =>
      have hcall : IsCall t q := mem_calls_iff.1 (hcalls ▸ List.mem_cons_self ..)
      refine hfirst t q later hcalls (ih _ ?_ q.behind rfl)
      rw [← hn, ← hcall.text]
      simp only [replace, source, Text.wrap, List.length_append, List.length_cons]
      omega

/-- In an expansion, literals stand in the place of calls. -/
theorem Expands.varies {t u : Text} (h : Expands t u) {k : Nat}
    (hopened : Mark.opened? k (Text.marks t) = some 0) :
    Text.Varies (fun x x' => IsSource x ∧ Value.IsLiteral x') t u := by
  induction t using first_induction generalizing u k with
  | hnone t hcalls =>
    rw [h.eq_of_calls_eq_nil hcalls]
    exact .same t
  | hfirst t q later hcalls ih =>
    have hcall : IsCall t q := mem_calls_iff.1 (hcalls ▸ List.mem_cons_self ..)
    obtain ⟨v, r, hkind, rfl, hexpands⟩ := h.exists_of_first hcalls hopened
    obtain ⟨j, hbehind⟩ := hcall.exists_opened? hopened
    have htext : t = q.before ++ (q.source ++ q.behind) := by
      rw [← hcall.text, replace, List.append_assoc]
    rw [htext]
    exact .place hcall.outside ⟨⟨_, q, hcall, rfl⟩, v, hkind, rfl⟩ (ih hexpands hbehind)

/-- Two expansions of a text differ in literals only. -/
theorem Expands.varies_of_both {t u u' : Text} (h : Expands t u) (h' : Expands t u') {k : Nat}
    (hopened : Mark.opened? k (Text.marks t) = some 0) :
    Text.Varies (fun x x' => Value.IsLiteral x ∧ Value.IsLiteral x') u u' := by
  induction t using first_induction generalizing u u' k with
  | hnone t hcalls =>
    rw [h.eq_of_calls_eq_nil hcalls, h'.eq_of_calls_eq_nil hcalls]
    exact .same t
  | hfirst t q later hcalls ih =>
    have hcall : IsCall t q := mem_calls_iff.1 (hcalls ▸ List.mem_cons_self ..)
    obtain ⟨v, r, hkind, rfl, hexpands⟩ := h.exists_of_first hcalls hopened
    obtain ⟨v', r', hkind', rfl, hexpands'⟩ := h'.exists_of_first hcalls hopened
    obtain ⟨j, hbehind⟩ := hcall.exists_opened? hopened
    exact .place hcall.outside ⟨⟨v, hkind, rfl⟩, v', hkind', rfl⟩ (ih hexpands hexpands' hbehind)

/-- An expansion that succeeds and has enough rounds has replaced all calls. -/
theorem expands_of_expandUpTo {ω : Type} {g : Gateway ω} {config : Config} {fuel line : Nat}
    {frame : Frame} {bound : Nat} {t u : Text} {st st' : Station ω}
    (hcalls : (calls t).length ≤ bound)
    (h : expandUpTo g config fuel line frame bound t st = .done (.ok u) st') : Expands t u := by
  induction bound generalizing t st with
  | zero =>
    cases h
    exact .done (List.length_eq_zero_iff.1 (Nat.le_zero.1 hcalls))
  | succ bound ih =>
    cases hlast : last? t with
    | none =>
      rw [expandUpTo, hlast] at h
      cases h
      rw [last?_eq_getLast?] at hlast
      exact .done (List.getLast?_eq_none_iff.1 hlast)
    | some q =>
      rcases expandUpTo_cases g config fuel line frame hlast bound st with
        hfails | ⟨c, v, st₁, st₂, -, -, hkind, hexpand⟩
      · rw [h] at hfails
        cases hfails
      · have hlength := congrArg List.length
          (map_head_calls hlast (Value.isWhole_literal hkind) (Value.silent_literal hkind))
        rw [List.length_append, List.length_map, List.length_map, List.length_singleton] at hlength
        rw [hexpand] at h
        exact .step hlast hkind (ih (by omega) h)

end Query

/-! ## What is not seen of a value -/

/-- A text that can be searched for and has no letters, digits or underscores. -/
def Text.isSign (p : Text) : Bool := isSymbol p && p.all fun c => !isNameChar c

section Sign

variable {p : Text} (hp : Text.isSign p)

include hp

/-- A sign can be searched for. -/
theorem Text.isSymbol_of_isSign : Text.isSymbol p := (Bool.and_eq_true_iff.1 hp).1

/-- No character of a name is in a sign. -/
theorem Text.not_mem_of_isNameChar {c : Char} (hc : Text.isNameChar c) : c ∉ p := by
  intro hmem
  have hname := List.all_eq_true.1 (Bool.and_eq_true_iff.1 hp).2 c hmem
  rw [hc] at hname
  cases hname

/-- No sign is found at a character of a name. -/
theorem Text.hidden_of_isNameChar {c : Char} (hc : Text.isNameChar c) :
    Mark.Hidden p ⟨c, true⟩ := by
  refine fun _ => ⟨Text.not_mem_of_isNameChar hp hc, ?_, ?_⟩ <;>
    · rintro rfl
      exact absurd hc (by decide)

/-- A text that starts with a quote or a name is not entered by a sign from the front. -/
theorem Text.front_of_isSign {x : Text}
    (hx : ∃ c y, x = c :: y ∧ (Text.isQuote c ∨ Text.isNameChar c)) :
    ∃ c y, x = c :: y ∧ c ∉ p := by
  obtain ⟨c, y, rfl, hc | hc⟩ := hx
  · refine ⟨c, y, rfl, fun hmem => ?_⟩
    rw [(Text.plain_of_isSymbol (Text.isSymbol_of_isSign hp) hmem).2.1] at hc
    cases hc
  · exact ⟨c, y, rfl, Text.not_mem_of_isNameChar hp hc⟩

end Sign

namespace Value.IsLiteral

variable {x : Text} (hx : Value.IsLiteral x)

include hx

/-- A literal begins with a quote, or with a letter of `true`, `false` or `null`. -/
theorem front : ∃ c y, x = c :: y ∧ (Text.isQuote c ∨ Text.isNameChar c) := by
  obtain ⟨v, hkind, rfl⟩ := hx
  rcases Value.literal_cases hkind with ⟨t, ht⟩ | hword
  · exact ⟨'"', _, ht, .inl rfl⟩
  · simp only [List.mem_cons, List.not_mem_nil, or_false] at hword
    rcases hword with hword | hword | hword
    · exact ⟨'t', "rue".toList, hword, .inr rfl⟩
    · exact ⟨'f', "alse".toList, hword, .inr rfl⟩
    · exact ⟨'n', "ull".toList, hword, .inr rfl⟩

/-- A literal is whole. -/
theorem isWhole : Text.IsWhole x := by
  obtain ⟨v, hkind, rfl⟩ := hx
  exact Value.isWhole_literal hkind

/-- What stands outside quotes in a literal are the letters of a word. -/
theorem hidden {p : Text} (hp : Text.isSign p) : ∀ m ∈ Text.marks x, m.Hidden p := by
  obtain ⟨v, hkind, rfl⟩ := hx
  rcases Value.literal_cases hkind with ⟨t, ht⟩ | hword
  · rw [ht]
    intro m hm hout
    rw [Text.outside_of_mem_marks_encode hm] at hout
    cases hout
  · have hname : ["true".toList, "false".toList, "null".toList].all (·.all Text.isNameChar) =
        true := rfl
    have hname := List.all_eq_true.1 (List.all_eq_true.1 hname v.literal hword)
    rw [(Text.marks_of_forall_not_isQuote fun c hc =>
      Query.isQuote_eq_false_of_isNameChar (hname c hc)).2]
    intro m hm
    obtain ⟨c, hc, rfl⟩ := List.mem_map.1 hm
    exact Text.hidden_of_isNameChar hp (hname c hc)

/-- A text is not cut at a sign inside a literal. -/
theorem uncut {p : Text} (hp : Text.isSign p) : Text.Uncut p x :=
  Text.uncut_of_hidden (Text.ne_nil_of_isSymbol (Text.isSymbol_of_isSign hp)) (hx.hidden hp)
    (Text.front_of_isSign hp hx.front) hx.isWhole

/-- No sign is found inside a literal. -/
theorem unfound {p : Text} (hp : Text.isSign p) : Text.Unfound p x :=
  Text.unfound_of_hidden (Text.ne_nil_of_isSymbol (Text.isSymbol_of_isSign hp)) (hx.hidden hp)
    (Text.front_of_isSign hp hx.front) hx.isWhole.closed

end Value.IsLiteral

namespace Query.IsSource

variable {x : Text} (hx : Query.IsSource x)

include hx

/-- A call begins with a letter of its name. -/
theorem front : ∃ c y, x = c :: y ∧ (Text.isQuote c ∨ Text.isNameChar c) := by
  obtain ⟨t, q, hcall, rfl⟩ := hx
  obtain ⟨hne, hname⟩ := name_of_isQuery hcall.isQuery
  cases htext : q.builtin.name.toList with
  | nil => exact absurd htext hne
  | cons c name =>
    exact ⟨c, name ++ Text.wrap q.args, by rw [source, htext]; rfl,
      .inr (hname c (by simp [htext]))⟩

/-- The arguments of a call stand in its parentheses. -/
theorem uncut {p : Text} (hp : Text.isSign p) : Text.Uncut p x := by
  have hfront := Text.front_of_isSign hp hx.front
  obtain ⟨t, q, hcall, rfl⟩ := hx
  have hsymbol := Text.isSymbol_of_isSign hp
  have hne := Text.ne_nil_of_isSymbol hsymbol
  -- the call is a name, which is hidden, and parentheses, in which the pattern cuts nothing
  have hopen : '(' ∉ p := fun hmem => (Text.plain_of_isSymbol hsymbol hmem).2.2.1 rfl
  have hclose : ')' ∉ p := fun hmem => (Text.plain_of_isSymbol hsymbol hmem).2.2.2 rfl
  refine ⟨hcall.isWhole_source, hfront, fun depth ms => ?_⟩
  have hname : ∀ m ∈ q.builtin.name.toList.map fun c => (⟨c, true⟩ : Text.Mark), m.Hidden p := by
    intro m hm
    obtain ⟨c, hc, rfl⟩ := List.mem_map.1 hm
    exact Text.hidden_of_isNameChar hp ((name_of_isQuery hcall.isQuery).2 c hc)
  have hchars : Text.chars (q.builtin.name.toList.map fun c => (⟨c, true⟩ : Text.Mark)) =
      q.builtin.name.toList := by
    rw [Text.chars, List.map_map]
    exact List.map_id _
  have hafter : Text.Mark.depthAfter ⟨'(', true⟩ (depth : Int) = depth + 1 := rfl
  have hafter' : Text.Mark.depthAfter ⟨')', true⟩ ((depth : Int) + 1) = depth :=
    Int.add_sub_cancel _ _
  rw [hcall.marks_source, Text.Mark.parts_hidden hne hname, Text.Mark.parts_cons_of_not_mem hne
    hopen, hafter, Text.Mark.parts_enclosed (Text.opened?_of_isBalanced hcall.args.balanced depth),
    Text.Mark.parts_cons_of_not_mem hne hclose, hafter', List.modifyHead_modifyHead,
    List.modifyHead_modifyHead, List.modifyHead_modifyHead, hchars, Text.chars_marks]
  congr 1
  funext part
  simp [source, Text.wrap]

end Query.IsSource

/-- What begins with a quote or a name is more than blanks. -/
theorem Text.exists_isBlank_eq_false {x : Text}
    (h : ∃ c y, x = c :: y ∧ (isQuote c ∨ isNameChar c)) : ∃ c ∈ x, isBlank c = false := by
  obtain ⟨c, y, rfl, hc⟩ := h
  refine ⟨c, by simp, ?_⟩
  rcases hc with hc | hc
  · cases hblank : isBlank c with
    | false => rfl
    | true =>
      rw [isQuote_eq_false_of_isBlank hblank] at hc
      cases hc
  · exact isBlank_eq_false_of_isWordChar (isWordChar_of_isNameChar hc)

/-- **What the device returns adds no structure.** Take a text whose parentheses are balanced, with
64 calls of queries at most, and any two successful expansions of it: by any gateways, with any
settings and from any states, so that the calls may have returned anything. At `&&` and at `||`,
both are cut into as many parts as the text, and in each part the same comparison sign is found
first, or in both none. Both have equally many arguments, as many as the text. -/
theorem values_add_no_structure {ω ω' : Type} (g : Gateway ω) (g' : Gateway ω')
    (config config' : Config) (fuel fuel' line line' : Nat) (frame frame' : Frame) (t : Text)
    (st st₁ : Station ω) (st' st₁' : Station ω') (e e' : Text) (hbalanced : Text.isBalanced t)
    (hfew : (Query.calls t).length ≤ 64)
    (h : Query.expand g config fuel line frame t st = .done (.ok e) st₁)
    (h' : Query.expand g' config' fuel' line' frame' t st' = .done (.ok e') st₁') :
    (∀ p ∈ Condition.connectives, (Text.split p e).length = (Text.split p e').length ∧
      (Text.split p e).length = (Text.split p t).length ∧
      (Text.split p e).map (fun part => (Condition.comparison? (Text.trim part)).bind
        Condition.sign?) = (Text.split p e').map
        fun part => (Condition.comparison? (Text.trim part)).bind Condition.sign?) ∧
      (Text.arguments e).length = (Text.arguments e').length ∧
      (Text.arguments e).length = (Text.arguments t).length := by
  have hexpands : Query.Expands t e := Query.expands_of_expandUpTo hfew h
  have hexpands' : Query.Expands t e' := Query.expands_of_expandUpTo hfew h'
  have hopened := Text.opened?_of_isBalanced hbalanced 0
  have hbalanced' : Text.isBalanced e := beq_iff_eq.2 ((hexpands.opened?_eq 0).trans hopened)
  have hvaries := hexpands.varies_of_both hexpands' hopened
  refine ⟨fun p hp => ?_, ?_⟩
  · have hsign : Text.isSign p :=
      List.all_eq_true.1 (show Condition.connectives.all Text.isSign = true from rfl) p hp
    have hsymbol := Text.isSymbol_of_isSign hsign
    have hparts := hvaries.split hsymbol (fun hx => ⟨hx.1.uncut hsign, hx.2.uncut hsign⟩) hbalanced'
    have hsplit := (hexpands.varies hopened).split hsymbol
      (fun hx => ⟨hx.1.uncut hsign, hx.2.uncut hsign⟩) hbalanced
    have hsigns : ∀ op : Comparison, Text.isSign op.sign := by
      intro op
      cases op <;> rfl
    refine ⟨hparts.length_eq, hsplit.length_eq.symm, ?_⟩
    -- each part varies in literals only, so the same sign is found in it
    rw [← List.forall₂_eq_eq_eq, List.forall₂_map_left_iff, List.forall₂_map_right_iff]
    exact hparts.imp fun _ _ hpart => Condition.sign?_comparison?_trim_eq
      (fun op _ _ hx => ⟨hx.1.unfound (hsigns op), hx.2.unfound (hsigns op)⟩) hpart
  · have harguments : ∀ {u : Text}, Query.Expands t u → (Text.arguments t).length =
        (Text.arguments u).length :=
      fun hu => (hu.varies hopened).length_arguments (fun hx => ⟨hx.1.uncut rfl, hx.2.uncut rfl⟩)
        (fun hx => ⟨Text.exists_isBlank_eq_false hx.1.front, Text.exists_isBlank_eq_false
          hx.2.front⟩) hbalanced
    exact ⟨(harguments hexpands).symm.trans (harguments hexpands'), (harguments hexpands).symm⟩

/-- A stored text with quotes, a parenthesis, a comma and signs takes the place of an empty one. -/
theorem values_add_no_structure_stored :
    Text.isBalanced "pad(getVar(\"n\"), 3) != \"x\" && true".toList ∧
      (Query.calls "pad(getVar(\"n\"), 3) != \"x\" && true".toList).length ≤ 64 ∧
      (Text.split ['&', '&'] "pad(\"\\\", 1) && (\\\\\\\" >= \", 3) != \"x\" && true".toList).map
          (fun part => (Condition.comparison? (Text.trim part)).bind Condition.sign?) =
        (Text.split ['&', '&'] "pad(\"\", 3) != \"x\" && true".toList).map
          fun part => (Condition.comparison? (Text.trim part)).bind Condition.sign? := by
  have hbalanced : Text.isBalanced "pad(getVar(\"n\"), 3) != \"x\" && true".toList := by decide
  have hfew : (Query.calls "pad(getVar(\"n\"), 3) != \"x\" && true".toList).length ≤ 64 := by
    decide +kernel
  have hvalue :
      (Query.expand Device.gateway {} 9 1 .empty "pad(getVar(\"n\"), 3) != \"x\" && true".toList
          ⟨{ stored := [("n", "\", 1) && (\\\" >= ")] }, false, none, ⟨0⟩, #[]⟩).value? =
        some "pad(\"\\\", 1) && (\\\\\\\" >= \", 3) != \"x\" && true".toList := by decide +kernel
  have hvalue' :
      (Query.expand Device.gateway {} 9 1 .empty "pad(getVar(\"n\"), 3) != \"x\" && true".toList
          ⟨{}, false, none, ⟨0⟩, #[]⟩).value? =
        some "pad(\"\", 3) != \"x\" && true".toList := by decide +kernel
  obtain ⟨st₁, h⟩ := Outcome.eq_ok_of_value? hvalue
  obtain ⟨st₁', h'⟩ := Outcome.eq_ok_of_value? hvalue'
  have hstructure := values_add_no_structure Device.gateway Device.gateway {} {} 9 9 1 1 .empty
    .empty _ _ st₁ _ st₁' _ _ hbalanced hfew h h'
  exact ⟨hbalanced, hfew, (hstructure.1 _ (List.mem_cons_self ..)).2.2⟩

end TapScript
