import Mathlib.Data.List.Forall2
import TapScript.Proofs.Formula

/-! # Substitution in texts

A text is compared with the text that has something else in some places. If the searches and splits
do not see what stands in these places, then they find the same in both texts, and cut both into the
same number of parts.

* `Text.Varies` says that two texts are the same but for some places.
* `Text.Uncut` texts are not cut by a symbol, and `Text.Unfound` texts have nothing in them that is
  found. `Text.Mark.Hidden` is what makes a mark invisible to both.
* `Text.Varies.split` cuts two such texts into parts that again vary only in these places, and
  `Text.Varies.isSome_find?` finds in the one what is found in the other.
* `Condition.sign?_comparison?_trim_eq` says that texts that vary in unseen places are the same
  comparison. -/

namespace TapScript

namespace Text

/-- The texts are the same but for some places, where related texts stand. In front of each place
all literals are closed. -/
inductive Varies (R : Text → Text → Prop) : Text → Text → Prop
  | same (t : Text) : Varies R t t
  | place {s x x' r r' : Text} (closed : isClosed s) (related : R x x') (rest : Varies R r r') :
      Varies R (s ++ (x ++ r)) (s ++ (x' ++ r'))

/-! ## What is not seen -/

namespace Mark

variable {p : Text}

/-- Outside literals, the mark is no part of the pattern and no parenthesis. -/
def Hidden (p : Text) (m : Mark) : Prop := m.outside → m.char ∉ p ∧ m.char ≠ '(' ∧ m.char ≠ ')'

/-- The pattern is not found at a hidden mark. -/
theorem Hidden.outside_and_startWith (hp : p ≠ []) {m : Mark} (h : m.Hidden p) (ms : List Mark) :
    (m.outside && startWith p (m :: ms)) = false := by
  cases hout : m.outside with
  | false => rfl
  | true => exact startWith_cons_eq_false hp (h hout).1 ms

/-- A hidden mark does not change the depth. -/
theorem Hidden.depthAfter {m : Mark} (h : m.Hidden p) (depth : Int) :
    m.depthAfter depth = depth := by
  cases hout : m.outside with
  | false => simp [Mark.depthAfter, Mark.is, hout]
  | true => exact depthAfter_of_ne (h hout).2 depth

/-- Hidden marks in front go to the first part as they are. -/
theorem parts_hidden (hp : p ≠ []) {ms₀ : List Mark} (h : ∀ m ∈ ms₀, m.Hidden p) (depth : Int)
    (ms : List Mark) :
    parts p 0 depth (ms₀ ++ ms) = (parts p 0 depth ms).modifyHead (chars ms₀ ++ ·) := by
  induction ms₀ with
  | nil =>
    show parts p 0 depth ms = (parts p 0 depth ms).modifyHead id
    rw [List.modifyHead_id]
    rfl
  | cons m ms₀ ih =>
    have hm : m.Hidden p := h m (by simp)
    have hnot : (m.outside && m.depthAfter depth == 0 && startWith p (m :: (ms₀ ++ ms))) =
        false := by
      rw [Bool.and_right_comm, hm.outside_and_startWith hp, Bool.false_and]
    rw [List.cons_append, parts_cons hnot, hm.depthAfter, ih fun m' hm' => h m' (by simp [hm']),
      List.modifyHead_modifyHead]
    rfl

/-- Hidden marks in front do not matter to whether the pattern is found. -/
theorem isSome_find?_hidden (hp : p ≠ []) {ms₀ : List Mark} (h : ∀ m ∈ ms₀, m.Hidden p)
    (ms : List Mark) : (find? p (ms₀ ++ ms)).isSome = (find? p ms).isSome := by
  induction ms₀ with
  | nil => rfl
  | cons m ms₀ ih =>
    have hm : m.Hidden p := h m (by simp)
    rw [List.cons_append, find?, hm.outside_and_startWith hp, if_neg (by simp), Option.isSome_map]
    exact ih fun m' hm' => h m' (by simp [hm'])

/-- Nothing is cut in parentheses that are still open. -/
theorem parts_enclosed {k j : Nat} {ms₀ : List Mark} (h : opened? k ms₀ = some j) (ms : List Mark) :
    parts p 0 (k + 1) (ms₀ ++ ms) = (parts p 0 (j + 1) ms).modifyHead (chars ms₀ ++ ·) := by
  induction ms₀ generalizing k with
  | nil =>
    cases h
    show parts p 0 (j + 1) ms = (parts p 0 (j + 1) ms).modifyHead id
    rw [List.modifyHead_id]
    rfl
  | cons m ms₀ ih =>
    obtain ⟨i, hm, hms⟩ := Option.bind_eq_some_iff.1 h
    have hdepth : m.depthAfter (k + 1) = i + 1 := depthAfter_of_openAfter? (openAfter?_add hm 1)
    have hnot : (m.outside && m.depthAfter (k + 1) == 0 && startWith p (m :: (ms₀ ++ ms))) =
        false := by
      have hne : (m.depthAfter (k + 1) == 0) = false := by
        rw [hdepth, beq_eq_false_iff_ne]
        omega
      rw [hne, Bool.and_false, Bool.false_and]
    rw [List.cons_append, parts_cons hnot, hdepth, ih hms, List.modifyHead_modifyHead]
    rfl

end Mark

/-- The text is not cut, whatever follows and in however many parentheses it stands, and what is in
front of it does not reach into it. -/
structure Uncut (p x : Text) : Prop where
  whole : IsWhole x
  front : ∃ c y, x = c :: y ∧ c ∉ p
  parts (depth : Nat) (ms : List Mark) :
    Mark.parts p 0 depth (marks x ++ ms) = (Mark.parts p 0 depth ms).modifyHead (x ++ ·)

/-- Nothing is found in the text, and what is in front of it does not reach into it. -/
structure Unfound (p x : Text) : Prop where
  closed : isClosed x
  front : ∃ c y, x = c :: y ∧ c ∉ p
  find? (ms : List Mark) : (Mark.find? p (marks x ++ ms)).isSome = (Mark.find? p ms).isSome

/-- A text whose first character is not in the pattern has such a first mark. -/
theorem exists_marks_eq_cons {p x : Text} (h : ∃ c y, x = c :: y ∧ c ∉ p) :
    ∃ m ms, marks x = m :: ms ∧ m.char ∉ p := by
  obtain ⟨c, y, rfl, hc⟩ := h
  have hchars := chars_marks (c :: y)
  cases hmarks : marks (c :: y) with
  | nil =>
    rw [hmarks] at hchars
    cases hchars
  | cons m ms =>
    rw [hmarks, chars_cons, List.cons.injEq] at hchars
    exact ⟨m, ms, rfl, hchars.1 ▸ hc⟩

section Hidden

variable {p x : Text} (hp : p ≠ []) (hx : ∀ m ∈ marks x, m.Hidden p)
  (hfront : ∃ c y, x = c :: y ∧ c ∉ p)

include hp hx hfront

/-- A whole text of hidden marks is not cut by the pattern. -/
theorem uncut_of_hidden (hwhole : IsWhole x) : Uncut p x where
  whole := hwhole
  front := hfront
  parts depth ms := by rw [Mark.parts_hidden hp hx, chars_marks]

/-- In a closed text of hidden marks the pattern is not found. -/
theorem unfound_of_hidden (hclosed : isClosed x) : Unfound p x where
  closed := hclosed
  front := hfront
  find? := Mark.isSome_find?_hidden hp hx

end Hidden

/-! ## Splitting -/

namespace Mark

variable {p : Text}

/-- Either there is one part, or the first part ends at an occurrence and the others come behind
it. -/
theorem parts_cases (depth : Int) (ms : List Mark) :
    parts p 0 depth ms = [chars ms] ∨
      ∃ ms₁ m ms₂ depth', ms = ms₁ ++ m :: ms₂ ∧ m.outside ∧ startWith p (m :: ms₂) ∧
        parts p 0 depth ms = chars ms₁ :: parts p (p.length - 1) depth' ms₂ := by
  induction ms generalizing depth with
  | nil => exact .inl rfl
  | cons m ms ih =>
    by_cases hfound : (m.outside && m.depthAfter depth == 0 && startWith p (m :: ms)) = true
    · have hparts := parts_cons_of_found hfound
      simp only [Bool.and_eq_true] at hfound
      exact .inr ⟨[], m, ms, _, rfl, hfound.1.1, hfound.2, hparts⟩
    · rw [parts_cons (Bool.eq_false_iff.2 hfound)]
      rcases ih (m.depthAfter depth) with hone | ⟨ms₁, m', ms₂, depth', rfl, hout, hstart, hparts⟩
      · exact .inl (by rw [hone]; rfl)
      · exact .inr ⟨m :: ms₁, m', ms₂, depth', rfl, hout, hstart, by rw [hparts]; rfl⟩

end Mark

/-- The last part of a closed text is closed. -/
theorem isClosed_of_getLast?_parts {p : Text} (hp : isSymbol p) {s : Text} (hs : isClosed s)
    (depth : Int) : ∀ part ∈ (Mark.parts p 0 depth (marks s)).getLast?, isClosed part := by
  -- the part behind the first occurrence has fewer characters than the text
  induction hn : s.length using Nat.strongRecOn generalizing s depth with
  | ind n ih =>
    intro part hpart
    rcases Mark.parts_cases (p := p) depth (marks s) with
      hone | ⟨ms₁, m, ms₂, depth', hmarks, hout, hstart, hparts⟩
    · rw [hone, chars_marks, List.getLast?_singleton, Option.mem_some_iff] at hpart
      exact hpart ▸ hs
    · obtain ⟨u, v, rfl, hu, rfl⟩ := exists_of_startWith hmarks hout hstart
      have hplain : isClosed p := isClosed_of_isPlain (isPlain_of_isSymbol hp)
      rw [List.append_assoc, marks_append hu, List.append_cancel_left_eq, marks_append hplain,
        marks_of_isSymbol hp] at hmarks
      have hclosed : isClosed v := by
        rw [isClosed_append_eq (isClosed_append hu hplain)] at hs
        exact hs
      cases p with
      | nil => cases hp
      | cons c p =>
        rw [List.map_cons, List.cons_append, List.cons.injEq] at hmarks
        obtain ⟨-, rfl⟩ := hmarks
        have hskip := Mark.parts_skip_append (p := c :: p) (p.map fun c => (⟨c, true⟩ : Mark))
          (marks v) depth'
        rw [List.length_map] at hskip
        have hlength : v.length < n := by
          rw [← hn]
          simp only [List.length_append, List.length_cons]
          omega
        rw [hparts, List.length_cons, Nat.add_sub_cancel, hskip, List.getLast?_cons_of_ne_nil
          (Mark.parts_ne_nil _ _ _)] at hpart
        exact ih _ hlength hclosed _ rfl part hpart

section Split

variable {R : Text → Text → Prop} {p : Text}

/-- Where two lists of parts are glued together around a place, the parts vary there. -/
theorem forall₂_glue {x x' : Text} (hx : R x x') {xs ys ys' : List Text} (hxs : xs ≠ [])
    (hclosed : ∀ part ∈ xs.getLast?, isClosed part) (h : List.Forall₂ (Varies R) ys ys')
    (hys : ys ≠ []) :
    List.Forall₂ (Varies R) (Mark.glue xs (ys.modifyHead (x ++ ·)))
      (Mark.glue xs (ys'.modifyHead (x' ++ ·))) := by
  induction xs with
  | nil => exact absurd rfl hxs
  | cons part xs ih =>
    cases xs with
    | nil =>
      cases h with
      | nil => exact absurd rfl hys
      | cons hfirst hothers => exact .cons (.place (hclosed part rfl) hx hfirst) hothers
    | cons next xs =>
      have hlast : ∀ part ∈ (next :: xs).getLast?, isClosed part := by
        rwa [List.getLast?_cons_cons] at hclosed
      exact .cons (.same part) (ih (by simp) hlast)

/-- Texts that vary where they are not cut are cut into parts that vary in the same places. -/
theorem Varies.parts (hp : isSymbol p) (hR : ∀ {x x'}, R x x' → Uncut p x ∧ Uncut p x')
    {t t' : Text} (h : Varies R t t') {depth : Nat}
    (hopened : (Mark.opened? depth (marks t)).isSome) :
    List.Forall₂ (Varies R) (Mark.parts p 0 depth (marks t)) (Mark.parts p 0 depth (marks t')) := by
  induction h generalizing depth with
  | same t => exact List.forall₂_same.2 fun part _ => .same part
  | @place s x x' r r' hs hx _ ih =>
    obtain ⟨hcut, hcut'⟩ := hR hx
    rw [marks_append hs, marks_append hcut.whole.closed, Mark.opened?_append] at hopened
    obtain ⟨k, hk⟩ := Option.isSome_iff_exists.1 (Option.isSome_of_isSome_bind hopened)
    rw [hk, Option.bind_some, Mark.opened?_append, opened?_of_isBalanced hcut.whole.balanced,
      Option.bind_some] at hopened
    -- the parts in front of the place are the same, and its text belongs to the first part behind
    -- it
    have hsplit : ∀ {y r : Text}, Uncut p y → Mark.parts p 0 depth (marks (s ++ (y ++ r))) =
        Mark.glue (Mark.parts p 0 depth (marks s))
          ((Mark.parts p 0 k (marks r)).modifyHead (y ++ ·)) := by
      intro y r hy
      obtain ⟨m, ms, hmarks, hm⟩ := exists_marks_eq_cons hy.front
      rw [marks_append hs, marks_append hy.whole.closed, ← hy.parts, hmarks, List.cons_append,
        Mark.parts_append (ne_nil_of_isSymbol hp) hm _ (Nat.zero_le _),
          Mark.depthBehind_of_opened? hk]
    rw [hsplit hcut, hsplit hcut']
    exact forall₂_glue hx (Mark.parts_ne_nil _ _ _) (isClosed_of_getLast?_parts hp hs depth)
      (ih hopened) (Mark.parts_ne_nil _ _ _)

/-- Texts that vary in places that are not cut have parts that vary one by one. -/
theorem Varies.split (hp : isSymbol p) (hR : ∀ {x x'}, R x x' → Uncut p x ∧ Uncut p x')
    {t t' : Text} (h : Varies R t t') (ht : isBalanced t) :
    List.Forall₂ (Varies R) (split p t) (split p t') := by
  have hopened : (Mark.opened? 0 (marks t)).isSome := by
    rw [opened?_of_isBalanced ht]
    rfl
  exact h.parts hp hR hopened

/-- If there is always something in the places, then both texts have arguments or none has, and they
have equally many. -/
theorem Varies.length_arguments (hR : ∀ {x x'}, R x x' → Uncut [','] x ∧ Uncut [','] x')
    (hblank : ∀ {x x'}, R x x' → (∃ c ∈ x, isBlank c = false) ∧ ∃ c ∈ x', isBlank c = false)
    {t t' : Text}
    (h : Varies R t t') (ht : isBalanced t) : (arguments t).length = (arguments t').length := by
  have hsplit := (h.split rfl hR ht).length_eq
  have hempty : (trim t).isEmpty = (trim t').isEmpty := by
    cases h with
    | same => rfl
    | @place s x x' r r' hs hx _ =>
      have hnot : ∀ {y z : Text}, (∃ c ∈ y, isBlank c = false) →
          (trim (s ++ (y ++ z))).isEmpty = false := by
        rintro y z ⟨c, hc, hnonblank⟩
        rw [List.isEmpty_eq_false_iff]
        intro hnil
        rw [trim_eq_nil_iff.1 hnil c (by simp [hc])] at hnonblank
        cases hnonblank
      rw [hnot (hblank hx).1, hnot (hblank hx).2]
  rw [arguments, arguments, hempty]
  split
  · rfl
  · rw [List.length_map, List.length_map, hsplit]

end Split

/-! ## Finding -/

/-- The pattern is found in both of two texts that vary where it is not found, or in neither. -/
theorem Varies.isSome_find? {R : Text → Text → Prop} {p : Text} (hp : isSymbol p)
    (hR : ∀ {x x'}, R x x' → Unfound p x ∧ Unfound p x') {t t' : Text} (h : Varies R t t') :
    (Text.find? p t).isSome = (Text.find? p t').isSome := by
  induction h with
  | same => rfl
  | @place s x x' r r' hs hx _ ih =>
    -- what is found is found in front of the place or behind it
    have hfind : ∀ {y r : Text}, Unfound p y → (Text.find? p (s ++ (y ++ r))).isSome =
        ((Text.find? p s).isSome || (Text.find? p r).isSome) := by
      intro y r hy
      obtain ⟨m, ms, hmarks, hm⟩ := exists_marks_eq_cons hy.front
      have hstart := Mark.startWith_cons_eq_false (ne_nil_of_isSymbol hp) hm (ms ++ marks r)
      have hbehind := hy.find? (marks r)
      rw [hmarks, List.cons_append, Mark.find?, hstart, Bool.and_false, if_neg (by simp),
        Option.isSome_map] at hbehind
      rw [Text.find?, marks_append hs, marks_append hy.closed, hmarks, List.cons_append,
        Mark.find?_append (ne_nil_of_isSymbol hp) hm, Text.find?, Text.find?, ← hbehind]
      cases Mark.find? p (marks s) with
      | some found => rfl
      | none => rw [Option.isSome_map]; rfl
    rw [hfind (hR hx).1, hfind (hR hx).2, ih]

/-- Blanks are hidden from every symbol. -/
theorem hidden_of_mem_scan_blank {p b : Text} (hp : isSymbol p) (hb : ∀ c ∈ b, isBlank c)
    (q : Quoting) : ∀ m ∈ q.scan b, m.Hidden p := by
  induction b generalizing q with
  | nil => exact nofun
  | cons c b ih =>
    intro m hm
    have hc : isBlank c := hb c (by simp)
    rcases List.mem_cons.1 hm with rfl | hm
    · exact fun _ => ⟨not_mem_of_isBlank hp hc, ne_paren_of_isBlank hc⟩
    · exact ih (fun d hd => hb d (by simp [hd])) _ m hm

/-- Blanks around a text do not matter for what is found in it. -/
theorem isSome_find?_trim {p : Text} (hp : isSymbol p) (t : Text) :
    (Text.find? p (trim t)).isSome = (Text.find? p t).isSome := by
  have hne := ne_nil_of_isSymbol hp
  obtain ⟨left, right, htext, hleft, hright⟩ := exists_eq_trim t
  have hclosed : isClosed left := (isWhole_of_blank hleft).closed
  -- the blanks at the end may belong to a literal that is left open
  have hmarks : marks t = Quoting.code.scan left ++
      (marks (trim t) ++ (Quoting.code.behind (trim t)).scan right) := by
    rw [marks_eq_scan (trim t), ← Quoting.scan_append, ← marks_eq_scan, ← marks_eq_scan,
      ← marks_append hclosed, ← List.append_assoc, ← htext]
  have hright' := hidden_of_mem_scan_blank hp hright (Quoting.code.behind (trim t))
  rw [Text.find?, Text.find?, hmarks, Mark.isSome_find?_hidden hne
    (hidden_of_mem_scan_blank hp hleft _)]
  cases right with
  | nil => rw [Quoting.scan, List.append_nil]
  | cons c right =>
    have hmem : c ∉ p := not_mem_of_isBlank hp (hright c (by simp))
    rw [Quoting.scan] at hright' ⊢
    have hnone := Mark.isSome_find?_hidden hne (fun m hm => hright' m (List.mem_cons_of_mem _ hm))
      []
    rw [List.append_nil, Mark.find?, Option.isSome_none, Option.isSome_eq_false_iff,
      Option.isNone_iff_eq_none] at hnone
    rw [Mark.find?_append hne hmem, hnone]
    cases Mark.find? p (marks (trim t)) <;> rfl

end Text

/-! ## Conditions -/

namespace Condition

/-- The sign of a comparison. -/
def sign? : Condition → Option Comparison
  | compare op _ _ => some op
  | _ => none

/-- The comparison that a text is has the first of the signs that are found in it. -/
theorem sign?_comparison? (t : Text) :
    (comparison? t).bind sign? = Comparison.all.find? fun op => (Text.find? op.sign t).isSome := by
  unfold comparison?
  induction Comparison.all with
  | nil => rfl
  | cons op ops ih =>
    rw [List.findSome?_cons, List.find?_cons]
    cases Text.find? op.sign t with
    | some found => rfl
    | none => exact ih

/-- Texts that vary where no sign is found are comparisons with the same sign, or both none. -/
theorem sign?_comparison?_trim_eq {R : Text → Text → Prop}
    (hR : ∀ op : Comparison, ∀ {x x'}, R x x' → Text.Unfound op.sign x ∧ Text.Unfound op.sign x')
    {t t' : Text} (h : Text.Varies R t t') :
    (comparison? (Text.trim t)).bind sign? = (comparison? (Text.trim t')).bind sign? := by
  rw [sign?_comparison?, sign?_comparison?]
  congr 1
  funext op
  rw [Text.isSome_find?_trim op.isSymbol_sign, Text.isSome_find?_trim op.isSymbol_sign,
    h.isSome_find? op.isSymbol_sign (hR op)]

end Condition

end TapScript
