import TapScript.Proofs.Assigned

/-! # Argument lists

A call is written as a name and its arguments between parentheses, with commas between them. Three
scans take it apart again: one finds the parenthesis that closes the call, one the commas, and both
leave out what stands in literals. What is written with arguments that leave nothing open is found
again, and no text loses anything when it is cut at commas.

* `Text.Mark.intercalate_parts` joins the parts of a text.
* `Text.split_append_cons` cuts a text at a comma, and `Text.split_eq_singleton_iff` says which
  texts are not cut.
* `Text.IsArgument` says what can be an argument, and `Text.arguments_intercalate` reads a list of
  them.
* `Text.splitting_inverts_writing` puts name and arguments together. -/

namespace TapScript

namespace Text

/-! ## Joining parts -/

/-- A character in front of the first part is in front of the whole. -/
theorem intercalate_modifyHead (p : Text) (c : Char) {xs : List Text} (hxs : xs ≠ []) :
    p.intercalate (xs.modifyHead (c :: ·)) = c :: p.intercalate xs := by
  match xs with
  | [] => exact absurd rfl hxs
  | [x] => rw [List.modifyHead_cons, List.intercalate_singleton, List.intercalate_singleton]
  | x :: x' :: xs =>
    rw [List.modifyHead_cons, List.intercalate_cons_cons, List.intercalate_cons_cons]
    rfl

/-- An empty part in front leaves the separator alone. -/
theorem intercalate_nil_cons (p : Text) {xs : List Text} (hxs : xs ≠ []) :
    p.intercalate ([] :: xs) = p ++ p.intercalate xs := by
  cases xs with
  | nil => exact absurd rfl hxs
  | cons x xs => rw [List.intercalate_cons_cons, List.nil_append]

/-- Joining the parts with the pattern gives the text back, less the characters that were
skipped. -/
theorem Mark.intercalate_parts {p : Text} (hp : p ≠ []) (skip : Nat) (depth : Int)
    (ms : List Mark) : p.intercalate (parts p skip depth ms) = (chars ms).drop skip := by
  induction ms generalizing skip depth with
  | nil => rw [parts_nil, List.intercalate_singleton, chars_nil, List.drop_nil]
  | cons m ms ih =>
    cases skip with
    | succ skip => rw [parts_skip, ih, chars_cons, List.drop_succ_cons]
    | zero =>
      rw [List.drop_zero]
      cases hfound : m.outside && m.depthAfter depth == 0 && startWith p (m :: ms) with
      | true =>
        -- the pattern stands where the text is cut, and what is skipped is the rest of it
        have hstart :=
          List.prefix_iff_eq_append.1 (startWith_iff.1 (Bool.and_eq_true_iff.1 hfound).2)
        have hlength : p.length = p.length - 1 + 1 :=
          (Nat.sub_add_cancel (List.length_pos_iff.2 hp)).symm
        rw [chars_cons, hlength, List.drop_succ_cons] at hstart
        rw [parts_cons_of_found hfound, intercalate_nil_cons p (parts_ne_nil _ _ _), ih,
          chars_cons, hstart]
      | false =>
        rw [parts_cons hfound, intercalate_modifyHead p m.char (parts_ne_nil _ _ _), ih,
          List.drop_zero, chars_cons]

/-- The parts of a text with the pattern between them are the text. -/
theorem intercalate_split {p : Text} (hp : p ≠ []) (t : Text) : p.intercalate (split p t) = t := by
  rw [split_eq_parts, Mark.intercalate_parts hp, chars_marks, List.drop_zero]

/-! ## Arguments -/

/-- Nothing is glued together with an empty part. -/
theorem glue_nil_cons {xs : List Text} (hxs : xs ≠ []) (ys : List Text) :
    Mark.glue xs ([] :: ys) = xs ++ ys := by
  induction xs with
  | nil => exact absurd rfl hxs
  | cons x xs ih =>
    cases xs with
    | nil => rw [Mark.glue, List.modifyHead_cons, List.append_nil, List.singleton_append]
    | cons x' xs => exact congrArg (x :: ·) (ih (by simp))

section Separator

variable {c : Char} (hc : isSymbol [c])

include hc

/-- At a separator of one character, outside literals and parentheses, a text is cut into the parts
in front of it and the parts behind it. -/
theorem split_append_cons {s : Text} (hs : isClosed s) (hdepth : Mark.depthBehind 0 (marks s) = 0)
    (t : Text) : split [c] (s ++ c :: t) = split [c] s ++ split [c] t := by
  have hquote : isQuote c = false := (plain_of_isSymbol hc (List.mem_singleton_self c)).2.1
  have hself : Mark.parts [c] 0 0 (⟨c, true⟩ :: marks t) = [] :: Mark.parts [c] 0 0 (marks t) :=
    parts_self hc (marks t)
  -- one character does not reach over a border
  have hborder : ∀ m ms, Mark.startWith [c] (m :: (ms ++ ⟨c, true⟩ :: marks t)) =
      Mark.startWith [c] (m :: ms) :=
    fun _ _ => rfl
  rw [split_eq_parts, marks_append_cons hs hquote, Mark.parts_append_of_border hborder
    (Nat.zero_le _), hdepth, hself, glue_nil_cons
    (Mark.parts_ne_nil _ _ _), ← split_eq_parts, ← split_eq_parts]

/-- A text is in one part exactly if the separator does not stand outside its literals and
parentheses. -/
theorem split_eq_singleton_iff {t : Text} : split [c] t = [t] ↔ ¬OccursAtTop [c] t := by
  refine ⟨?_, split_eq_singleton hc⟩
  rintro hsplit ⟨u, v, rfl, hu, hdepth⟩
  rw [List.append_assoc, List.singleton_append, split_append_cons hc hu hdepth] at hsplit
  have hlength := congrArg List.length hsplit
  have hleft := List.length_pos_iff.2 (Mark.parts_ne_nil (p := [c]) 0 0 (marks u))
  have hright := List.length_pos_iff.2 (Mark.parts_ne_nil (p := [c]) 0 0 (marks v))
  rw [List.length_append, split_eq_parts, split_eq_parts, List.length_singleton] at hlength
  omega

end Separator

/-- A text that can stand between the commas of a call: it closes the literals and the parentheses
that it opens, and no others, and there is no comma outside of both. -/
structure IsArgument (t : Text) : Prop where
  whole : IsWhole t
  uncut : ¬OccursAtTop [','] t

instance (t : Text) : Decidable (IsArgument t) :=
  decidable_of_iff (IsWhole t ∧ split [','] t = [t])
    ⟨fun h => ⟨h.1, (split_eq_singleton_iff rfl).1 h.2⟩,
      fun h => ⟨h.whole, (split_eq_singleton_iff rfl).2 h.uncut⟩⟩

/-- Blanks in front of a text are gone from its trimmed parts. -/
theorem map_trim_split_blank_append {p b : Text} (hp : isSymbol p)
    (hb : ∀ c ∈ b, isBlank c) (t : Text) : (split p (b ++ t)).map trim = (split p t).map trim := by
  have hplain := marks_of_forall_not_isQuote fun c hc => isQuote_eq_false_of_isBlank (hb c hc)
  rw [split_eq_parts, marks_append hplain.1, hplain.2, parts_blank_append hp hb, split_eq_parts]

section Written

variable {gap : Text} (hgap : ∀ c ∈ gap, isBlank c) {args : List Text}
  (hargs : ∀ a ∈ args, IsArgument a)

include hgap hargs

/-- The arguments with commas and blanks between them leave nothing open. -/
theorem isWhole_intercalate : IsWhole (List.intercalate (',' :: gap) args) := by
  have hcomma : IsWhole (',' :: gap) :=
    IsWhole.append (s := [',']) (by decide) (isWhole_of_blank hgap)
  induction args with
  | nil => exact isWhole_of_isPlain rfl
  | cons a args ih =>
    have ha := (hargs a (by simp)).whole
    cases args with
    | nil => rwa [List.intercalate_singleton]
    | cons b args =>
      rw [List.intercalate_cons_cons]
      exact (ha.append hcomma).append (ih fun a' ha' => hargs a' (by simp [ha']))

/-- Cut at the commas, the list has its arguments as parts. -/
theorem map_trim_split_intercalate (hne : args ≠ []) :
    (split [','] (List.intercalate (',' :: gap) args)).map trim = args.map trim := by
  induction args with
  | nil => exact absurd rfl hne
  | cons a args ih =>
    have ha := hargs a (by simp)
    cases args with
    | nil => rw [List.intercalate_singleton, split_eq_singleton rfl ha.uncut]
    | cons b args =>
      rw [List.intercalate_cons_cons, List.append_assoc, List.cons_append, split_append_cons rfl
        ha.whole.closed (depthBehind_of_isBalanced ha.whole.balanced),
        split_eq_singleton rfl ha.uncut, List.singleton_append, List.map_cons,
        map_trim_split_blank_append rfl hgap, ih (fun a' ha' => hargs a' (by simp [ha']))
        (by simp), ← List.map_cons]

/-- The list is read as its arguments, unless it is one blank text: that reads as no argument at
all. -/
theorem arguments_intercalate (hblank : ∀ a, args = [a] → trim a ≠ []) :
    arguments (List.intercalate (',' :: gap) args) = args.map trim := by
  by_cases hne : args = []
  · subst hne
    rfl
  · have htrim : trim (List.intercalate (',' :: gap) args) ≠ [] := by
      match args with
      | [] => exact absurd rfl hne
      | [a] => exact List.intercalate_singleton.symm ▸ hblank a rfl
      | a :: b :: args =>
        -- a comma is no blank
        intro hnil
        rw [List.intercalate_cons_cons] at hnil
        exact absurd (trim_eq_nil_iff.1 hnil ',' (by simp)) (by decide)
    rw [arguments, if_neg (by simpa using htrim), map_trim_split_intercalate hgap hargs hne]

end Written

/-- **Splitting a call undoes writing it.** A name and arguments in parentheses, with commas and any
blanks between the arguments, are read as a call of that name whose arguments are the trimmed texts,
in order. And whatever text is cut at its commas, the parts joined with commas are the text
again. -/
theorem splitting_inverts_writing :
    (∀ (name gap : Text) (args : List Text), isName name → (∀ c ∈ gap, isBlank c) →
      (∀ a ∈ args, IsArgument a) → (∀ a, args = [a] → trim a ≠ []) → ∃ inner,
      call? (name ++ wrap (List.intercalate (',' :: gap) args)) = some ⟨name, inner⟩ ∧
        arguments inner = args.map trim) ∧
    ∀ t, List.intercalate [','] (split [','] t) = t := by
  refine ⟨fun name gap args hname hgap hargs hblank => ?_, intercalate_split (List.cons_ne_nil _ _)⟩
  exact ⟨_, call?_name_wrap hname (isWhole_intercalate hgap hargs), arguments_intercalate
    hgap hargs hblank⟩

/-- A literal with a comma and a parenthesis in it, a nested call with a literal of its own, and an
argument that is left blank. -/
theorem splitting_inverts_writing_tap :
    (∀ a ∈ ["'),'".toList, " f(1, (2), '\\'(')".toList, []], IsArgument a) ∧
    ∃ inner, call? "tap('),',  f(1, (2), '\\'('), )".toList = some ⟨"tap".toList, inner⟩ ∧
      arguments inner = ["'),'".toList, "f(1, (2), '\\'(')".toList, []] := by
  have hargs : ∀ a ∈ ["'),'".toList, " f(1, (2), '\\'(')".toList, []], IsArgument a := by
    decide +kernel
  have htext :
      "tap".toList ++
      wrap (List.intercalate [',', ' '] ["'),'".toList, " f(1, (2), '\\'(')".toList, []]) =
      "tap('),',  f(1, (2), '\\'('), )".toList := by decide +kernel
  obtain ⟨inner, hcall, hinner⟩ := splitting_inverts_writing.1 "tap".toList [' '] _ rfl
    (List.forall_mem_singleton.2 rfl) hargs nofun
  exact ⟨hargs, inner, htext ▸ hcall, hinner.trans (by decide +kernel)⟩

end Text

end TapScript
