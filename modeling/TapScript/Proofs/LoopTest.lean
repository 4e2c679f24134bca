import TapScript.Proofs.Program

/-! # The test of a loop

The conditions `true`, `false` and `!EXIT` of a loop are decided without being read as conditions
are. Reading them would come to the same: the two constants have their values, and `!EXIT` is
answered by the same single look at the stop flag.

* `Setup.loopTest` is the test of a loop with a condition in parentheses, said without the shortcut
  for `!EXIT`.
* `Setup.goesOn_eq_loopTest` says that a loop goes on by this test, `Setup.test_of_constant?` that
  reading a constant gives its value. -/

namespace TapScript

namespace Text

/-- A text is one part if it has no character with which the separator starts. -/
theorem split_eq_self {c : Char} {t : Text} (h : c ∉ t) (separator : Text) :
    split (c :: separator) t = [t] := by
  have hmarks : ∀ (ms : List Mark) (depth : Int), c ∉ chars ms →
      Mark.split (c :: separator) 0 depth ms = (chars ms, []) := by
    intro ms
    induction ms with
    | nil => exact fun _ _ => rfl
    | cons m ms ih =>
      intro depth hms
      simp only [chars_cons, List.mem_cons, not_or] at hms
      simp [Mark.split, Mark.startWith, hms.1, ih _ hms.2]
  simp [split, hmarks (marks t) 0 (by simpa using h)]

/-- What is read up to a closing parenthesis is part of the text. -/
theorem Mark.chars_of_closing? {ms : List Mark} {extra : Nat} {inner rest : Text}
    (h : closing? extra ms = some (inner, rest)) : chars ms = inner ++ ')' :: rest := by
  have further : ∀ {m : Mark} {ms : List Mark} {found : Option (Text × Text)} {inner : Text},
      (∀ inner, found = some (inner, rest) → chars ms = inner ++ ')' :: rest) →
      (found.map fun read => (m.char :: read.1, read.2)) = some (inner, rest) →
      chars (m :: ms) = inner ++ ')' :: rest := by
    intro m ms found inner ih hmap
    obtain ⟨⟨inner', rest'⟩, hfound, heq⟩ := Option.map_eq_some_iff.1 hmap
    cases heq
    simp [ih inner' hfound]
  -- apart from the parenthesis that closes, every mark is put back in front of what was read
  fun_induction closing? extra ms generalizing inner with
  | case1 => cases h
  | case2 extra m ms hopen ih => exact further (fun _ => ih) h
  | case3 m ms hopen hclose =>
    cases h
    simp only [Mark.is, Bool.and_eq_true, beq_iff_eq] at hclose
    simp [hclose.2]
  | case4 m ms hopen hclose extra ih => exact further (fun _ => ih) h
  | case5 extra m ms hopen hclose ih => exact further (fun _ => ih) h

/-- In front of a plain text, the first closing parenthesis is the one behind it. -/
theorem Mark.closing?_plain {t : Text} (h : ∀ c ∈ t, c ≠ '(' ∧ c ≠ ')') :
    closing? 0 ((t.map fun c => ⟨c, true⟩) ++ [⟨')', true⟩]) = some (t, []) := by
  induction t with
  | nil => rfl
  | cons c t ih =>
    have hc := h c (by simp)
    simp [closing?, Mark.is, hc, ih fun d hd => h d (by simp [hd])]

/-- If the parenthesis around a text is closed by its last character, the text stands inside. -/
theorem eq_of_unwrap? {t inner : Text} (h : unwrap? ('(' :: t ++ [')']) = some inner) :
    inner = t := by
  simp only [List.cons_append, unwrap?] at h
  split at h
  · rename_i inner' hclosing
    cases h
    have hchars := Mark.chars_of_closing? hclosing
    rw [chars_marks] at hchars
    exact (List.append_cancel_right hchars).symm
  · cases h

/-- A plain text is unwrapped from its parentheses. -/
theorem unwrap?_plain {t : Text} (hq : ∀ c ∈ t, isQuote c = false)
    (hp : ∀ c ∈ t, c ≠ '(' ∧ c ≠ ')') : unwrap? ('(' :: t ++ [')']) = some t := by
  have hmarks : marks (t ++ [')']) = (t.map fun c => ⟨c, true⟩) ++ [⟨')', true⟩] := by
    have ⟨hclosed, hmap⟩ := marks_of_forall_not_isQuote hq
    rw [marks_append hclosed, hmap]
    rfl
  simp only [List.cons_append, unwrap?, hmarks, Mark.closing?_plain hp]

end Text

namespace Query

/-- Where no parenthesis opens there is no query. -/
theorem lastFrom?_eq_none {ms : List Text.Mark} (h : ∀ m ∈ ms, m.is '(' = false)
    (before word : Text) : lastFrom? before word ms = none := by
  induction ms generalizing before word with
  | nil => rfl
  | cons m ms ih =>
    have ih := ih fun m' hm' => h m' (by simp [hm'])
    simp only [lastFrom?, h m (by simp), ih]
    split <;> rfl

/-- A parenthesis that no name stands in front of is no query. -/
theorem last?_plain {t : Text} (hq : ∀ c ∈ t, Text.isQuote c = false)
    (hp : ∀ c ∈ t, c ≠ '(' ∧ c ≠ ')') : last? ('(' :: t ++ [')']) = none := by
  have hplain : ∀ c ∈ '(' :: t ++ [')'], Text.isQuote c = false := by
    intro c hc
    simp only [List.cons_append, List.mem_cons, List.mem_append, List.not_mem_nil, or_false] at hc
    rcases hc with rfl | hc | rfl
    · rfl
    · exact hq c hc
    · rfl
  have hrest : ∀ m ∈ (t ++ [')']).map fun c => (⟨c, true⟩ : Text.Mark), m.is '(' = false := by
    intro m hm
    obtain ⟨c, hc, rfl⟩ := List.mem_map.1 hm
    rcases List.mem_append.1 hc with hc | hc
    · simp [Text.Mark.is, (hp c hc).1]
    · rw [List.mem_singleton.1 hc]
      rfl
  -- the first parenthesis is the only one that opens, and there is no word in front of it
  rw [last?, (Text.marks_of_forall_not_isQuote hplain).2, List.cons_append,
    List.map_cons, lastFrom?]
  simp only [lastFrom?_eq_none hrest]
  rfl

end Query

/-! ## Three conditions -/

/-- Blanks around a condition do not matter. -/
theorem Condition.readUpTo_congr {s t : Text} (h : Text.trim s = Text.trim t) (fuel : Nat) :
    readUpTo (fuel + 1) s = readUpTo (fuel + 1) t := by
  simp only [readUpTo, h]

/-- A phrase in parentheses has no blanks around it. -/
theorem Phrase.trim_wrapped (c : Phrase) : Text.trim c.wrapped = c.wrapped := by
  refine Text.trim_eq_self (fun d hd => ?_) fun d hd => ?_
  · cases hd
    rfl
  · rw [Phrase.wrapped, List.getLast?_concat] at hd
    cases hd
    rfl

/-- The condition is one of the words that a loop decides without reading them. -/
def Phrase.IsWord (c : Phrase) (w : Text) : Prop :=
  Text.trim c.text = w ∧ w ∈ ["true".toList, "false".toList, "!EXIT".toList]

namespace Phrase.IsWord

variable {c : Phrase} {w : Text} (h : c.IsWord w)

include h

/-- Beside the word there are only blanks. -/
theorem plain {d : Char} (hd : d ∈ c.text) :
    Text.isQuote d = false ∧ (d ≠ '(' ∧ d ≠ ')') ∧ d ≠ '&' ∧ d ≠ '|' := by
  obtain ⟨left, right, htext, hleft, hright⟩ := Text.exists_eq_trim c.text
  have hblank : Text.isBlank d →
      Text.isQuote d = false ∧ (d ≠ '(' ∧ d ≠ ')') ∧ d ≠ '&' ∧ d ≠ '|' := by
    intro hb
    refine ⟨Text.isQuote_eq_false_of_isBlank hb, ⟨?_, ?_⟩, ?_, ?_⟩ <;>
      · rintro rfl
        exact absurd hb (by decide)
  rw [htext, h.1] at hd
  simp only [List.mem_append] at hd
  rcases hd with (hd | hd) | hd
  · exact hblank (hleft d hd)
  · have hwords : ["true".toList, "false".toList, "!EXIT".toList].all (fun w => w.all fun d =>
        !Text.isQuote d && (d != '(' && d != ')') && d != '&' && d != '|') = true := rfl
    have hplain := List.all_eq_true.1 (List.all_eq_true.1 hwords w h.2) d hd
    simp only [Bool.and_eq_true, Bool.not_eq_true', bne_iff_ne] at hplain
    exact ⟨hplain.1.1.1, hplain.1.1.2, hplain.1.2, hplain.2⟩
  · exact hblank (hright d hd)

/-- A phrase is unwrapped from its parentheses. -/
theorem unwrap?_wrapped : Text.unwrap? c.wrapped = some c.text :=
  Text.unwrap?_plain (fun _ hd => (h.plain hd).1) fun _ hd => (h.plain hd).2.1

/-- There is no call in a constant condition. -/
theorem last?_wrapped : Query.last? c.wrapped = none :=
  Query.last?_plain (fun _ hd => (h.plain hd).1) fun _ hd => (h.plain hd).2.1

/-- The condition in its parentheses is read as the word. -/
theorem read_wrapped : Condition.read c.wrapped = Condition.readUpTo (c.text.length + 2) w := by
  -- neither `&&` nor `||` cuts the condition, so reading it starts by taking off the parentheses
  have hsplit : ∀ d, d = '&' ∨ d = '|' → Text.split [d, d] c.wrapped = [c.wrapped] := by
    intro d hd
    refine Text.split_eq_self (fun hmem => ?_) _
    simp only [Phrase.wrapped, List.cons_append, List.mem_cons, List.mem_append, List.not_mem_nil,
      or_false] at hmem
    rcases hmem with rfl | hmem | rfl
    · exact absurd hd (by decide)
    · have hplain := (h.plain hmem).2.2
      rcases hd with rfl | rfl
      · exact hplain.1 rfl
      · exact hplain.2 rfl
    · exact absurd hd (by decide)
  have hlength : c.wrapped.length = c.text.length + 2 := by simp [Phrase.wrapped]
  have htrim : Text.trim w = w := by
    have hw : ∀ w ∈ ["true".toList, "false".toList, "!EXIT".toList], Text.trim w = w := by decide
    exact hw w h.2
  rw [Condition.read, Condition.readUpTo]
  simp only [c.trim_wrapped, hsplit '&' (.inl rfl), hsplit '|' (.inr rfl), h.unwrap?_wrapped]
  rw [if_neg (by simp), if_neg (by simp), hlength, Condition.readUpTo_congr (h.1.trans htrim.symm)]

end Phrase.IsWord

/-- A sequence at the station is a sequence in the session. -/
theorem Session.lift_bind {ω α β : Type} (x : Exec (Station ω) α) (f : α → Exec (Station ω) β) :
    Session.lift (x >>= f) = Session.lift x >>= fun a => Session.lift (f a) := by
  funext s
  simp only [Session.lift, Exec.zoom, Exec.bind_apply]
  cases x s.station <;> rfl

namespace Setup

variable {ω : Type} (setup : Setup ω)

/-- The value of a condition that is a constant. -/
def constant? (c : Phrase) : Option Bool :=
  if Text.trim c.text = "true".toList then some true
  else if Text.trim c.text = "false".toList then some false
  else none

/-- The test of a loop: a constant is taken as it is, and any other condition is tested. -/
def loopTest (number : Nat) (c : Phrase) : Exec (Session ω) Bool :=
  match constant? c with
  | some b => return b
  | none => setup.test number c.wrapped

/-- A condition that is decided by the stop flag alone is tested by one look at it. -/
theorem test_of_isWord {c : Phrase} {w : Text} (h : c.IsWord w) (verdict : Bool → Bool)
    (hw : ∀ (env : Environment) d,
      (Condition.readUpTo (c.text.length + 2) w).holds env d = (verdict env.exit, d))
    (number : Nat) : setup.test number c.wrapped = do return verdict (← setup.stopRequested) := by
  have hexpand : ∀ frame, Query.expand setup.gateway setup.config setup.fuel number
      frame c.wrapped = pure (.ok c.wrapped) := by
    intro frame
    rw [Query.expand, Query.maxExpansions, Query.expandUpTo, h.last?_wrapped]
  have htest : ∀ frame, Query.test setup.gateway setup.config setup.fuel number frame c.wrapped =
      (do return verdict (← TapScript.stopRequested setup.gateway)) := by
    intro frame
    rw [Query.test, hexpand, pure_bind]
    unfold Query.reading
    simp only [Environment.holds, h.read_wrapped, hw]
    rfl
  -- the variables are looked at, but no verdict depends on them
  funext s
  rw [Setup.test, Session.frame, Exec.gets_bind, htest, Session.lift_bind]
  rfl

/-- To test a constant is to look at the flag once and to return it. -/
theorem test_of_constant? {c : Phrase} {b : Bool} (h : constant? c = some b) (number : Nat) :
    setup.test number c.wrapped = do let _ ← setup.stopRequested; return b := by
  unfold constant? at h
  split at h
  · rename_i htrue
    cases h
    exact setup.test_of_isWord ⟨htrue, by decide⟩ (fun _ => true) (fun _ _ => rfl) number
  · split at h
    · rename_i hfalse
      cases h
      exact setup.test_of_isWord ⟨hfalse, by decide⟩ (fun _ => false) (fun _ _ => rfl) number
    · cases h

/-- Without its parentheses, a condition is one of the words if there is nothing else between
them. -/
theorem bare_eq_iff (c : Phrase) {w : Text}
    (hw : w ∈ ["true".toList, "false".toList, "!EXIT".toList]) :
    ((Text.unwrap? c.wrapped).map Text.trim).getD c.wrapped = w ↔ Text.trim c.text = w := by
  constructor
  · intro h
    cases hunwrap : Text.unwrap? c.wrapped with
    | none =>
      -- with its parentheses the condition is none of the words
      rw [hunwrap, Option.map_none, Option.getD_none] at h
      rw [← h] at hw
      simp [Phrase.wrapped] at hw
    | some inner =>
      rw [hunwrap, Text.eq_of_unwrap? hunwrap] at h
      exact h
  · intro h
    have hword : c.IsWord w := ⟨h, hw⟩
    rw [hword.unwrap?_wrapped]
    exact h

/-- A loop goes on by its test. -/
theorem goesOn_eq_loopTest (line : Line) (c : Phrase) :
    setup.goesOn line c.wrapped = setup.loopTest line.number c := by
  have htrue := bare_eq_iff c (w := "true".toList) (by decide)
  have hfalse := bare_eq_iff c (w := "false".toList) (by decide)
  have hexit := bare_eq_iff c (w := "!EXIT".toList) (by decide)
  unfold Setup.goesOn Setup.loopTest constant?
  simp only [c.trim_wrapped, beq_iff_eq, htrue, hfalse, hexit]
  split
  · rfl
  · split
    · rfl
    · split
      · rename_i hexit
        have htest := setup.test_of_isWord ⟨hexit, by decide⟩ (fun stopped => !stopped)
          (fun _ _ => rfl) line.number
        exact htest.symm
      · rfl

end Setup

end TapScript
