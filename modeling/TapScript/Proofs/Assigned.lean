import TapScript.Proofs.Calls
import TapScript.Proofs.Separation
import TapScript.Run.Statement

/-! # Statements that assign

A statement `name = e` is an assignment, whatever text `e` is. What is done then depends on `e`
before it depends on the name: if `e` is a call of a command, the command is carried out and its
value is bound to the name, and only otherwise the name is looked at.

* `Assignment.source` is the statement as it is written, `Assignment.ofText?_source` reads it.
* `Builtin.call?` is the command that `e` calls.
* `Setup.statement_command`, `Setup.statement_exit` and `Setup.statement_value` say what the
  statement does. -/

namespace TapScript

namespace Text

/-! ## Names -/

/-- A name consists of the characters of names. -/
theorem isNameChar_of_isName {name : Text} (h : isName name) {c : Char} (hc : c ∈ name) :
    isNameChar c := by
  cases name with
  | nil => cases h
  | cons d r =>
    rw [isName, Bool.and_eq_true] at h
    rcases List.mem_cons.1 hc with rfl | hc
    · exact isNameChar_iff.2 (.inl h.1)
    · exact List.all_eq_true.1 h.2 c hc

/-- There are no blanks in a name. -/
theorem isBlank_eq_false_of_isName {name : Text} (h : isName name) {c : Char} (hc : c ∈ name) :
    isBlank c = false :=
  isBlank_eq_false_of_isWordChar (isWordChar_of_isNameChar (isNameChar_of_isName h hc))

/-- A character that no name has is none of a name's characters. -/
theorem ne_of_isName {name : Text} (h : isName name) {c d : Char} (hc : c ∈ name)
    (hd : isNameChar d = false) : c ≠ d := by
  rintro rfl
  rw [isNameChar_of_isName h hc] at hd
  cases hd

/-- No name is empty. -/
theorem ne_nil_of_isName {name : Text} (h : isName name) : name ≠ [] := by
  rintro rfl
  cases h

/-- A name has no blanks around it that could be trimmed. -/
theorem trim_name {name : Text} (h : isName name) : trim name = name :=
  trim_eq_self (fun _ hc => isBlank_eq_false_of_isName h (List.mem_of_mem_head? hc))
    fun _ hc => isBlank_eq_false_of_isName h (List.mem_of_getLast? hc)

/-- A name in front of parentheses that are closed at the end is a call. -/
theorem call?_name_wrap {name args : Text} (hname : isName name) (hargs : IsWhole args) :
    call? (name ++ wrap args) = some ⟨name, args⟩ := by
  have hne : ∀ c ∈ name, (c != '(') = true := fun c hc => bne_iff_ne.2 (ne_of_isName hname hc rfl)
  have htrim : trim (name ++ wrap args) = name ++ wrap args := by
    refine trim_eq_self (fun c hc => ?_) fun c hc => ?_
    · cases name with
      | nil => cases hname
      | cons d r =>
        cases hc
        exact isBlank_eq_false_of_isName hname (List.mem_cons_self ..)
    · rw [wrap, ← List.append_assoc, List.getLast?_concat] at hc
      cases hc
      rfl
  have htake : (name ++ wrap args).takeWhile (· != '(') = name := by
    rw [List.takeWhile_append_of_pos hne]
    simp [wrap]
  have hdrop : (name ++ wrap args).dropWhile (· != '(') = wrap args := by
    rw [List.dropWhile_append_of_pos hne]
    simp [wrap]
  simp only [call?, htrim, htake, hdrop, trim_name hname, hname, if_true, hargs.unwrap?_wrap,
    Option.map_some]

end Text

namespace Assignment

/-! ## Reading the statement -/

/-- The statement that assigns, as it is written. -/
def source (name e : Text) : Text := name ++ ' ' :: '=' :: ' ' :: e

/-- A declaring word is followed by a blank, which no name holds. -/
theorem withoutDeclaration_name {name : Text} (h : Text.isName name) :
    withoutDeclaration name = name := by
  have hnone : ∀ word, afterDeclaration? name word = none := by
    intro word
    simp only [afterDeclaration?, Option.bind_eq_bind, Option.bind_eq_none_iff]
    intro r hr
    rw [Text.after?_eq_some] at hr
    have hblank : ((r.head?.map Text.isBlank).getD false) = false := by
      cases r with
      | nil => rfl
      | cons c r => exact Text.isBlank_eq_false_of_isName h (by rw [hr]; simp)
    simp [hblank, guard]
  rw [withoutDeclaration, List.findSome?_eq_none_iff.2 fun word _ => hnone word]
  rfl

/-- Blanks behind a name do not keep it from being assigned to. -/
theorem target?_name {name b : Text} (h : Text.isName name) (hb : ∀ c ∈ b, Text.isBlank c) :
    target? (name ++ b) = some name := by
  have htrim : Text.trim (name ++ b) = name := by
    rw [Text.trim_append_blank hb, Text.trim_name h]
  simp only [target?, htrim, withoutDeclaration_name h, h, if_true]

/-- What is left of a text without its blanks and a declaring word still has its signs. -/
theorem mem_withoutDeclaration {t : Text} {c : Char} (hc : c ∈ t) (hblank : Text.isBlank c = false)
    (hwords : ∀ word ∈ declarations, c ∉ word) : c ∈ withoutDeclaration t := by
  unfold withoutDeclaration
  cases hfound : declarations.findSome? (afterDeclaration? t) with
  | none => exact hc
  | some u =>
    obtain ⟨word, hword, hafter⟩ := List.exists_of_findSome?_eq_some hfound
    simp only [afterDeclaration?, Option.bind_eq_bind, Option.bind_eq_some_iff, Text.after?_eq_some,
      Option.some.injEq] at hafter
    obtain ⟨r, rfl, -, -, rfl⟩ := hafter
    have hr : c ∈ r := (List.mem_append.1 hc).resolve_left (hwords word hword)
    obtain ⟨left, hleft, hblanks⟩ := Text.exists_eq_trimStart r
    rw [hleft] at hr
    refine (List.mem_append.1 hr).resolve_left fun hmem => ?_
    rw [hblanks c hmem] at hblank
    cases hblank

/-- What has an equals sign in it is no variable. -/
theorem target?_eq_none {t : Text} (h : '=' ∈ t) : target? t = none := by
  have hwords : ∀ word ∈ declarations, '=' ∉ word := by decide
  have htrim : '=' ∈ Text.trim t := by
    obtain ⟨left, right, htext, hleft, hright⟩ := Text.exists_eq_trim t
    rw [htext, List.mem_append, List.mem_append] at h
    rcases h with (h | h) | h
    · exact absurd (hleft _ h) (by decide)
    · exact h
    · exact absurd (hright _ h) (by decide)
  have hmem := mem_withoutDeclaration htrim rfl hwords
  have hname : Text.isName (withoutDeclaration (Text.trim t)) = false := by
    cases hn : Text.isName (withoutDeclaration (Text.trim t)) with
    | false => rfl
    | true => exact absurd rfl (Text.ne_of_isName hn hmem (d := '=') rfl)
  simp only [target?, hname, Bool.false_eq_true, if_false]

/-- The characters in front of the sign are neither quotes nor parentheses nor signs of
comparison. -/
def isFront (c : Char) : Bool := !Text.isQuote c && !"()=!<>".toList.contains c

/-- Behind a plain text, the first equals sign is where the statement is cut. -/
theorem splitFrom?_front {u e : Text} (hu : ∀ c ∈ u, isFront c) (he : e.head? ≠ some '=')
    {previous : Option Char} (hprevious : ∀ c, previous = some c → isFront c) :
    splitFrom? previous 0 ((u.map fun c => ⟨c, true⟩) ++ ⟨'=', true⟩ :: Text.marks e) =
      some (u, e) := by
  have hplain : ∀ {c : Char}, isFront c → c ≠ '(' ∧ c ≠ ')' ∧ c ≠ '=' ∧ c ≠ '!' ∧
      c ≠ '<' ∧ c ≠ '>' := by
    intro c hc
    simpa [isFront] using (Bool.and_eq_true_iff.1 hc).2
  -- no character of `u` is the sign or opens a parenthesis, so the depth stays zero
  induction u generalizing previous with
  | nil =>
    have hnext : ((Text.marks e).head?.map Text.Mark.char == some '=') = false := by
      rw [← List.head?_map, ← Text.chars, Text.chars_marks]
      simpa using he
    have hbefore : (previous.map fun c => ['=', '!', '<', '>'].contains c).getD false = false := by
      cases previous with
      | none => rfl
      | some c => simp [hplain (hprevious c rfl)]
    have hsign : ((⟨'=', true⟩ : Text.Mark).is '=' && (0 : Int) == 0) = true := rfl
    rw [List.map_nil, List.nil_append, splitFrom?, if_pos hsign]
    simp only [hnext, hbefore, Bool.or_self, Bool.false_eq_true, if_false, Text.chars_marks]
  | cons c u ih =>
    have hc := hu c (by simp)
    have hsign : ¬((⟨c, true⟩ : Text.Mark).is '=' && (0 : Int) == 0) = true := by
      simp [Text.Mark.is, hplain hc]
    have hdepth : (⟨c, true⟩ : Text.Mark).depthAfter 0 = 0 :=
      Text.depthAfter_of_ne ⟨(hplain hc).1, (hplain hc).2.1⟩ 0
    rw [List.map_cons, List.cons_append, splitFrom?, if_neg hsign, hdepth,
      ih (fun d hd => hu d (by simp [hd])) fun d hd => by cases hd; exact hc]
    rfl

/-- A name may stand in front of the equals sign. -/
theorem isFront_of_isName {name : Text} (h : Text.isName name) {c : Char} (hc : c ∈ name) :
    isFront c := by
  have hne := fun d hd => Text.ne_of_isName h hc (d := d) hd
  simp [isFront, Query.isQuote_eq_false_of_isNameChar (Text.isNameChar_of_isName h hc), hne '(' rfl,
    hne ')' rfl, hne '=' rfl, hne '!' rfl, hne '<' rfl, hne '>' rfl]

/-- A name, a blank and an equals sign make an assignment, unless another such sign follows at
once. -/
theorem ofText?_equation {name e : Text} (h : Text.isName name) (he : e.head? ≠ some '=') :
    ofText? (name ++ ' ' :: '=' :: e) = some ⟨name, none, Text.trim e⟩ := by
  -- it is no step, since a step has no equals sign
  have hstep : ∀ sign op, '=' ∉ sign → ofStep? sign op (name ++ ' ' :: '=' :: e) = none := by
    intro sign op hsign
    simp only [ofStep?, Option.bind_eq_bind, Option.bind_eq_none_iff, Text.before?_eq_some]
    intro left hleft target htarget
    have hmem : '=' ∈ left ++ sign := by
      rw [← hleft]
      simp
    rw [target?_eq_none ((List.mem_append.1 hmem).resolve_right hsign)] at htarget
    cases htarget
  have hfront : ∀ c ∈ name ++ [' '], isFront c := by
    intro c hc
    rcases List.mem_append.1 hc with hc | hc
    · exact isFront_of_isName h hc
    · rw [List.mem_singleton.1 hc]
      rfl
  have hquote : ∀ c ∈ name ++ [' '], Text.isQuote c = false := fun c hc => by
    have hc := hfront c hc
    simp only [isFront, Bool.and_eq_true, Bool.not_eq_true'] at hc
    exact hc.1
  have hmarks := Text.marks_of_forall_not_isQuote hquote
  -- the name and the blank behind it have no sign, so the text is cut at this one
  have hsplit : splitFrom? none 0 (Text.marks (name ++ ' ' :: '=' :: e)) =
      some (name ++ [' '], e) := by
    have htext : name ++ ' ' :: '=' :: e = name ++ [' '] ++ '=' :: e := by simp
    rw [htext, Text.marks_append_cons hmarks.1 rfl, hmarks.2]
    exact splitFrom?_front hfront he nofun
  have hop : (name ++ [' ']).getLast?.bind compound? = none := by
    rw [List.getLast?_concat]
    rfl
  have hequation : ofEquation? (name ++ ' ' :: '=' :: e) = some ⟨name, none, Text.trim e⟩ := by
    simp only [ofEquation?, hsplit, Option.bind_eq_bind, Option.bind_some, hop, Option.isSome_none,
      Bool.false_eq_true, if_false, target?_name h (b := [' ']) (by simp [Text.isBlank])]
  rw [ofText?, hstep _ _ (by decide), hstep _ _ (by decide), hequation]
  rfl

/-- Trimming the statement takes nothing away but blanks behind the text that is assigned. -/
theorem trim_source {name : Text} (h : Text.isName name) (e : Text) :
    Text.trim (source name e) = name ++ ' ' :: '=' :: Text.trimEnd (' ' :: e) := by
  have hsign : Text.trimEnd ('=' :: ' ' :: e) = '=' :: Text.trimEnd (' ' :: e) :=
    Text.trimEnd_cons rfl _
  have hend : Text.trimEnd (name ++ [' '] ++ '=' :: ' ' :: e) =
      name ++ [' '] ++ '=' :: Text.trimEnd (' ' :: e) := by
    rw [Text.trimEnd_append (by simp [hsign]), hsign]
  have hstart : Text.trimStart (source name e) = source name e := by
    cases hname : name with
    | nil => exact absurd hname (Text.ne_nil_of_isName h)
    | cons c r =>
      have hc := Text.isBlank_eq_false_of_isName h (c := c) (by simp [hname])
      rw [source, List.cons_append, Text.trimStart, List.dropWhile_cons_of_neg (by simp [hc])]
  have htext : source name e = name ++ [' '] ++ '=' :: ' ' :: e := by simp [source]
  rw [Text.trim, hstart, htext, hend]
  simp

/-- A written assignment is read back, with its expression trimmed. -/
theorem ofText?_source {name : Text} (h : Text.isName name) (e : Text) :
    ofText? (Text.trim (source name e)) = some ⟨name, none, Text.trim e⟩ := by
  have hhead : (Text.trimEnd (' ' :: e)).head? ≠ some '=' := by
    obtain ⟨right, htext, -⟩ := Text.exists_eq_trimEnd (' ' :: e)
    intro hhead
    obtain ⟨r, hr⟩ := List.head?_eq_some_iff.1 hhead
    rw [hr, List.cons_append] at htext
    exact absurd (List.cons.inj htext).1 (by decide)
  have hvalue : Text.trim (Text.trimEnd (' ' :: e)) = Text.trim e := by
    rw [Text.trim_trimEnd]
    exact Text.trim_blank_append (b := [' ']) (by simp [Text.isBlank]) e
  rw [trim_source h, ofText?_equation h hhead, hvalue]

end Assignment

/-! ## What the statement does -/

/-- The command that the text calls, with the text of its arguments. -/
def Builtin.call? (e : Text) : Option (Builtin × Text) := do
  let c ← Text.call? e
  let b ← Builtin.ofName? c.name
  some (b, c.args)

/-- Whether a text is the call of a command does not depend on the blanks around it. -/
theorem Builtin.call?_trim (e : Text) : Builtin.call? (Text.trim e) = Builtin.call? e := by
  simp only [Builtin.call?, Text.call?, Text.trim_trim]

namespace Setup

variable {ω : Type} (setup : Setup ω) (run : Function → Exec (Session ω) Flow) (number : Nat)
variable {name : Text} (hname : Text.isName name) {e : Text}

include hname

/-- The statement is neither empty nor a comment, and calls the command that its right side
calls. -/
theorem statement_source : setup.statement run ⟨number, Assignment.source name e⟩ =
    match Builtin.call? e with
    | some (b, args) => do
      match ← setup.perform number b args with
      | .error mishap => return .error mishap
      | .ok v =>
        deliver (some name) v
        return .ok ()
    | none =>
      if name == exitName then do
        setup.assignExit ⟨number, Assignment.source name e⟩ (Text.trim e)
        return .ok ()
      else setup.assign run ⟨number, Assignment.source name e⟩ ⟨name, none, Text.trim e⟩ := by
  have hcomment : ((Text.trim (Assignment.source name e)).isEmpty ||
      (Text.after? ['/', '/'] (Text.trim (Assignment.source name e))).isSome) = false := by
    rw [Assignment.trim_source hname]
    cases hn : name with
    | nil => exact absurd hn (Text.ne_nil_of_isName hname)
    | cons c r =>
      have hc : '/' ≠ c := (Text.ne_of_isName hname (c := c) (by simp [hn]) rfl).symm
      simp [Text.after?, hc]
  have hcall : builtinCall? (Text.trim (Assignment.source name e))
      (some ⟨name, none, Text.trim e⟩) = (Builtin.call? e).map fun call =>
      (call.1, call.2, some name) := by
    rw [← Builtin.call?_trim, builtinCall?, Builtin.call?]
    cases Text.call? (Text.trim e) with
    | none => rfl
    | some c => cases hb : Builtin.ofName? c.name <;> simp [hb]
  rw [statement]
  simp only [hcomment, Bool.false_eq_true, if_false, Assignment.ofText?_source hname, hcall]
  cases Builtin.call? e with
  | none => rfl
  | some call => rfl

/-- A call of a command is carried out and its value bound, whatever the name is. -/
theorem statement_command {b : Builtin} {args : Text} (h : Builtin.call? e = some (b, args)) :
    setup.statement run ⟨number, Assignment.source name e⟩ = (do
      match ← setup.perform number b args with
      | .error mishap => return .error mishap
      | .ok v =>
        deliver (some name) v
        return .ok ()) := by
  rw [setup.statement_source run number hname, h]

/-- Any other text is expanded and its value bound, if the name is not that of the stop flag and the
text calls no function of the script. -/
theorem statement_value (h : Builtin.call? e = none) (hexit : name ≠ exitName)
    (hfunction : setup.assignedCall? ⟨name, none, Text.trim e⟩ = none) :
    setup.statement run ⟨number, Assignment.source name e⟩ = (do
      match ← setup.expand number (Text.trim e) with
      | .error mishap => return .error mishap
      | .ok expanded =>
        Session.bind name (← setup.reading fun env dice => env.resolve expanded dice)
        return .ok ()) := by
  have hne : ¬(name == exitName) = true := by simpa using hexit
  rewrite [setup.statement_source run number hname, h]
  dsimp only
  rewrite [if_neg hne, assign, hfunction]
  rfl

end Setup

/-- The stop flag is given no value: any other text is read as a condition, as it stands. -/
theorem Setup.statement_exit {ω : Type} (setup : Setup ω) (run : Function → Exec (Session ω) Flow)
    (number : Nat) {e : Text} (h : Builtin.call? e = none) :
    setup.statement run ⟨number, Assignment.source exitName e⟩ = (do
      setup.assignExit ⟨number, Assignment.source exitName e⟩ (Text.trim e)
      return .ok ()) := by
  rw [setup.statement_source run number (by decide), h]
  rfl

end TapScript
