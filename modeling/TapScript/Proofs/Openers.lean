import TapScript.Proofs.Accounts
import TapScript.Proofs.Blocks
import TapScript.Proofs.NormalForm

/-! # Lines that open blocks

Two parts of a run decide which lines open a block. The walk looks at the last character of a line,
and the end of a block is found by counting the braces outside literals. On the lines of a script
they agree, but for one case: a literal that is left open and has a `{` for its last character. Such
a line opens no block as far as braces are counted, and is a header to the walk, which takes the
line behind it for the line's block.

* `Block.delta_of_isNormal` counts the braces of the lines of a script.
* `Setup.PassesOn` says that the walk goes on right behind a line, `Setup.SkipsNext` that it leaves
  out one more.
* `Line.opener_tests_agree_iff` says when the two parts agree, and what the walk does if they do and
  if they do not. -/

namespace TapScript

/-! ## Counting braces -/

namespace Text

/-- A character that is no quote leaves literals as they are, unless it is a backslash. -/
theorem isClosed_of_isClosed_concat {u : Text} {c : Char} (hc : isQuote c = false)
    (h : isClosed (u ++ [c])) : isClosed u := by
  have hproper : Quoting.IsProper (Quoting.code.behind u) :=
    Quoting.IsProper.behind (q := .code) trivial u
  rw [isClosed, Quoting.behind_append] at h
  exact Quoting.isCode_of_isCode_step hproper hc h

/-- The text ends with a `{` that belongs to a literal, which is left open. -/
def EndsInLiteral (t : Text) : Prop := t.getLast? = some '{' ∧ isClosed t = false

instance (t : Text) : Decidable (EndsInLiteral t) := inferInstanceAs (Decidable (_ ∧ _))

/-- A brace at the end that belongs to no literal stands outside of them. -/
theorem isClosed_of_not_endsInLiteral {t : Text} (hlast : t.getLast? = some '{')
    (h : ¬EndsInLiteral t) : isClosed t := by
  by_contra hclosed
  exact h ⟨hlast, by simpa using hclosed⟩

end Text

namespace Block

/-- A text without braces outside its literals opens and closes nothing. -/
theorem delta_eq_zero {t : Text}
    (h : ∀ u c v, t = u ++ c :: v → Text.isClosed u → c ≠ '{' ∧ c ≠ '}') : delta t = 0 := by
  refine balance_eq_zero fun m hm => ?_
  obtain ⟨ms₁, ms₂, hmarks⟩ := List.append_of_mem hm
  cases hout : m.outside with
  | false => simp [Text.Mark.is, hout]
  | true =>
    obtain ⟨u, v, ht, hu, -, -⟩ := Text.marks_eq_append hmarks hout
    have hne := h u m.char v ht hu
    simp [Text.Mark.is, hne.1, hne.2]

/-- The lines of a script open one block, close one or do neither. -/
theorem delta_of_isNormal {t : Text} (h : Line.IsNormal t) :
    delta t =
      if t = Line.closer then -1
      else if t.getLast? = some '{' ∧ Text.isClosed t then 1 else 0 := by
  rcases h.eq_closer_or_isUncut with rfl | huncut
  · rfl
  · have hcloser : t ≠ Line.closer := by
      rintro rfl
      exact absurd (huncut [] '}' [] rfl rfl rfl).1 (by decide)
    have hcut : ∀ u c v, t = u ++ c :: v → Text.isClosed u → ¬(c ≠ '{' ∧ c ≠ '}') →
        c = '{' ∧ v = [] := by
      intro u c v ht hu hc
      refine huncut u c v ht hu ?_
      by_cases hopen : c = '{'
      · rw [hopen]
        rfl
      · rw [show c = '}' from Classical.byContradiction fun hclose => hc ⟨hopen, hclose⟩]
        rfl
    rw [if_neg hcloser]
    split
    · rename_i hopens
      obtain ⟨u, rfl⟩ := List.getLast?_eq_some_iff.1 hopens.1
      have hu := Text.isClosed_of_isClosed_concat rfl hopens.2
      -- the brace at the end is the only one
      have hzero : delta u = 0 := by
        refine delta_eq_zero fun a c b hab ha => ?_
        by_contra hc
        have hnil := (hcut a c (b ++ ['{']) (by rw [hab]; simp) ha hc).2
        simp at hnil
      rw [delta_append hu, hzero]
      rfl
    · rename_i hopens
      refine delta_eq_zero fun a c b hab ha => ?_
      by_contra hc
      obtain ⟨rfl, rfl⟩ := hcut a c b hab ha hc
      refine hopens ⟨by rw [hab, List.getLast?_concat], ?_⟩
      rw [hab, Text.isClosed_append_eq ha]
      rfl

section Normal

variable {t : Text} (h : Line.IsNormal t)

include h

/-- A text opens a block exactly if it ends with a brace outside literals. -/
theorem delta_eq_one_iff : delta t = 1 ↔ t.getLast? = some '{' ∧ Text.isClosed t := by
  rw [delta_of_isNormal h]
  split
  · rename_i hcloser
    rw [hcloser]
    decide
  · split <;> simp [*]

/-- A text closes a block exactly if it is a closing brace. -/
theorem delta_eq_neg_one_iff : delta t = -1 ↔ t = Line.closer := by
  rw [delta_of_isNormal h]
  split
  · simp [*]
  · split <;> simp [*]

/-- A brace at the end that belongs to a literal opens nothing. -/
theorem delta_of_endsInLiteral (hends : Text.EndsInLiteral t) : delta t = 0 := by
  have hcloser : t ≠ Line.closer := by
    rintro rfl
    cases hends.1
  rw [delta_of_isNormal h, if_neg hcloser, if_neg]
  rintro ⟨-, hclosed⟩
  rw [hends.2] at hclosed
  cases hclosed

end Normal

/-- If neither a line nor the next one opens a block, then the block of the first ends with the
next. -/
theorem cut_of_delta_eq_zero {line next : Line} (hline : delta line.text = 0)
    (hnext : delta next.text ≤ 0) (rest : List Line) : (cut (line :: next :: rest)).2 = rest := by
  have hclosed : closedAt? (delta line.text) (next :: rest) = some 0 := by
    rw [closedAt?, hline]
    exact if_pos (by omega)
  have hfinish : finish (line :: next :: rest) 0 = 1 := by
    simp only [finish, List.drop_zero, hclosed]
  rw [cut, hfinish]
  rfl

end Block

/-! ## What is a header to the walk -/

namespace Line

/-- Whether the walk takes the line for a header, and the lines behind it for its block. -/
def Kind.opens : Kind → Bool
  | .loop _ | .branch _ | .header => true
  | .leave | .closer | .quit | .statement => false

/-- A line is taken for a header exactly if it ends with a brace, in a literal or not. -/
theorem opens_kind_iff (t : Text) : (kind t).opens ↔ t.getLast? = some '{' := by
  by_cases hlast : t.getLast? = some '{'
  · simp only [hlast, iff_true]
    rw [kind]
    split
    · rfl
    · split
      · rfl
      · rw [if_pos (by simp [hlast])]
        rfl
  · simp only [hlast, iff_false]
    simp only [kind, condition?_eq_none _ hlast]
    rw [if_neg (by simp [hlast])]
    split
    · decide
    · split
      · decide
      · split <;> decide

end Line

namespace Setup

variable {ω : Type} (setup : Setup ω)

/-- The walk deals with the line alone. Unless it has ended then, it goes on with the lines behind
it. -/
def PassesOn (line : Line) : Prop :=
  ∀ fuel, ∃ alone : Exec (Session ω) (Option Flow), ∀ rest,
    setup.walk (fuel + 1) (line :: rest) = alone >>= fun ended =>
      ended.elim (setup.walk fuel rest) pure

/-- The walk deals with the line alone. Unless it has ended then, it goes on with the lines behind
the next one, if that one opens no block. -/
def SkipsNext (line : Line) : Prop :=
  ∀ fuel, ∃ alone : Exec (Session ω) (Option Flow), ∀ next rest, Block.delta next.text ≤ 0 →
    setup.walk (fuel + 1) (line :: next :: rest) = alone >>= fun ended =>
      ended.elim (setup.walk fuel rest) pure

/-- What becomes of the result of a statement. A mishap is reported, and the walk goes on. -/
def settle (line : Line) : Except Mishap Unit → Exec (Session ω) (Option Flow)
  | .error mishap => do
    Session.lift (Query.report setup.gateway line.number mishap)
    return none
  | .ok _ => return none

variable {setup}

/-- Looking at the stop flag and telling which line is taken up belong to what is done with the line
alone. -/
theorem takeUp_alone (line : Line) (x : Exec (Session ω) (Option Flow)) :
    ∃ alone : Exec (Session ω) (Option Flow), ∀ next : Exec (Session ω) Flow,
      (do if ← setup.stopRequested then return .normal
          setup.visit line
          x >>= fun ended => ended.elim next pure) =
        alone >>= fun ended => ended.elim next pure := by
  refine ⟨do if ← setup.stopRequested then return some .normal
             setup.visit line
             x, fun next => ?_⟩
  rw [bind_assoc]
  refine bind_congr fun stopped => ?_
  cases stopped with
  | true => rfl
  | false => exact (bind_assoc ..).symm

/-- A line that is no header is dealt with alone. -/
theorem passesOn_of_opens_eq_false {line : Line} (h : (Line.kind line.text).opens = false) :
    setup.PassesOn line := by
  intro fuel
  -- it is enough to gather what is done before the rest of the lines
  suffices hacts : ∃ x : Exec (Session ω) (Option Flow), ∀ rest,
      setup.walk (fuel + 1) (line :: rest) = (do
        if ← setup.stopRequested then return .normal
        setup.visit line
        x >>= fun ended => ended.elim (setup.walk fuel rest) pure) by
    obtain ⟨x, hx⟩ := hacts
    obtain ⟨alone, halone⟩ := takeUp_alone line x
    exact ⟨alone, fun rest => (hx rest).trans (halone _)⟩
  simp only [walk]
  cases hkind : Line.kind line.text with
  | loop | branch | header =>
    rw [hkind] at h
    cases h
  | leave => exact ⟨pure (some .broken), fun rest => rfl⟩
  | closer => exact ⟨pure none, fun rest => rfl⟩
  | quit =>
    refine ⟨do
      Session.note .debug "return stops the run" [("line", toString line.number)]
      Session.lift requestStop
      return some .normal, fun rest => ?_⟩
    simp only [bind_assoc]
    rfl
  | statement =>
    refine ⟨setup.statement (fun f => setup.walk fuel f.body) line >>= setup.settle line,
      fun rest => ?_⟩
    simp only [bind_assoc]
    refine bind_congr fun stopped => ?_
    split
    · rfl
    · refine bind_congr fun _ => bind_congr fun result => ?_
      cases result with
      | error mishap =>
        rewrite [settle, bind_assoc]
        rfl
      | ok _ => rfl

/-- A header of nothing that is known takes the next line with it, if braces are counted in
neither. -/
theorem skipsNext_of_header {line : Line} (hkind : Line.kind line.text = .header)
    (hdelta : Block.delta line.text = 0) : setup.SkipsNext line := by
  intro fuel
  obtain ⟨alone, halone⟩ := takeUp_alone line do
    if (Function.header? line.text).isNone then
      Session.lift (warn setup.gateway line.number
        ("Skipping unsupported block: " ++ String.ofList line.text))
    return none
  refine ⟨alone, fun next rest hnext => ?_⟩
  rw [← halone, walk, hkind]
  dsimp only
  rw [Block.cut_of_delta_eq_zero hdelta hnext]
  refine bind_congr fun stopped => ?_
  split
  · rfl
  · refine bind_congr fun _ => ?_
    split
    · rewrite [bind_assoc]
      rfl
    · rfl

end Setup

/-! ## The two tests -/

namespace Line

/-- On the lines of a script, ending with a `{` and opening one block are the same, unless the `{`
belongs to a literal that is left open; and a line closes one block if and only if it is a `}`. The
walk takes a line for a header if and only if it ends with a `{`. So behind a line that opens no
block it leaves out no line, unless the line ends in an open literal: then the line opens none, and
if it is no `while` or `if`, the walk leaves out the line behind it. -/
theorem opener_tests_agree_iff (source : Text) {line : Line} (hline : line ∈ ofSource source) :
    ((line.text.getLast? = some '{' ↔ Block.delta line.text = 1) ↔ ¬line.text.EndsInLiteral) ∧
    (line.text = closer ↔ Block.delta line.text = -1) ∧
    ((kind line.text).opens ↔ line.text.getLast? = some '{') ∧
    (Block.delta line.text ≠ 1 → ¬line.text.EndsInLiteral → ∀ {ω : Type} (setup : Setup ω),
      setup.PassesOn line) ∧
    (line.text.EndsInLiteral → Block.delta line.text = 0 ∧
      (kind line.text = .header → ∀ {ω : Type} (setup : Setup ω), setup.SkipsNext line)) := by
  have hnormal := isNormal_of_mem_texts (List.mem_map_of_mem hline)
  have hone := Block.delta_eq_one_iff hnormal
  have hzero : line.text.EndsInLiteral → Block.delta line.text = 0 :=
    Block.delta_of_endsInLiteral hnormal
  have hopens := opens_kind_iff line.text
  refine ⟨?_, (Block.delta_eq_neg_one_iff hnormal).symm, hopens, ?_, ?_⟩
  · constructor
    · intro hagree hends
      have h := hagree.1 hends.1
      rw [hzero hends] at h
      cases h
    · intro hends
      rw [hone]
      exact ⟨fun hlast => ⟨hlast, Text.isClosed_of_not_endsInLiteral hlast hends⟩, And.left⟩
  · intro hne hends ω setup
    refine Setup.passesOn_of_opens_eq_false ?_
    by_contra hheader
    rw [Bool.not_eq_false, hopens] at hheader
    -- a `{` at the end that is counted makes the count one
    exact hne (hone.2 ⟨hheader, Text.isClosed_of_not_endsInLiteral hheader hends⟩)
  · intro hends
    exact ⟨hzero hends, fun hkind ω setup => Setup.skipsNext_of_header hkind (hzero hends)⟩

/-- A call that leaves its literal open is no statement that is known, and yet the walk goes on
right behind it. -/
theorem opener_tests_agree_iff_leaf :
    let source := "log(\"a\nclick(1, 1)".toList
    let line : Line := ⟨1, "log(\"a".toList⟩
    line ∈ ofSource source ∧ Block.delta line.text ≠ 1 ∧ ¬line.text.EndsInLiteral ∧
      ∀ setup : Setup Device, setup.PassesOn line := by
  intro source line
  obtain ⟨hline, hdelta, hends⟩ : line ∈ ofSource source ∧ Block.delta line.text ≠ 1 ∧
    ¬line.text.EndsInLiteral := by
    decide +kernel
  obtain ⟨-, -, -, hpasses, -⟩ := opener_tests_agree_iff source hline
  exact ⟨hline, hdelta, hends, hpasses hdelta hends⟩

/-- With a brace in the open literal the line ends with a `{` and opens no block. The walk takes it
for a header and leaves out the click behind it. -/
theorem open_literal_hides_next :
    let source := "log(\"a\x7b\nclick(1, 1)".toList
    let line : Line := ⟨1, "log(\"a\x7b".toList⟩
    line ∈ ofSource source ∧ line.text.getLast? = some '{' ∧ Block.delta line.text = 0 ∧
      (Engine.execute Device.gateway.transcribed {} 20 (ofSource source)
        (Station.transcribed { state := {} })).books? =
        some (.completed, [.line "Line 1: Skipping unsupported block: log(\"a\x7b"]) := by
  decide +kernel

end Line

end TapScript
