import TapScript.Proofs.QuoteScanners

/-! # Filling in variables

A text that is no expression is kept, with the variables that it mentions filled in. The text falls
apart into maximal runs of letters, digits and underscores outside literals, and single characters
between them. How it falls apart does not depend on the variables: each run that names a variable is
replaced by the variable's text, everything else stays where it is, and what has been filled in is
not looked at again.

* `Environment.fillFrom_append_of_border` fills in a text part by part, where no run reaches over
  the border.
* `Text.IsRun` says what a maximal run is; `Text.Piece.IsDissection` lines up the pieces of a text,
  and `Text.Piece.exists_dissection` takes every text apart.
* `Text.Piece.IsDissection.exists_eq_append` finds each maximal run among the pieces.
* `fill_replaces_runs` says what filling in does to all of them. -/

namespace TapScript

open Text (Quoting)

/-! ## Borders -/

/-- The scan stands in literals at the border of the two texts, or no run of letters, digits and
underscores reaches from the one into the other. -/
def Text.Quoting.IsBorder (q : Quoting) (s t : Text) : Prop :=
  (q.behind s).isCode →
    (∀ c ∈ s.getLast?, isNameChar c = false) ∨ ∀ c ∈ t.head?, isNameChar c = false

namespace Environment

variable (env : Environment)

/-- What is left pending behind a text is a run in code at its end. -/
theorem filled_snd (q : Quoting) (word : Text) {s : Text} (hs : s ≠ []) :
    (env.filled q word s).2 = [] ∨ (q.behind s).isCode ∧ ∃ c ∈ s.getLast?, Text.isNameChar c := by
  induction s generalizing q word with
  | nil => exact absurd rfl hs
  | cons c s ih =>
    rw [filled, Quoting.behind_cons]
    cases hname : q.isCode && Text.isNameChar c with
    | true =>
      rw [if_pos rfl, step_eq_self_of_isNameChar hname]
      cases s with
      | nil =>
        rw [Bool.and_eq_true] at hname
        exact .inr ⟨hname.1, c, rfl, hname.2⟩
      | cons d s => exact ih q (c :: word) (List.cons_ne_nil d s)
    | false =>
      rw [if_neg Bool.false_ne_true]
      cases s with
      | nil => exact .inl rfl
      | cons d s => exact ih (q.step c) [] (List.cons_ne_nil d s)

/-- A run that ends in front of a text is filled in before it. -/
theorem fillFrom_of_head? {q : Quoting} {t : Text}
    (h : ∀ c ∈ t.head?, (q.isCode && Text.isNameChar c) = false) (word : Text) :
    env.fillFrom q word t = env.fillFrom q word [] ++ env.fillFrom q [] t := by
  cases t with
  | nil => exact (List.append_nil _).symm
  | cons c t =>
    rw [fillFrom, fillFrom, fillFrom, h c rfl]
    rfl

/-- Where no run reaches over the border, two texts are filled in one behind the other. -/
theorem fillFrom_append_of_border {q : Quoting} {s t : Text} (h : q.IsBorder s t) :
    env.fillFrom q [] (s ++ t) = env.fillFrom q [] s ++ env.fillFrom (q.behind s) [] t := by
  by_cases hs : s = []
  · subst hs
    rfl
  · have hfront := env.fillFrom_append q [] s []
    rw [List.append_nil] at hfront
    rw [env.fillFrom_append, hfront, List.append_assoc]
    congr 1
    rcases env.filled_snd q [] hs with hnil | ⟨hcode, d, hd, hname⟩
    · rw [hnil]
      rfl
    · -- a run is pending, so the next text does not go on with it
      refine env.fillFrom_of_head? (fun c hc => ?_) _
      rcases h hcode with hleft | hright
      · rw [hleft d hd] at hname
        cases hname
      · rw [hright c hc, Bool.and_false]

/-- The characters of a run are gathered before anything is filled in. -/
theorem fillFrom_run {w : Text} (hw : ∀ c ∈ w, Text.isNameChar c) (word : Text) :
    env.fillFrom .code word w = env.fillFrom .code (w.reverse ++ word) [] := by
  induction w generalizing word with
  | nil => rfl
  | cons c w ih =>
    have hc : (Quoting.code.isCode && Text.isNameChar c) = true := hw c (by simp)
    have hstep : env.fillFrom .code word (c :: w) = env.fillFrom .code (c :: word) w := by
      rw [fillFrom, if_pos hc]
    rw [hstep, ih (fun d hd => hw d (by simp [hd])), List.reverse_cons, List.append_assoc,
      List.singleton_append]

end Environment

namespace Text

/-! ## Runs and pieces -/

/-- Between `u` and `v`, the text `w` is a maximal run of letters, digits and underscores outside
literals. -/
structure IsRun (u w v : Text) : Prop where
  closed : isClosed u
  nonempty : w ≠ []
  named : ∀ c ∈ w, isNameChar c
  left : ∀ c ∈ u.getLast?, isNameChar c = false
  right : ∀ c ∈ v.head?, isNameChar c = false

/-- A piece of a text: a run, or a character that belongs to none. -/
inductive Piece where
  | run (w : Text)
  | char (c : Char)
deriving DecidableEq, Repr

namespace Piece

/-- The piece as it stands in the text. -/
def text : Piece → Text
  | run w => w
  | char c => [c]

/-- What becomes of the piece: a run that names a variable is replaced by the variable's text. -/
def filled (f : Frame) : Piece → Text
  | run w => (f.get? w).elim w Value.toText
  | char c => [c]

/-- The piece has its place behind the one text and in front of the other. A character that stands
alone is no letter, digit or underscore outside literals. -/
def Fits (s t : Text) : Piece → Prop
  | run w => IsRun s w t
  | char c => (isClosed s && isNameChar c) = false

/-- Behind a text, each of the pieces has its place. -/
def IsDissection : Text → List Piece → Prop
  | _, [] => True
  | s, p :: ps => p.Fits s (ps.flatMap text) ∧ IsDissection (s ++ p.text) ps

/-- A character that does not continue a run leaves none behind it. -/
theorem isNameChar_eq_false {s : Text} {c : Char} (h : (isClosed s && isNameChar c) = false)
    (hclosed : isClosed (s ++ [c])) : isNameChar c = false := by
  cases hname : isNameChar c with
  | false => rfl
  | true =>
    -- a letter, digit or underscore does not close a literal
    rw [isClosed, Quoting.behind_append] at hclosed
    have hproper := Quoting.IsProper.behind (q := .code) trivial s
    have hcode := Quoting.isCode_of_isCode_step hproper (Query.isQuote_eq_false_of_isNameChar hname)
      hclosed
    rw [isClosed, hcode, hname] at h
    cases h

/-- No run reaches over the end of a piece that has its place. -/
theorem Fits.isBorder {s t : Text} {p : Piece} (h : p.Fits s t) :
    (Quoting.code.behind s).IsBorder p.text t := by
  intro hcode
  cases p with
  | run w => exact .inr h.right
  | char c =>
    refine .inl fun d hd => ?_
    cases hd
    rw [← Quoting.behind_append] at hcode
    exact isNameChar_eq_false h hcode

/-- A piece in its place is filled in by itself. -/
theorem Fits.fillFrom_text {s t : Text} {p : Piece} (h : p.Fits s t) (env : Environment) :
    env.fillFrom (Quoting.code.behind s) [] p.text = p.filled env.frame := by
  cases p with
  | run w =>
    have hne : ¬w.reverse.isEmpty := by simpa using h.nonempty
    rw [behind_eq_code h.closed, text, env.fillFrom_run h.named, List.append_nil,
      Environment.fillFrom, if_neg hne, List.reverse_reverse, Environment.fillWord, filled]
    cases env.frame.get? w <;> rfl
  | char c =>
    have hc : ((Quoting.code.behind s).isCode && isNameChar c) = false := h
    rw [text, Environment.fillFrom, hc]
    rfl

/-- The pieces of a dissection are filled in one by one. -/
theorem IsDissection.fillFrom_eq {s : Text} {ps : List Piece} (h : IsDissection s ps)
    (env : Environment) :
    env.fillFrom (Quoting.code.behind s) [] (ps.flatMap text) = ps.flatMap (filled env.frame) := by
  induction ps generalizing s with
  | nil => rfl
  | cons p ps ih =>
    rw [List.flatMap_cons, List.flatMap_cons, env.fillFrom_append_of_border h.1.isBorder,
      h.1.fillFrom_text, ← Quoting.behind_append, ih h.2]

/-- Every text can be taken apart behind another one, if no run reaches over the border. -/
theorem exists_dissection (s t : Text) (h : Quoting.code.IsBorder s t) :
    ∃ ps, ps.flatMap text = t ∧ IsDissection s ps := by
  -- a run is taken off as a whole, so the induction is on the length
  induction hlength : t.length using Nat.strongRecOn generalizing s t with
  | ind length ih =>
    cases t with
    | nil => exact ⟨[], rfl, trivial⟩
    | cons c t =>
      cases hname : isClosed s && isNameChar c with
      | true =>
        rw [Bool.and_eq_true] at hname
        obtain ⟨w, v, rfl, hw, hv⟩ := exists_run isNameChar t
        have hleft : ∀ d ∈ s.getLast?, isNameChar d = false :=
          (h hname.1).resolve_right fun hright => by simp [hname.2] at hright
        obtain ⟨ps, rfl, hps⟩ := ih v.length (by simp at hlength; omega) (s ++ c :: w) v
          (fun _ => .inr hv) rfl
        have hrun : IsRun s (c :: w) (ps.flatMap text) :=
          ⟨hname.1, List.cons_ne_nil c w, List.forall_mem_cons.2 ⟨hname.2, hw⟩, hleft, hv⟩
        exact ⟨.run (c :: w) :: ps, rfl, hrun, hps⟩
      | false =>
        have hborder : Quoting.code.IsBorder (s ++ [c]) t := by
          refine fun hcode => .inl fun d hd => ?_
          rw [List.getLast?_concat] at hd
          cases hd
          exact isNameChar_eq_false hname hcode
        obtain ⟨ps, rfl, hps⟩ := ih t.length (by simp at hlength; omega) (s ++ [c]) t hborder rfl
        exact ⟨.char c :: ps, rfl, hname, hps⟩

/-! ## The runs of a text -/

/-- Each piece of a dissection has its place between those before and behind it. -/
theorem IsDissection.fits {s : Text} {front : List Piece} {p : Piece} {back : List Piece}
    (h : IsDissection s (front ++ p :: back)) :
    p.Fits (s ++ front.flatMap text) (back.flatMap text) := by
  induction front generalizing s with
  | nil =>
    rw [List.flatMap_nil, List.append_nil]
    exact h.1
  | cons p' front ih =>
    have hfits := ih h.2
    rwa [List.append_assoc, ← List.flatMap_cons] at hfits

end Piece

/-- Two runs that begin together end together. -/
theorem IsRun.eq_of_append_eq {u w w' v v' : Text} (h : IsRun u w v) (h' : IsRun u w' v')
    (heq : w ++ v = w' ++ v') : w = w' ∧ v = v' := by
  have hw : w = w' := by rw [← takeWhile_run h.named h.right, heq, takeWhile_run h'.named h'.right]
  subst hw
  exact ⟨rfl, List.append_cancel_left heq⟩

namespace Piece

/-- A run stands behind a piece, or it is the piece. -/
theorem Fits.append_eq {s t : Text} {p : Piece} (h : p.Fits s t) {u w v : Text}
    (hrun : IsRun (s ++ u) w v) (htext : p.text ++ t = u ++ (w ++ v)) :
    (∃ u', u = p.text ++ u' ∧ t = u' ++ (w ++ v)) ∨ u = [] ∧ p = .run w ∧ t = v := by
  cases p with
  | run y =>
    have h : IsRun s y t := h
    rcases List.append_eq_append_iff.1 htext with hbehind | ⟨x, hy, hrest⟩
    · exact .inl hbehind
    · have hy : y = u ++ x := hy
      by_cases hnil : u = []
      · subst hnil
        rw [List.append_nil] at hrun
        obtain ⟨rfl, rfl⟩ := h.eq_of_append_eq hrun htext
        exact .inr ⟨rfl, rfl, rfl⟩
      · -- in front of a run within `y` there is a letter, digit or underscore of `y`
        have hlast : u.getLast hnil ∈ (s ++ u).getLast? := by
          rw [List.getLast?_append, List.getLast?_eq_some_getLast hnil]
          rfl
        have hname := h.named (u.getLast hnil) (by rw [hy]; simp)
        rw [hrun.left _ hlast] at hname
        cases hname
  | char c =>
    cases u with
    | nil =>
      rw [List.append_nil] at hrun
      cases w with
      | nil => exact absurd rfl hrun.nonempty
      | cons d w =>
        have hfits : (isClosed s && isNameChar c) = false := h
        have hcd : c = d := (List.cons.inj htext).1
        rw [hrun.closed, hcd, hrun.named d List.mem_cons_self] at hfits
        cases hfits
    | cons d u =>
      obtain ⟨rfl, rfl⟩ := List.cons.inj htext
      exact .inl ⟨u, rfl, rfl⟩

/-- Each maximal run is one of the pieces. -/
theorem IsDissection.exists_eq_append {s : Text} {ps : List Piece} (h : IsDissection s ps)
    {u w v : Text} (htext : ps.flatMap text = u ++ (w ++ v)) (hrun : IsRun (s ++ u) w v) :
    ∃ front back, ps = front ++ .run w :: back ∧ front.flatMap text = u ∧
      back.flatMap text = v := by
  induction ps generalizing s u with
  | nil =>
    rw [List.flatMap_nil, eq_comm, List.append_eq_nil_iff, List.append_eq_nil_iff] at htext
    exact absurd htext.2.1 hrun.nonempty
  | cons p ps ih =>
    rcases h.1.append_eq hrun htext with ⟨u, rfl, hrest⟩ | ⟨rfl, rfl, hrest⟩
    · rw [← List.append_assoc] at hrun
      obtain ⟨front, back, rfl, rfl, rfl⟩ := ih h.2 hrest hrun
      exact ⟨p :: front, back, rfl, rfl, rfl⟩
    · exact ⟨[], ps, rfl, rfl, hrest⟩

end Piece

/-- What stands in front of a run, the run, and what stands behind it are filled in each on its
own. -/
theorem IsRun.fill_append {u w v : Text} (h : IsRun u w v) (env : Environment) :
    env.fill (u ++ (w ++ v)) = env.fill u ++ ((Piece.run w).filled env.frame ++ env.fill v) := by
  have hfits : (Piece.run w).Fits u v := h
  have hleft : Quoting.code.IsBorder u (w ++ v) := fun _ => .inl h.left
  have hclosed : isClosed w :=
    (marks_of_forall_not_isQuote fun c hc => Query.isQuote_eq_false_of_isNameChar (h.named c hc)).1
  have hright := env.fillFrom_append_of_border hfits.isBorder
  rw [hfits.fillFrom_text, behind_eq_code h.closed, Piece.text, behind_eq_code hclosed] at hright
  rw [Environment.fill, env.fillFrom_append_of_border hleft, behind_eq_code h.closed, hright]
  rfl

end Text

/-- **Filling in replaces the runs that name variables, and nothing else.** A text falls apart into
pieces, in one way for all variables: its maximal runs of letters, digits and underscores outside
literals, each at its place, and the characters between them. Filling in replaces each run that
names a variable by the variable's text and keeps every other piece. So what is filled in for a run
stands, as it is, between what is made of the texts in front of the run and behind it, and variables
whose names are no runs of the text do not matter. -/
theorem fill_replaces_runs (t : Text) :
    (∃ pieces : List Text.Piece, pieces.flatMap Text.Piece.text = t ∧
      (∀ u w v, t = u ++ (w ++ v) ∧ Text.IsRun u w v ↔ ∃ front back,
        pieces = front ++ .run w :: back ∧ front.flatMap Text.Piece.text = u ∧
        back.flatMap Text.Piece.text = v) ∧
      ∀ env : Environment, env.fill t = pieces.flatMap (Text.Piece.filled env.frame)) ∧
    (∀ (env : Environment) (u w v : Text), t = u ++ (w ++ v) → Text.IsRun u w v →
      env.fill t = env.fill u ++ ((Text.Piece.run w).filled env.frame ++ env.fill v)) ∧
    ∀ env env' : Environment, (∀ u w v, t = u ++ (w ++ v) → Text.IsRun u w v →
      (Text.Piece.run w).filled env.frame = (Text.Piece.run w).filled env'.frame) →
        env.fill t = env'.fill t := by
  -- the pieces do not depend on the variables, so one dissection serves all of them
  obtain ⟨pieces, rfl, hpieces⟩ := Text.Piece.exists_dissection [] t fun _ => .inl nofun
  have hruns : ∀ front w back, pieces = front ++ .run w :: back →
      pieces.flatMap Text.Piece.text =
          front.flatMap Text.Piece.text ++ (w ++ back.flatMap Text.Piece.text) ∧
        Text.IsRun (front.flatMap Text.Piece.text) w (back.flatMap Text.Piece.text) := by
    rintro front w back rfl
    exact ⟨by rw [List.flatMap_append, List.flatMap_cons, Text.Piece.text], hpieces.fits⟩
  have hfill : ∀ env : Environment, env.fill (pieces.flatMap Text.Piece.text) =
      pieces.flatMap (Text.Piece.filled env.frame) := hpieces.fillFrom_eq
  refine ⟨⟨pieces, rfl, fun u w v => ⟨fun h => hpieces.exists_eq_append h.1 h.2, ?_⟩, hfill⟩, ?_,
    ?_⟩
  · rintro ⟨front, back, hsplit, rfl, rfl⟩
    exact hruns front w back hsplit
  · intro env u w v htext hrun
    rw [htext, hrun.fill_append]
  · intro env env' hsame
    have hmap : pieces.map (Text.Piece.filled env.frame) =
        pieces.map (Text.Piece.filled env'.frame) := by
      refine List.map_congr_left fun p hp => ?_
      cases p with
      | char c => rfl
      | run w =>
        obtain ⟨front, back, hsplit⟩ := List.append_of_mem hp
        exact hsame _ w _ (hruns front w back hsplit).1 (hruns front w back hsplit).2
    rw [hfill, hfill, List.flatMap_def, List.flatMap_def, hmap]

/-- Each of two variables holds the name of the other, and both names are parts of a longer word and
stand in a literal. -/
theorem fill_replaces_runs_swapped :
    Text.IsRun "xy ".toList ['x'] "+y 'x'".toList ∧
    Environment.fill ⟨⟨[(['x'], .text ['y']), (['y'], .text ['x'])]⟩, false⟩ "xy x+y 'x'".toList =
      "xy y+x 'x'".toList := by
  have hrun : Text.IsRun "xy ".toList ['x'] "+y 'x'".toList :=
    ⟨rfl, List.cons_ne_nil _ _, List.forall_mem_singleton.2
      rfl, by rintro c ⟨⟩; rfl, by rintro c ⟨⟩; rfl⟩
  refine ⟨hrun, ((fill_replaces_runs "xy x+y 'x'".toList).2.1 _ _ _ _ ?_ hrun).trans ?_⟩
  · rfl
  · decide +kernel

end TapScript
