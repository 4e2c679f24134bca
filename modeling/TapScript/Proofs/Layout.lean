import Mathlib.Logic.Relation
import TapScript.Proofs.Clauses

/-! # Layout of a source text

Where a script breaks its lines is a matter of taste, as long as the breaks stand at a brace or take
the place of a semicolon. Each such change moves clauses from one source line to another and leaves
their order and their texts alone, and the lines of a script are made from its clauses.

* `Line.Relaid` is one change of the layout.
* `Line.layout_keeps_texts` says that no number of such changes changes the texts of the script's
  lines. -/

namespace TapScript

namespace Line

/-- The source text with one more line break: in place of a `;`, behind a `{`, before or behind a
`}`, at a place that lies outside literals and comments. -/
inductive Relaid : Text → Text → Prop
  | semicolon {u : Text} (hu : InCode u) (v : Text) : Relaid (u ++ ';' :: v) (u ++ '\n' :: v)
  | behindOpening {u : Text} (hu : InCode u) (v : Text) :
      Relaid (u ++ '{' :: v) (u ++ '{' :: '\n' :: v)
  | beforeClosing {u : Text} (hu : InCode u) (v : Text) :
      Relaid (u ++ '}' :: v) (u ++ '\n' :: '}' :: v)
  | behindClosing {u : Text} (hu : InCode u) (v : Text) :
      Relaid (u ++ '}' :: v) (u ++ '}' :: '\n' :: v)

/-- A line break behind a cut separates what is separate anyway. -/
theorem sourceClauses_break {u : Text} (hu : InCode u) {c : Char} (hc : isCut c) (v : Text) :
    sourceClauses (u ++ c :: '\n' :: v) = sourceClauses (u ++ c :: v) := by
  rw [sourceClauses_behind hu hc v, ← sourceClauses_newline, List.append_assoc,
    List.singleton_append]

/-- A semicolon in front of a text adds no clause. -/
theorem sourceClauses_semicolon (v : Text) : sourceClauses (';' :: v) = sourceClauses v := by
  have hbehind := sourceClauses_behind (u := []) (by decide) (c := ';') rfl v
  exact hbehind

/-- One change of the layout keeps the clauses. -/
theorem Relaid.sourceClauses_eq {s t : Text} (h : Relaid s t) :
    sourceClauses s = sourceClauses t := by
  cases h with
  | semicolon hu v =>
    rw [sourceClauses_before hu rfl (by decide), sourceClauses_semicolon, sourceClauses_newline]
  | behindOpening hu v => exact (sourceClauses_break hu rfl v).symm
  | beforeClosing hu v => rw [sourceClauses_before hu rfl (by decide), sourceClauses_newline]
  | behindClosing hu v => exact (sourceClauses_break hu rfl v).symm

/-- A change of the layout, or any number of them one after the other, made or taken back, leaves
the sequence of the texts of a script's lines as it was. -/
theorem layout_keeps_texts {s t : Text} (h : Relation.EqvGen Relaid s t) :
    (ofSource s).map Line.text = (ofSource t).map Line.text := by
  have hclauses : sourceClauses s = sourceClauses t := by
    induction h with
    | rel s t hst => exact hst.sourceClauses_eq
    | refl s => rfl
    | symm s t _ ih => exact ih.symm
    | trans s t u _ _ ih₁ ih₂ => exact ih₁.trans ih₂
  rw [map_text_ofSource, map_text_ofSource, hclauses]

/-- A block on one line, with a brace in a literal and a semicolon in a comment, and the same block
on four lines. -/
theorem layout_keeps_texts_block :
    let compact := "f() \x7ba;'\x7d'\x7d//;".toList
    let spread := "f() \x7b\na\n'\x7d'\n\x7d//;".toList
    Relation.EqvGen Relaid compact spread ∧ (ofSource compact).map Line.text =
      (ofSource spread).map Line.text := by
  intro compact spread
  have hopening : Relaid compact "f() \x7b\na;'\x7d'\x7d//;".toList :=
    .behindOpening (u := "f() ".toList) (by decide +kernel) "a;'\x7d'\x7d//;".toList
  have hsemicolon : Relaid "f() \x7b\na;'\x7d'\x7d//;".toList "f() \x7b\na\n'\x7d'\x7d//;".toList :=
    .semicolon (u := "f() \x7b\na".toList) (by decide +kernel) "'\x7d'\x7d//;".toList
  have hclosing : Relaid "f() \x7b\na\n'\x7d'\x7d//;".toList spread :=
    .beforeClosing (u := "f() \x7b\na\n'\x7d'".toList) (by decide +kernel) "//;".toList
  have hspread : Relation.EqvGen Relaid compact spread :=
    .trans _ _ _ (.rel _ _ hopening) (.trans _ _ _ (.rel _ _ hsemicolon) (.rel _ _ hclosing))
  exact ⟨hspread, layout_keeps_texts hspread⟩

end Line

end TapScript
