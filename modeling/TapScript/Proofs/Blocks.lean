import Mathlib.Data.List.Forall2
import TapScript.Proofs.Structured

/-! # The bounds of blocks

The end of a block is found by counting braces, whatever the lines are: braces that close nothing,
blocks that are never closed, headers without a brace. Wherever the count ends, it ends within the
lines and not before the header, so that what is cut out of the lines is a part of them and what is
left is shorter.

* `Block.le_finish` and `Block.finish_lt` are the bounds of the end of a block.
* `Block.body_isInfix` says that the body is a part of the lines behind the header;
  `Block.cut_isInfix` and `Block.cut_isSuffix` say the same of a block that is cut off.
* `Function.placed_definitions` says where the definitions among some lines stand, and
  `Function.exists_surveyed` that no header is left out. -/

namespace TapScript

namespace Block

/-- A block that is closed is closed at one of the lines. -/
theorem closedAt?_lt {opened : Int} {lines : List Line} {k : Nat}
    (h : closedAt? opened lines = some k) : k < lines.length := by
  induction lines generalizing opened k with
  | nil => cases h
  | cons line rest ih =>
    rw [closedAt?] at h
    split at h
    · cases h
      exact Nat.zero_lt_succ _
    · obtain ⟨j, hj, rfl⟩ := Option.map_eq_some_iff.1 h
      exact Nat.succ_lt_succ (ih hj)

section Finish

variable {lines : List Line} {i : Nat} (hi : i < lines.length)

include hi

/-- A block ends at its header or behind it. -/
theorem le_finish : i ≤ finish lines i := by
  unfold finish
  split
  · omega
  · split <;> omega

/-- A block ends at one of the lines. -/
theorem finish_lt : finish lines i < lines.length := by
  unfold finish
  split
  · omega
  · rename_i header rest hdrop
    have hlength := congrArg List.length hdrop
    rw [List.length_drop, List.length_cons] at hlength
    split
    · rename_i k hk
      have hlt := closedAt?_lt hk
      omega
    · omega

end Finish

/-- What is taken from the front of some lines and loses its own front is a part of what comes
behind that front. -/
theorem drop_take_isInfix (lines : List Line) (start last : Nat) :
    (lines.take last).drop start <:+: lines.drop start := by
  rw [List.drop_take]
  exact (List.take_prefix _ _).isInfix

/-- The body of a block is a part of the lines behind its header, wherever the block is taken to
end. -/
theorem body_isInfix (lines : List Line) (start last : Nat) :
    body lines start last <:+: lines.drop (start + 1) := by
  unfold body
  split
  · exact List.nil_infix
  · split
    · split <;> exact drop_take_isInfix _ _ _
    · exact List.infix_rfl

/-- The body that is cut off is a part of the lines behind the header. -/
theorem cut_isInfix (line : Line) (rest : List Line) : (cut (line :: rest)).1 <:+: rest :=
  body_isInfix (line :: rest) 0 _

/-- The lines behind a block are the last ones of those behind its header. -/
theorem cut_isSuffix (line : Line) (rest : List Line) : (cut (line :: rest)).2 <:+ rest := by
  show (line :: rest).drop (finish (line :: rest) 0 + 1) <:+ rest
  rw [List.drop_succ_cons]
  exact List.drop_suffix _ _

/-- A block ends at the same line if one more line stands in front. -/
theorem finish_cons (line : Line) {rest : List Line} {i : Nat} (hi : i < rest.length) :
    finish (line :: rest) (i + 1) = finish rest i + 1 := by
  unfold finish
  rw [List.drop_succ_cons]
  cases hdrop : rest.drop i with
  | nil =>
    have hle := List.drop_eq_nil_iff.1 hdrop
    omega
  | cons header behind =>
    dsimp only
    cases closedAt? (delta header.text) behind with
    | some k =>
      show i + 1 + 1 + k = i + 1 + k + 1
      omega
    | none =>
      show (line :: rest).length - 1 = rest.length - 1 + 1
      rw [List.length_cons]
      omega

/-- A line in front moves a body by one place. -/
theorem body_cons (line : Line) (rest : List Line) (i last : Nat) :
    body (line :: rest) (i + 1) (last + 1) = body rest i last := by
  simp only [body, Nat.add_le_add_iff_right, List.getElem?_cons_succ, List.take_succ_cons,
    List.drop_succ_cons]

end Block

namespace Function

/-- The definition has its header at the place, and its body is the body of the block there. -/
def DefinedAt (lines : List Line) (i : Nat) (d : Nat × Function) : Prop :=
  ∃ line, lines[i]? = some line ∧ line.number = d.1 ∧ header? line.text =
    some (d.2.name, d.2.params) ∧ d.2.body = Block.body lines i (Block.finish lines i)

/-- A definition stands one place further on if one more line stands in front. -/
theorem DefinedAt.cons {lines : List Line} {i : Nat} {d : Nat × Function} (h : DefinedAt lines i d)
    (line : Line) : DefinedAt (line :: lines) (i + 1) d := by
  obtain ⟨header, hat, hnumber, hheader, hbody⟩ := h
  obtain ⟨hi, -⟩ := List.getElem?_eq_some_iff.1 hat
  refine ⟨header, hat, hnumber, hheader, ?_⟩
  rw [hbody, Block.finish_cons line hi, Block.body_cons]

/-- The definitions stand at places of lines from the `first` on, and each stands behind the block
of the one before it. -/
def Placed (lines : List Line) (first : Nat) (ds : List (Nat × Function)) : Prop :=
  ∃ places : List Nat, (∀ i ∈ places, first ≤ i ∧ i < lines.length) ∧
    places.Pairwise (fun i j => Block.finish lines i < j) ∧ List.Forall₂ (DefinedAt lines) places ds

/-- A definition's header stands at the place. -/
def HeaderAt (lines : List Line) (i : Nat) : Prop :=
  ∃ line, lines[i]? = some line ∧ (header? line.text).isSome

/-- The definitions stand at the places, as `Placed` says, and no header from the `first` line on is
left out: it stands at one of the places or in the block of one. -/
structure Surveyed (lines : List Line) (first : Nat) (places : List Nat)
    (ds : List (Nat × Function)) : Prop where
  bounds : ∀ i ∈ places, first ≤ i ∧ i < lines.length
  ordered : places.Pairwise fun i j => Block.finish lines i < j
  defined : List.Forall₂ (DefinedAt lines) places ds
  complete : ∀ i, first ≤ i → HeaderAt lines i → i ∈ places ∨ ∃ a ∈ places, a < i ∧
    i ≤ Block.finish lines a

namespace Surveyed

variable {line : Line} {rest : List Line} {first : Nat} {places : List Nat}
  {ds : List (Nat × Function)}

/-- With one more line in front, the definitions stand one place further on. -/
theorem cons (h : Surveyed rest first places ds) (line : Line) :
    Surveyed (line :: rest) (first + 1) (places.map (· + 1)) ds where
  bounds := by
    intro i hi
    obtain ⟨j, hj, rfl⟩ := List.mem_map.1 hi
    obtain ⟨hfirst, hlength⟩ := h.bounds j hj
    exact ⟨Nat.succ_le_succ hfirst, Nat.succ_lt_succ hlength⟩
  ordered := by
    refine List.pairwise_map.2 (h.ordered.imp_of_mem fun {i j} hi _ hij => ?_)
    rw [Block.finish_cons line (h.bounds i hi).2]
    omega
  defined := List.forall₂_map_left_iff.2 (h.defined.imp fun i d hd => hd.cons line)
  complete := by
    intro i hi hheader
    obtain ⟨i, rfl⟩ : ∃ j, i = j + 1 := ⟨i - 1, by omega⟩
    rcases h.complete i (Nat.le_of_succ_le_succ hi) hheader with hmem | ⟨a, ha, hlt, hle⟩
    · exact .inl (List.mem_map_of_mem hmem)
    · refine .inr ⟨a + 1, List.mem_map_of_mem ha, Nat.succ_lt_succ hlt, ?_⟩
      rw [Block.finish_cons line (h.bounds a ha).2]
      omega

/-- A first line that is no header changes nothing about the others. -/
theorem plain (h : Surveyed (line :: rest) 1 places ds) (hline : header? line.text = none) :
    Surveyed (line :: rest) 0 places ds where
  bounds i hi := ⟨Nat.zero_le i, (h.bounds i hi).2⟩
  ordered := h.ordered
  defined := h.defined
  complete := by
    intro i _ hheader
    cases i with
    | zero =>
      obtain ⟨_, heq, hsome⟩ := hheader
      cases heq
      rw [hline] at hsome
      cases hsome
    | succ i => exact h.complete (i + 1) (Nat.succ_le_succ (Nat.zero_le i)) hheader

/-- A definition at the first line stands in front of those behind its block. -/
theorem header {d : Nat × Function} (hd : DefinedAt (line :: rest) 0 d)
    (h : Surveyed (line :: rest) (Block.finish (line :: rest) 0 + 1) places ds) :
    Surveyed (line :: rest) 0 (0 :: places) (d :: ds) where
  bounds := by
    intro i hi
    rcases List.mem_cons.1 hi with rfl | hi
    · exact ⟨Nat.le_refl 0, Nat.zero_lt_succ _⟩
    · exact ⟨Nat.zero_le i, (h.bounds i hi).2⟩
  ordered := List.pairwise_cons.2 ⟨fun i hi => (h.bounds i hi).1, h.ordered⟩
  defined := .cons hd h.defined
  complete := by
    intro i _ hheader
    -- the header itself, a line of its block, or a line behind it
    rcases Nat.eq_zero_or_pos i with rfl | hpos
    · exact .inl List.mem_cons_self
    · by_cases hle : i ≤ Block.finish (line :: rest) 0
      · exact .inr ⟨0, List.mem_cons_self, hpos, hle⟩
      · rcases h.complete i (Nat.lt_of_not_le hle) hheader with hmem | ⟨a, ha, hinside⟩
        · exact .inl (List.mem_cons_of_mem _ hmem)
        · exact .inr ⟨a, List.mem_cons_of_mem _ ha, hinside⟩

end Surveyed

/-- The definitions that are found stand at places that leave no header out. -/
theorem exists_surveyed (skip : Nat) (lines : List Line) :
    ∃ places, Surveyed lines skip places (definitions skip lines) := by
  induction lines generalizing skip with
  | nil =>
    rw [definitions]
    refine ⟨[], fun i hi => absurd hi List.not_mem_nil, .nil, .nil, ?_⟩
    rintro i - ⟨line, hline, -⟩
    cases hline
  | cons line rest ih =>
    cases skip with
    | succ skip =>
      obtain ⟨places, h⟩ := ih skip
      exact ⟨_, h.cons line⟩
    | zero =>
      rw [definitions]
      cases hheader : header? line.text with
      | none =>
        obtain ⟨places, h⟩ := ih 0
        exact ⟨_, (h.cons line).plain hheader⟩
      | some signature =>
        obtain ⟨places, h⟩ := ih (Block.finish (line :: rest) 0)
        exact ⟨_, .header ⟨line, rfl, rfl, hheader, rfl⟩ (h.cons line)⟩

/-- The definitions that are found stand in lines, one behind the other's block. -/
theorem placed_definitions (skip : Nat) (lines : List Line) :
    Placed lines skip (definitions skip lines) := by
  obtain ⟨places, h⟩ := exists_surveyed skip lines
  exact ⟨places, h.bounds, h.ordered, h.defined⟩

/-- Each definition has a place. -/
theorem exists_of_mem_definitions {lines : List Line} {d : Nat × Function}
    (h : d ∈ definitions 0 lines) : ∃ i, DefinedAt lines i d := by
  obtain ⟨places, -, -, hdefined⟩ := placed_definitions 0 lines
  generalize definitions 0 lines = ds at h hdefined
  induction hdefined with
  | nil => cases h
  | cons hd _ ih =>
    rcases List.mem_cons.1 h with rfl | h
    · exact ⟨_, hd⟩
    · exact ih h

end Function

/-- The body of a function of the script is a part of its lines. -/
theorem Registry.body_isInfix {lines : List Line} {f : Function}
    (h : f ∈ (Registry.ofLines lines).1.functions) : f.body <:+: lines := by
  rcases Registry.mem_addAll h with hmem | ⟨n, hmem⟩
  · cases hmem
  · obtain ⟨i, line, -, -, -, hbody⟩ := Function.exists_of_mem_definitions hmem
    have hpart := Block.body_isInfix lines i (Block.finish lines i)
    rw [← hbody] at hpart
    exact hpart.trans (List.drop_suffix _ _).isInfix

end TapScript
