import Mathlib.Algebra.Ring.Int.Defs
import TapScript.Proofs.Blocks

/-! # Matching braces

The end of a block is the first line behind its header at which the running count of braces is down
again. Where every line opens one block, closes one or does neither, this is the line that closes
the header in the sense of nesting, however deep blocks nest and wherever the count is started; a
block that nothing closes reaches to the last line.

* `Block.Nested` are lines in which all blocks are closed, and `Block.Matches` says which line
  closes which.
* `Block.level` counts the blocks that are open in front of a line. A match is a walk that stays
  above its first level (`Block.Matches.above`), and `Block.finish_eq_of_level` finds the end of a
  block by levels.
* `Block.Pads` says that lines were added that neither open nor close a block.
* `Block.finish_follows_nesting` puts all of this together. -/

namespace TapScript

namespace Block

/-! ## Nesting -/

/-- Lines in which every block that is opened is closed again, and nothing else is closed. -/
inductive Nested : List Line → Prop
  | nil : Nested []
  | plain {line : Line} {rest : List Line} (hline : delta line.text = 0) (hrest : Nested rest) :
      Nested (line :: rest)
  | block {header last : Line} {inner rest : List Line} (hheader : delta header.text = 1)
      (hinner : Nested inner) (hlast : delta last.text = -1) (hrest : Nested rest) :
      Nested (header :: (inner ++ last :: rest))

/-- The line at `j` closes the block that the line at `i` opens. -/
inductive Matches : List Line → Nat → Nat → Prop
  | intro {header last : Line} {inner : List Line} (before after : List Line)
      (hheader : delta header.text = 1) (hinner : Nested inner) (hlast : delta last.text = -1) :
      Matches (before ++ header :: (inner ++ last :: after)) before.length
        (before.length + 1 + inner.length)

/-! ## Levels -/

/-- How many more blocks are opened than closed by the first `k` lines. -/
def level (lines : List Line) (k : Nat) : Int :=
  ((lines.take k).map fun line => delta line.text).sum

/-- Before the first line nothing is open. -/
@[simp] theorem level_zero (lines : List Line) : level lines 0 = 0 := rfl

/-- A line in front shifts all levels behind it by what it opens. -/
@[simp] theorem level_cons (line : Line) (rest : List Line) (k : Nat) :
    level (line :: rest) (k + 1) = delta line.text + level rest k := rfl

/-- Behind the first of two parts, levels are counted from where it ends. -/
theorem level_append (s t : List Line) (k : Nat) :
    level (s ++ t) k = level s k + level t (k - s.length) := by
  simp only [level, List.take_append, List.map_append, List.sum_append]

/-- Behind the last line the level does not change. -/
theorem level_of_length_le {lines : List Line} {k : Nat} (h : lines.length ≤ k) :
    level lines k = level lines lines.length := by
  simp only [level, List.take_of_length_le h, List.take_length]

/-- A line changes the level by what it opens or closes. -/
theorem level_succ {lines : List Line} {k : Nat} {line : Line} (h : lines[k]? = some line) :
    level lines (k + 1) = level lines k + delta line.text := by
  simp only [level, List.take_add_one, h, Option.toList_some, List.map_append, List.sum_append,
    List.map_cons, List.map_nil, List.sum_singleton]

/-- Behind the first `n` lines, levels are counted from the one that is reached there. -/
theorem level_add (lines : List Line) (n k : Nat) :
    level lines (n + k) = level lines n + level (lines.drop n) k := by
  simp only [level, List.take_add, List.map_append, List.sum_append]

/-- Lines behind a place do not matter to the level there. -/
theorem level_take {lines : List Line} {k m : Nat} (h : k ≤ m) :
    level (lines.take m) k = level lines k := by
  simp only [level, List.take_take, Nat.min_eq_left h]

/-- Blocks that are all closed leave no block open. -/
theorem Nested.level_eq_zero {lines : List Line} (h : Nested lines) :
    level lines lines.length = 0 := by
  induction h with
  | nil => rfl
  | plain hline _ ih => rw [List.length_cons, level_cons, hline, ih, Int.add_zero]
  | @block header last inner rest hheader _ hlast _ ihinner ihrest =>
    have hinner : level inner (inner ++ last :: rest).length = 0 := by
      rw [level_of_length_le (by simp), ihinner]
    have hleft : (inner ++ last :: rest).length - inner.length = rest.length + 1 := by simp
    rw [List.length_cons, level_cons, level_append, hleft, level_cons, hheader, hinner,
      hlast, ihrest]
    rfl

/-- Where all blocks are closed, none is closed that was not opened before. -/
theorem Nested.level_nonneg {lines : List Line} (h : Nested lines) (k : Nat) :
    0 ≤ level lines k := by
  induction h generalizing k with
  | nil => simp [level]
  | plain hline _ ih =>
    cases k with
    | zero => exact Int.le_refl 0
    | succ k =>
      have hrest := ih k
      rw [level_cons, hline]
      omega
  | @block header last inner rest hheader hinner hlast _ ihinner ihrest =>
    cases k with
    | zero => exact Int.le_refl 0
    | succ k =>
      rw [level_cons, level_append, hheader]
      by_cases hk : k ≤ inner.length
      · -- inside the block, which adds one to the level
        have hlevel := ihinner k
        rw [Nat.sub_eq_zero_of_le hk, level_zero]
        omega
      · -- behind the block
        obtain ⟨m, hm⟩ : ∃ m, k - inner.length = m + 1 := ⟨k - inner.length - 1, by omega⟩
        have hlevel := ihrest m
        rw [level_of_length_le (Nat.le_of_not_le hk), hinner.level_eq_zero, hm, level_cons, hlast]
        omega

/-- From a header on, the level stays above the one in front of the header up to the line that
closes the block, which brings it back. -/
theorem Matches.above {lines : List Line} {i j : Nat} (h : Matches lines i j) :
    i < j ∧ j < lines.length ∧ level lines (j + 1) = level lines i ∧
      ∀ k, i < k → k ≤ j → level lines i < level lines k := by
  obtain @⟨header, last, inner, before, after, hheader, hinner, hlast⟩ := h
  -- the level inside the block and at its end, counted from the header on
  have hinside : ∀ m, level (before ++ header :: (inner ++ last :: after)) (before.length + 1 + m) =
      level before before.length +
        (1 + (level inner m + level (last :: after) (m - inner.length))) := by
    intro m
    have hm : before.length + 1 + m - before.length = m + 1 := by omega
    rw [level_append, level_of_length_le (by omega), hm, level_cons, level_append, hheader]
  have hfront : level (before ++ header :: (inner ++ last :: after)) before.length =
      level before before.length := by
    rw [level_append, Nat.sub_self, level_zero, Int.add_zero]
  refine ⟨by omega, by simp; omega, ?_, fun k hik hkj => ?_⟩
  · have hend : level inner (inner.length + 1) = 0 := by
      rw [level_of_length_le (Nat.le_succ _), hinner.level_eq_zero]
    have hback : level (last :: after) (inner.length + 1 - inner.length) = -1 := by
      rw [Nat.add_sub_cancel_left, level_cons, hlast, level_zero]
      rfl
    rw [Nat.add_assoc (before.length + 1), hinside, hfront, hend, hback]
    omega
  · obtain ⟨m, rfl⟩ : ∃ m, k = before.length + 1 + m := ⟨k - (before.length + 1), by omega⟩
    have hzero : m - inner.length = 0 := by omega
    have hlevel := hinner.level_nonneg m
    rw [hinside, hfront, hzero, level_zero]
    omega

/-- A block that is opened inside another one is closed before it. -/
theorem Matches.inside {lines : List Line} {a b i j : Nat} (hab : Matches lines a b)
    (hij : Matches lines i j) (hai : a < i) (hib : i < b) : j < b := by
  obtain ⟨-, -, hback, habove⟩ := hab.above
  obtain ⟨-, -, -, hinner⟩ := hij.above
  have hi := habove i hai (Nat.le_of_lt hib)
  by_contra hbj
  rcases Nat.lt_or_eq_of_le (Nat.le_of_not_lt hbj) with hlt | rfl
  · -- the outer block would end above the level of the inner one
    have hb := hinner (b + 1) (by omega) hlt
    omega
  · obtain ⟨-, -, hsame, -⟩ := hij.above
    omega

/-- A block ends with a line that closes one. -/
theorem Matches.last {lines : List Line} {i j : Nat} (h : Matches lines i j) :
    ∃ line, lines[j]? = some line ∧ delta line.text = -1 := by
  obtain @⟨header, last, inner, before, after, -, -, hlast⟩ := h
  refine ⟨last, ?_, hlast⟩
  rw [Nat.add_assoc, List.getElem?_append_right (Nat.le_add_right _ _), Nat.add_sub_cancel_left,
    Nat.add_comm 1, List.getElem?_cons_succ, List.getElem?_append_right (Nat.le_refl _),
    Nat.sub_self, List.getElem?_cons_zero]

/-! ## The running count -/

/-- The count is down at the first line behind which the level is. -/
theorem closedAt?_eq_some_iff {opened : Int} {lines : List Line} {k : Nat} :
    closedAt? opened lines = some k ↔
      k < lines.length ∧ opened + level lines (k + 1) ≤ 0 ∧ ∀ m < k,
        0 < opened + level lines (m + 1) := by
  induction lines generalizing opened k with
  | nil => simp [closedAt?]
  | cons line rest ih =>
    simp only [closedAt?, level_cons, List.length_cons, ← Int.add_assoc]
    -- the count is down at this line, or else not before the rest
    by_cases hnow : opened + delta line.text ≤ 0
    · rw [if_pos hnow, Option.some.injEq]
      constructor
      · rintro rfl
        exact ⟨Nat.zero_lt_succ _, by simpa using hnow, fun m hm => absurd hm (Nat.not_lt_zero m)⟩
      · rintro ⟨-, -, hup⟩
        by_contra hk
        have hfirst := hup 0 (by omega)
        rw [level_zero] at hfirst
        omega
    · rw [if_neg hnow, Option.map_eq_some_iff]
      constructor
      · rintro ⟨k, hclosed, rfl⟩
        obtain ⟨hlength, hdown, hup⟩ := ih.1 hclosed
        refine ⟨Nat.succ_lt_succ hlength, hdown, fun m hm => ?_⟩
        cases m with
        | zero =>
          rw [level_zero]
          omega
        | succ m => exact hup m (Nat.lt_of_succ_lt_succ hm)
      · rintro ⟨hlength, hdown, hup⟩
        cases k with
        | zero =>
          rw [level_zero] at hdown
          omega
        | succ k =>
          exact ⟨k, ih.2 ⟨Nat.lt_of_succ_lt_succ hlength, hdown,
            fun m hm => hup (m + 1) (Nat.succ_lt_succ hm)⟩, rfl⟩

/-- A block ends at the first line behind its header that brings the level down to the one in front
of the header. -/
theorem finish_eq_of_level {lines : List Line} {i j : Nat} (hij : i < j) (hj : j < lines.length)
    (hdown : level lines (j + 1) ≤ level lines i)
    (hup : ∀ k, i < k → k < j → level lines i < level lines (k + 1)) :
    finish lines i = j := by
  have hdrop : lines.drop i = lines[i] :: lines.drop (i + 1) := List.drop_eq_getElem_cons (by omega)
  have hlevel : ∀ k, level lines (i + 1 + k) = level lines i + delta lines[i].text + level
      (lines.drop (i + 1)) k := by
    intro k
    rw [level_add, level_succ (List.getElem?_eq_getElem (by omega))]
  have hclosed : closedAt? (delta lines[i].text) (lines.drop (i + 1)) = some (j - (i + 1)) := by
    refine closedAt?_eq_some_iff.2 ⟨?_, ?_, fun m hm => ?_⟩
    · rw [List.length_drop]
      omega
    · have hlast := hlevel (j - (i + 1) + 1)
      rw [show i + 1 + (j - (i + 1) + 1) = j + 1 by omega] at hlast
      omega
    · have hinner := hlevel (m + 1)
      have habove := hup (i + 1 + m) (by omega) (by omega)
      rw [← Nat.add_assoc] at hinner
      omega
  simp only [finish, hdrop, hclosed]
  omega

/-- The line that matches a header is where its block is found to end. -/
theorem Matches.finish_eq {lines : List Line} {i j : Nat} (h : Matches lines i j) :
    finish lines i = j := by
  obtain ⟨hij, hj, hback, habove⟩ := h.above
  exact finish_eq_of_level hij hj (Int.le_of_eq hback) fun k hik hkj =>
    habove (k + 1) (by omega) hkj

/-- Lines that open one block, close one or do neither. -/
def IsSimple (lines : List Line) : Prop :=
  ∀ line ∈ lines, delta line.text = 1 ∨ delta line.text = -1 ∨ delta line.text = 0

instance (lines : List Line) : Decidable (IsSimple lines) :=
  inferInstanceAs (Decidable (∀ line ∈ lines, _))

/-- Where the count of some open blocks comes down, the innermost of them is closed by a line behind
nested ones, and behind that line the count of the others comes down. -/
theorem exists_nested_of_closedAt? {n : Nat} {lines : List Line} (hlines : IsSimple lines)
    (h : (closedAt? (n + 1) lines).isSome) :
    ∃ inner last after, lines = inner ++ last :: after ∧ Nested inner ∧ delta last.text = -1 ∧
      (0 < n → (closedAt? n after).isSome) := by
  match lines with
  | [] => cases h
  | line :: rest =>
    have hrest : IsSimple rest := fun other hother => hlines other (List.mem_cons_of_mem _ hother)
    rw [closedAt?] at h
    rcases hlines line List.mem_cons_self with hopens | hcloses | hplain
    · -- the line's own block is closed first, and what is left of the lines is shorter
      rw [hopens, if_neg (by omega), Option.isSome_map] at h
      obtain ⟨inner, last, after, rfl, hinner, hlast, hafter⟩ :=
        exists_nested_of_closedAt? (n := n + 1) hrest h
      have hbehind : IsSimple after := fun other hother => hrest other (by simp [hother])
      obtain ⟨inner', last', after', rfl, hinner', hlast', hafter'⟩ :=
        exists_nested_of_closedAt? (n := n) hbehind (hafter n.succ_pos)
      exact ⟨line :: (inner ++ last :: inner'), last', after', by simp,
        .block hopens hinner hlast hinner', hlast', hafter'⟩
    · refine ⟨[], line, rest, rfl, .nil, hcloses, fun hn => ?_⟩
      rw [hcloses, if_neg (by omega), Option.isSome_map, show (n : Int) + 1 + -1 = n by omega] at h
      exact h
    · rw [hplain, Int.add_zero, if_neg (by omega), Option.isSome_map] at h
      obtain ⟨inner, last, after, rfl, hinner, hrest⟩ := exists_nested_of_closedAt? hrest h
      exact ⟨line :: inner, last, after, rfl, .plain hplain hinner, hrest⟩
termination_by lines.length

/-- A block whose header matches no line ends with the last line. -/
theorem finish_of_not_matches {lines : List Line} (hlines : IsSimple lines) {i : Nat}
    {header : Line} (hi : lines[i]? = some header) (hheader : delta header.text = 1)
    (h : ¬∃ j, Matches lines i j) : finish lines i = lines.length - 1 := by
  obtain ⟨hlength, rfl⟩ := List.getElem?_eq_some_iff.1 hi
  have hdrop : lines.drop i = lines[i] :: lines.drop (i + 1) := List.drop_eq_getElem_cons hlength
  cases hclosed : closedAt? (delta lines[i].text) (lines.drop (i + 1)) with
  | none => simp only [finish, hdrop, hclosed]
  | some k =>
    -- the count comes down only at a line that matches
    refine absurd ?_ h
    have hsome : (closedAt? ((0 : Nat) + 1) (lines.drop (i + 1))).isSome := by
      rw [hheader] at hclosed
      simp [hclosed]
    obtain ⟨inner, last, after, hafter, hinner, hlast, -⟩ :=
      exists_nested_of_closedAt? (fun line hline => hlines line (List.mem_of_mem_drop hline)) hsome
    have hsplit : lines = lines.take i ++ lines[i] :: (inner ++ last :: after) := by
      rw [← hafter, ← hdrop, List.take_append_drop]
    have hmatches := Matches.intro (lines.take i) after hheader hinner hlast
    rw [← hsplit, List.length_take, Nat.min_eq_left (Nat.le_of_lt hlength)] at hmatches
    exact ⟨_, hmatches⟩

/-! ## Added lines and parts of the lines -/

/-- The lines stand at the places among the `padded` ones, in their order, and what was added
neither opens nor closes a block. -/
structure Pads (place : Nat → Nat) (lines padded : List Line) : Prop where
  ascending : ∀ i j, i < j → j < lines.length → place i < place j
  kept : ∀ i, i < lines.length → padded[place i]? = lines[i]?
  added : ∀ k line, padded[k]? = some line → (∀ i, i < lines.length → place i ≠ k) →
    delta line.text = 0

namespace Pads

variable {place : Nat → Nat} {lines padded : List Line} (h : Pads place lines padded)

include h

/-- A line of the original is among the padded ones. -/
theorem place_lt {i : Nat} (hi : i < lines.length) : place i < padded.length := by
  have hkept := h.kept i hi
  rw [List.getElem?_eq_getElem hi] at hkept
  exact (List.getElem?_eq_some_iff.1 hkept).1

/-- The level in front of any padded line is the level of the lines that stand before it. The
induction is on the number of padded lines. -/
theorem exists_level_eq {p : Nat} (hp : p ≤ padded.length) :
    ∃ k, level padded p = level lines k ∧ ∀ m, m < lines.length → (place m < p ↔ m < k) := by
  induction p with
  | zero => exact ⟨0, rfl, fun m _ => by simp⟩
  | succ p ih =>
    obtain ⟨k, hlevel, hbefore⟩ := ih (Nat.le_of_succ_le hp)
    have hline : padded[p]? = some padded[p] := List.getElem?_eq_getElem hp
    by_cases hplace : ∃ m, m < lines.length ∧ place m = p
    · obtain ⟨m, hm, rfl⟩ := hplace
      -- the line that stands here is the next one
      obtain rfl : m = k := by
        have hnot := hbefore m hm
        rcases Nat.lt_trichotomy m k with hlt | heq | hgt
        · exact absurd (hnot.2 hlt) (Nat.lt_irrefl _)
        · exact heq
        · have hk := (hbefore k (Nat.lt_trans hgt hm)).1 (h.ascending k m hgt hm)
          exact absurd hk (Nat.lt_irrefl k)
      refine ⟨m + 1, ?_, fun i hi => ?_⟩
      · rw [level_succ hline, level_succ ((h.kept m hm).symm.trans hline), hlevel]
      · rcases Nat.lt_trichotomy i m with hlt | rfl | hgt
        · have := h.ascending i m hlt hm
          omega
        · omega
        · have := h.ascending m i hgt hi
          omega
    · have hzero := h.added p _ hline fun i hi heq => hplace ⟨i, hi, heq⟩
      refine ⟨k, by rw [level_succ hline, hzero, hlevel, Int.add_zero], fun m hm => ?_⟩
      have hne : place m ≠ p := fun heq => hplace ⟨m, hm, heq⟩
      have hm' := hbefore m hm
      omega

/-- Added lines do not change the level of a line. -/
theorem level_place {i : Nat} (hi : i < lines.length) : level padded (place i) = level lines i := by
  obtain ⟨k, hlevel, hbefore⟩ := h.exists_level_eq (Nat.le_of_lt (h.place_lt hi))
  have hself := hbefore i hi
  -- neither the line itself nor one behind it stands before the place
  obtain rfl : k = i := by
    by_contra hne
    have hlt : k < i := by omega
    have hk := hbefore k (Nat.lt_trans hlt hi)
    have hplace := h.ascending k i hlt hi
    omega
  exact hlevel

/-- A block ends at the line that closes it also among more lines, if those neither open nor close a
block. -/
theorem finish_place {i j : Nat} (hij : Matches lines i j) : finish padded (place i) = place j := by
  obtain ⟨hlt, hj, hback, habove⟩ := hij.above
  have hi : i < lines.length := Nat.lt_trans hlt hj
  refine finish_eq_of_level (h.ascending i j hlt hj) (h.place_lt hj) ?_ fun p hip hpj => ?_
  · obtain ⟨line, hline⟩ : ∃ line, lines[j]? = some line := ⟨_, List.getElem?_eq_getElem hj⟩
    have hdown : level padded (place j + 1) = level padded (place i) := by
      rw [level_succ ((h.kept j hj).trans hline), h.level_place hj,
        h.level_place hi, ← level_succ hline, hback]
    exact Int.le_of_eq hdown
  · -- before the place of the last line the level is one that the lines have inside the block
    have hp := h.place_lt hj
    obtain ⟨k, hlevel, hbefore⟩ := h.exists_level_eq (p := p + 1) (by omega)
    have hfirst := hbefore i hi
    have hlast := hbefore j hj
    rw [hlevel, h.level_place hi]
    exact habove k (by omega) (by omega)

end Pads

/-- The body of a block is the part of the lines between its header and its end, with the last line
or without. -/
theorem exists_body_eq {lines : List Line} {a b : Nat} (hab : a < b) (hb : b < lines.length) :
    ∃ e, b ≤ e ∧ body lines a b = (lines.take e).drop (a + 1) := by
  rw [body, if_neg (by omega), List.getElem?_eq_getElem hb]
  dsimp only
  split
  · exact ⟨b, Nat.le_refl b, rfl⟩
  · exact ⟨b + 1, Nat.le_succ b, rfl⟩

/-- Inside the body of another block, a block ends at the same line. -/
theorem Matches.finish_body {lines : List Line} {a b i j : Nat} (hab : Matches lines a b)
    (hij : Matches lines i j) (hai : a < i) (hib : i < b) :
    (body lines a b)[i - (a + 1)]? = lines[i]? ∧ (body lines a b)[j - (a + 1)]? = lines[j]? ∧
      finish (body lines a b) (i - (a + 1)) = j - (a + 1) := by
  have hjb := hab.inside hij hai hib
  obtain ⟨hlt, hb, -, -⟩ := hab.above
  obtain ⟨hilj, hj, hback, habove⟩ := hij.above
  obtain ⟨e, hbe, hbody⟩ := exists_body_eq hlt hb
  -- inside the body, lines and levels are those of all lines, counted from its start
  have hget : ∀ k, a < k → k < b → (body lines a b)[k - (a + 1)]? = lines[k]? := by
    intro k hak hkb
    rw [hbody, List.getElem?_drop, List.getElem?_take, if_pos (by omega),
      show a + 1 + (k - (a + 1)) = k by omega]
  have hlevel : ∀ k, a < k → k ≤ b →
      level lines k = level lines (a + 1) + level (body lines a b) (k - (a + 1)) := by
    intro k hak hkb
    have hadd := level_add (lines.take e) (a + 1) (k - (a + 1))
    rw [show a + 1 + (k - (a + 1)) = k by omega, level_take (by omega),
      level_take (by omega), ← hbody] at hadd
    exact hadd
  refine ⟨hget i hai hib, hget j (by omega) hjb, finish_eq_of_level (by omega) ?_ ?_
    fun k hik hkj => ?_⟩
  · have hlast := hget j (by omega) hjb
    rw [List.getElem?_eq_getElem hj] at hlast
    exact (List.getElem?_eq_some_iff.1 hlast).1
  · have hi := hlevel i hai (Nat.le_of_lt hib)
    have hj' := hlevel (j + 1) (by omega) hjb
    rw [show j + 1 - (a + 1) = j - (a + 1) + 1 by omega] at hj'
    omega
  · have hi := hlevel i hai (Nat.le_of_lt hib)
    have hk := hlevel (a + 1 + k + 1) (by omega) (by omega)
    rw [show a + 1 + k + 1 - (a + 1) = k + 1 by omega] at hk
    have hinner := habove (a + 1 + k + 1) (by omega) (by omega)
    omega

/-- **Blocks end where nesting says.** Among lines that open one block, close one or do neither, the
block of a header ends at the line that matches the header. It still does so when lines that neither
open nor close a block are added, anywhere and any number of them, and when the block is looked for
among the lines of the body of a block around it. If no line matches the header, the block ends with
the last line. -/
theorem finish_follows_nesting {lines : List Line} (hlines : IsSimple lines) {i : Nat}
    {header : Line} (hi : lines[i]? = some header) (hheader : delta header.text = 1) :
    (∀ j, Matches lines i j →
      finish lines i = j ∧
      (∀ place padded, Pads place lines padded → finish padded (place i) = place j) ∧
      ∀ a b, Matches lines a b → a < i → i < b →
        let inside := body lines a (finish lines a)
        j < b ∧ inside[i - (a + 1)]? = lines[i]? ∧ inside[j - (a + 1)]? = lines[j]? ∧
          finish inside (i - (a + 1)) = j - (a + 1)) ∧
    ((¬∃ j, Matches lines i j) → finish lines i = lines.length - 1) := by
  refine ⟨fun j hij => ⟨hij.finish_eq, fun place padded hpads => hpads.finish_place hij, ?_⟩,
    finish_of_not_matches hlines hi hheader⟩
  intro a b hab hai hib inside
  have hinside : inside = body lines a b := by rw [← hab.finish_eq]
  rw [hinside]
  exact ⟨hab.inside hij hai hib, hab.finish_body hij hai hib⟩

/-- A block inside a loop, with braces in literals around it, and behind the loop a block that is
never closed. The closing brace in the literal of a line that is added changes nothing. -/
theorem finish_follows_nesting_literals :
    let lines : List Line :=
      [⟨1, "while (true) \x7b".toList⟩, ⟨2, "log(\"\x7b\")".toList⟩, ⟨3, "if (x) \x7b".toList⟩,
      ⟨4, "\x7d".toList⟩, ⟨5, "\x7d".toList⟩, ⟨6, "if (y) \x7b".toList⟩, ⟨7, "back()".toList⟩]
    let padded : List Line := lines.take 3 ++ ⟨0, "toast(\"\x7d\")".toList⟩ :: lines.drop 3
    IsSimple lines ∧ Matches lines 0 4 ∧ Matches lines 2 3 ∧ finish lines 2 = 3 ∧
      Pads (fun i => if i < 3 then i else i + 1) lines padded ∧ finish padded 2 = 4 ∧
      finish (body lines 0 (finish lines 0)) 1 = 2 ∧ (¬∃ j, Matches lines 5 j) ∧
        finish lines 5 = 6 := by
  intro lines padded
  have hsimple : IsSimple lines := by decide
  have hloop : Matches lines 0 4 :=
    .intro [] (lines.drop 5) rfl (.plain rfl (@Nested.block _ _ [] [] rfl .nil rfl .nil)) rfl
  have hblock : Matches lines 2 3 :=
    @Matches.intro _ _ [] (lines.take 2) (lines.drop 4) rfl .nil rfl
  have hpads : Pads (fun i => if i < 3 then i else i + 1) lines padded := by
    refine ⟨fun i j hij _ => ?_, fun i hi => ?_, fun k line hk hnew => ?_⟩
    · split <;> split <;> omega
    · have hi' : i < 7 := hi
      match i with
      | 0 | 1 | 2 | 3 | 4 | 5 | 6 => rfl
    · have hk' : k < 8 := (List.getElem?_eq_some_iff.1 hk).1
      -- only the line that was added has no place
      obtain rfl : k = 3 := by
        by_contra hne
        rcases Nat.lt_or_gt_of_ne hne with hlt | hgt
        · exact hnew k (show k < 7 by omega) (if_pos hlt)
        · refine hnew (k - 1) (show k - 1 < 7 by omega) ?_
          rw [if_neg (by omega)]
          omega
      cases hk
      rfl
  have hnone : ¬∃ j, Matches lines 5 j := by
    rintro ⟨j, hj⟩
    obtain rfl : 6 = j := hj.finish_eq
    obtain ⟨line, hline, hdelta⟩ := hj.last
    cases hline
    cases hdelta
  obtain ⟨hclosed, -⟩ := finish_follows_nesting hsimple (i := 2) rfl rfl
  obtain ⟨-, hopen⟩ := finish_follows_nesting hsimple (i := 5) rfl rfl
  obtain ⟨hfinish, hpadded, hinside⟩ := hclosed 3 hblock
  obtain ⟨-, -, -, hbody⟩ := hinside 0 4 hloop (by decide) (by decide)
  exact ⟨hsimple, hloop, hblock, hfinish, hpads, hpadded _ _ hpads, hbody, hnone, hopen hnone⟩

end Block

end TapScript
