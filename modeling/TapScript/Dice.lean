/-!
# Dice

The source of the random numbers that a run draws. What is drawn is decided outside: `Draws` is any
sequence of picks that keep to their bounds, and a `Dice` stands at one place of it.

* `Dice.roll` draws a number between two bounds, both included.
-/

namespace TapScript

/-- The draws to come: what is picked between two bounds at each turn, and which turn is next. -/
structure Draws where
  pick : (turn : Nat) → (lo hi : Int) → Int
  /-- A pick keeps to its bounds. -/
  pick_mem : ∀ turn lo hi, lo ≤ hi → lo ≤ pick turn lo hi ∧ pick turn lo hi ≤ hi
  turn : Nat := 0

namespace Draws

/-- Always the lower bound. -/
def lowest : Draws where
  pick _ lo _ := lo
  pick_mem _ lo _ h := ⟨Int.le_refl lo, h⟩

instance : OfNat Draws 0 := ⟨lowest⟩

/-- The draws behind the next one. -/
def rest (d : Draws) : Draws := { d with turn := d.turn + 1 }

end Draws

/-- The state of the random source. -/
structure Dice where
  draws : Draws

namespace Dice

/-- A number between the two bounds, given in any order, and the dice for the next draw. -/
def roll (a b : Int) (d : Dice) : Int × Dice :=
  (d.draws.pick d.draws.turn (min a b) (max a b), ⟨d.draws.rest⟩)

/-- A draw lies between its bounds. -/
theorem roll_mem (a b : Int) (d : Dice) : min a b ≤ (roll a b d).1 ∧ (roll a b d).1 ≤ max a b :=
  d.draws.pick_mem _ _ _ (by omega)

/-- A draw between equal bounds is that number. -/
@[simp] theorem roll_self (a : Int) (d : Dice) : (roll a a d).1 = a := by
  have := roll_mem a a d
  omega

end Dice

end TapScript
