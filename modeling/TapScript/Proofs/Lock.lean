import Mathlib.Logic.Function.Basic

/-! # Tasks at one lock

Any number of tasks, each of them at a place in its code, wait for one lock. Some places can be come
to only with the lock, and the lock is given back on leaving them. `Locked` says that the lock and
the places agree; a task keeps that by moving on, by taking a free lock and by giving its lock back.
That no two tasks are at such places at a time is `Locked.unique`. -/

namespace TapScript

variable {π : Type}

/-- The task that has the lock is at a place that `holds` the lock, and no other task is. -/
def Locked (holds : π → Bool) (lock : Option Nat) (place : Nat → π) : Prop :=
  ∀ i, holds (place i) = true ↔ lock = some i

namespace Locked

variable {holds : π → Bool} {lock : Option Nat} {place : Nat → π} (h : Locked holds lock place)

include h

/-- Only one place at a time holds what the lock guards. -/
theorem unique {i j : Nat} (hi : holds (place i)) (hj : holds (place j)) : i = j := by
  have hlock := (h i).1 hi
  rw [(h j).1 hj] at hlock
  exact (Option.some.inj hlock).symm

variable {i : Nat} {x : π}

/-- A place that neither takes nor gives back anything leaves the lock as it is. -/
theorem move (hx : holds x = holds (place i)) : Locked holds lock (Function.update place i x) := by
  intro j
  by_cases hj : j = i
  · subst hj
    rw [Function.update_self, hx]
    exact h j
  · rw [Function.update_of_ne hj]
    exact h j

/-- A place that takes what is guarded finds the lock free and leaves it taken. -/
theorem take (hfree : lock = none) (hx : holds x) :
    Locked holds (some i) (Function.update place i x) := by
  intro j
  by_cases hj : j = i
  · subst hj
    rw [Function.update_self]
    exact iff_of_true hx rfl
  · have hnot : ¬holds (place j) = true := by
      rw [h j, hfree]
      exact nofun
    rw [Function.update_of_ne hj]
    exact iff_of_false hnot fun heq => hj (Option.some.inj heq).symm

/-- The place that gives back what it held frees the lock. -/
theorem giveBack (hi : holds (place i)) (hx : holds x = false) :
    Locked holds none (Function.update place i x) := by
  intro j
  by_cases hj : j = i
  · subst hj
    rw [Function.update_self, hx]
    exact iff_of_false nofun nofun
  · rw [Function.update_of_ne hj]
    exact iff_of_false (fun hother => hj (h.unique hother hi)) nofun

end Locked

end TapScript
