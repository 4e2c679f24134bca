import TapScript.Gateway.Basic

/-!
# Executions

A computation over a state that ends in one of three ways: with a value, in a crash of foreign code,
or without an answer because it was allowed too few steps. Value and crash both keep the state that
was reached, since a run reports its variables however it ended.

* `Outcome` is how a computation ends, `Exec` the computations; they form a monad.
* `Exec.attempt` turns a crash into a value, `Exec.zoom` runs a computation on a part of the state.
-/

namespace TapScript

/-- How a computation over states `σ` ends. -/
inductive Outcome (σ α : Type) where
  | done (value : α) (state : σ)
  | crashed (crash : Crash) (state : σ)
  /-- It was allowed too few steps. -/
  | exhausted

/-- A computation over states `σ` with values `α`. -/
def Exec (σ α : Type) : Type := σ → Outcome σ α

namespace Exec

variable {σ τ α β : Type}

/-- The computation that does nothing. -/
@[inline] def ret (a : α) : Exec σ α := fun s => .done a s

/-- One computation behind another. -/
@[inline] def andThen (x : Exec σ α) (f : α → Exec σ β) : Exec σ β := fun s =>
  match x s with
  | .done a s => f a s
  | .crashed c s => .crashed c s
  | .exhausted => .exhausted

instance : Monad (Exec σ) where
  pure := ret
  bind := andThen

/-- The computation that was allowed no step. -/
def exhausted : Exec σ α := fun _ => .exhausted

/-- The current state. -/
@[inline] def get : Exec σ σ := fun s => .done s s

/-- Changing the state. -/
@[inline] def modify (f : σ → σ) : Exec σ Unit := fun s => .done () (f s)

/-- A value read off the state, which does not change. -/
@[inline] def gets (f : σ → α) : Exec σ α := fun s => .done (f s) s

/-- The computation with a crash turned into a value. -/
def attempt (x : Exec σ α) : Exec σ (Except Crash α) := fun s =>
  match x s with
  | .done a s => .done (.ok a) s
  | .crashed c s => .done (.error c) s
  | .exhausted => .exhausted

/-- A computation on the part of the state that `part` reads and `put` writes. -/
@[inline] def zoom (part : σ → τ) (put : τ → σ → σ) (x : Exec τ α) : Exec σ α := fun s =>
  match x (part s) with
  | .done a t => .done a (put t s)
  | .crashed c t => .crashed c (put t s)
  | .exhausted => .exhausted

/-- A computation that only returns leaves the state as it is. -/
@[simp] theorem pure_apply (a : α) (s : σ) : (pure a : Exec σ α) s = .done a s := rfl

/-- What follows is run on the state behind the first part, unless that part crashed or was cut off.
-/
theorem bind_apply (x : Exec σ α) (f : α → Exec σ β) (s : σ) :
    (x >>= f) s =
      match x s with
      | .done a s => f a s
      | .crashed c s => .crashed c s
      | .exhausted => .exhausted := rfl

/-- Behind a part that is done, the rest goes on with its value and its state. -/
theorem bind_done {x : Exec σ α} {f : α → Exec σ β} {s s' : σ} {a : α} (h : x s = .done a s') :
    (x >>= f) s = f a s' := by simp [bind_apply, h]

/-- A crash of the first part is a crash of the whole. -/
theorem bind_crashed {x : Exec σ α} {f : α → Exec σ β} {s s' : σ} {c : Crash}
    (h : x s = .crashed c s') : (x >>= f) s = .crashed c s' := by simp [bind_apply, h]

/-- If the first part is cut off, then so is the whole. -/
theorem bind_exhausted {x : Exec σ α} {f : α → Exec σ β} {s : σ} (h : x s = .exhausted) :
    (x >>= f) s = .exhausted := by simp [bind_apply, h]

/-- What is read of the state is handed on, and the state stays as it is. -/
theorem gets_bind (read : σ → α) (f : α → Exec σ β) (s : σ) :
    (gets read >>= f) s = f (read s) s := rfl

/-- What follows a change of the state runs on the changed state. -/
theorem modify_bind (change : σ → σ) (f : Unit → Exec σ β) (s : σ) :
    (modify change >>= f) s = f () (change s) := rfl

/-- Returning at the end changes nothing. -/
private theorem andThen_ret (x : Exec σ α) : andThen x ret = x := by
  funext s
  simp only [andThen, ret]
  cases x s <;> rfl

/-- It does not matter how a sequence of three parts is grouped. -/
private theorem andThen_assoc {γ : Type} (x : Exec σ α) (f : α → Exec σ β) (g : β → Exec σ γ) :
    andThen (andThen x f) g = andThen x fun a => andThen (f a) g := by
  funext s
  simp only [andThen]
  cases x s <;> rfl

instance : LawfulMonad (Exec σ) :=
  LawfulMonad.mk' _ andThen_ret (fun _ _ => rfl) andThen_assoc

end Exec

end TapScript
