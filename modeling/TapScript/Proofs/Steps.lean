import TapScript.Proofs.Conduct

/-! # Enough steps

Waits and walks are allowed a number of steps and end without an answer if they need more. What they
do does not depend on that number otherwise: with more steps, a computation that has ended ends in
the same way.

* `Exec.Prolongs` compares a computation with one that was allowed fewer steps;
  `Command.perform_prolongs` says that commands with more steps prolong commands with fewer.
* `Exec.Settles` says that a computation ends if it is allowed enough steps, and that it then ends
  always in the same way. It composes along `>>=`, so that a sequence settles if its parts do. -/

namespace TapScript

variable {σ α β : Type}

namespace Exec

/-! ## More steps -/

/-- The first computation ends as the second does, wherever that one does not run out of steps. -/
def Prolongs (y x : Exec σ α) : Prop := ∀ s, x s ≠ .exhausted → y s = x s

namespace Prolongs

/-- No more steps change nothing. -/
theorem refl (x : Exec σ α) : x.Prolongs x := fun _ _ => rfl

/-- Whatever is allowed more steps prolongs what was cut off at once. -/
theorem exhausted (y : Exec σ α) : y.Prolongs Exec.exhausted := fun _ h => absurd rfl h

/-- A sequence is prolonged by prolonging its parts. -/
theorem bind {x y : Exec σ α} {f f' : α → Exec σ β} (hx : y.Prolongs x)
    (hf : ∀ a, (f' a).Prolongs (f a)) : (y >>= f').Prolongs (x >>= f) := by
  intro s h
  rw [bind_apply] at h
  rw [bind_apply, bind_apply]
  by_cases hends : x s = .exhausted
  · rw [hends] at h
    exact absurd rfl h
  · rw [hx s hends]
    cases hxs : x s with
    | exhausted => exact absurd hxs hends
    | crashed c t => rfl
    | done a t =>
      rw [hxs] at h
      exact hf a t h

/-- The same first part. -/
theorem behind (x : Exec σ α) {f f' : α → Exec σ β} (hf : ∀ a, (f' a).Prolongs (f a)) :
    (x >>= f').Prolongs (x >>= f) :=
  (refl x).bind hf

/-- A choice is prolonged by prolonging its branches. -/
theorem ite {p : Prop} [Decidable p] {x x' y y' : Exec σ α} (h : y.Prolongs x)
    (h' : y'.Prolongs x') : (if p then y else y').Prolongs (if p then x else x') := by
  split
  · exact h
  · exact h'

end Prolongs

/-! ## No steps -/

/-- The computation needs no steps. -/
def Stepless (x : Exec σ α) : Prop := ∀ s, x s ≠ .exhausted

/-- Returning a value takes no steps. -/
theorem stepless_pure (a : α) : (pure a : Exec σ α).Stepless := nofun

/-- Reading the state takes no steps. -/
theorem stepless_gets (read : σ → α) : (gets read).Stepless := nofun

/-- Changing the state takes no steps. -/
theorem stepless_modify (change : σ → σ) : (modify change).Stepless := nofun

/-- A sequence of parts without steps takes none. -/
theorem Stepless.bind {x : Exec σ α} {f : α → Exec σ β} (hx : x.Stepless)
    (hf : ∀ a, (f a).Stepless) : (x >>= f).Stepless := by
  intro s
  rw [bind_apply]
  cases hxs : x s with
  | exhausted => exact absurd hxs (hx s)
  | crashed c t => exact nofun
  | done a t => exact hf a t

/-! ## Settling -/

/-- With enough steps, the computation ends, and always in the same way; and if it ends with a
value, then with `Q`. -/
def Settles (x : Nat → Exec σ α) (Q : α → σ → Prop) (s : σ) : Prop :=
  ∃ o N, (∀ n, N ≤ n → x n s = o) ∧ o.Meets Q (fun _ => True) False

namespace Settles

variable {x y : Nat → Exec σ α} {f : Nat → α → Exec σ β} {Q : α → σ → Prop}
  {R : β → σ → Prop} {s : σ}

/-- A value that is returned is settled at once. -/
theorem pure {a : α} (h : Q a s) : Settles (fun _ => Pure.pure a) Q s :=
  ⟨.done a s, 0, fun _ _ => rfl, h⟩

/-- A change of the state is settled at once. -/
theorem modify {change : σ → σ} {Q : Unit → σ → Prop} (h : Q () (change s)) :
    Settles (fun _ => Exec.modify change) Q s :=
  ⟨.done () (change s), 0, fun _ _ => rfl, h⟩

/-- What is read off the state is settled at once. -/
theorem gets {read : σ → α} (h : Q (read s) s) : Settles (fun _ => Exec.gets read) Q s :=
  ⟨.done (read s) s, 0, fun _ _ => rfl, h⟩

/-- A computation that needs no steps settles. -/
theorem of_stepless {x : Exec σ α} (hx : x.Stepless) (h : (x s).Meets Q fun _ => True) :
    Settles (fun _ => x) Q s := by
  refine ⟨x s, 0, fun _ _ => rfl, ?_⟩
  cases hxs : x s with
  | exhausted => exact absurd hxs (hx s)
  | crashed c t => trivial
  | done a t =>
    rw [hxs] at h
    exact h

/-- What settles ends in the same way with all numbers of steps that are large enough. -/
theorem ends (h : Settles x Q s) : ∃ o N, o ≠ .exhausted ∧ ∀ n, N ≤ n → x n s = o := by
  obtain ⟨o, N, ho, hmeets⟩ := h
  refine ⟨o, N, ?_, ho⟩
  rintro rfl
  exact hmeets

/-- What settles with one property settles with a weaker one. -/
theorem imp {Q' : α → σ → Prop} (h : Settles x Q s) (hQ : ∀ a t, Q a t → Q' a t) :
    Settles x Q' s := by
  obtain ⟨o, N, ho, hmeets⟩ := h
  exact ⟨o, N, ho, hmeets.imp hQ fun _ h => h⟩

/-- What is known of every value that the computation returns is known where it settles. -/
theorem returning {R : α → Prop} (h : Settles x Q s) (hR : ∀ n, (x n).Returns R) :
    Settles x (fun a t => R a ∧ Q a t) s := by
  obtain ⟨o, N, ho, hmeets⟩ := h
  have hreturns := hR N s
  rw [ho N (Nat.le_refl N)] at hreturns
  refine ⟨o, N, ho, ?_⟩
  cases o with
  | exhausted => exact hmeets
  | crashed c t => trivial
  | done a t => exact ⟨hreturns, hmeets⟩

/-- What a computation does with few steps does not matter. -/
theorem of_le (N : Nat) (hxy : ∀ n, N ≤ n → x n = y n) (h : Settles y Q s) : Settles x Q s := by
  obtain ⟨o, N', ho, hmeets⟩ := h
  refine ⟨o, max N N', fun n hn => ?_, hmeets⟩
  rw [hxy n (by omega)]
  exact ho n (by omega)

/-- Where all steps but `k` are left, one more can be made. -/
theorem step (F : Nat → Nat → Exec σ α) (k : Nat)
    (h : Settles (fun n => F n (n - (k + 1) + 1)) Q s) : Settles (fun n => F n (n - k)) Q s := by
  refine of_le (k + 1) (fun n hn => ?_) h
  rw [show n - k = n - (k + 1) + 1 by omega]

/-- A sequence settles if its first part does, and its second part from wherever that one ends. -/
theorem bind (h : Settles x Q s) (hf : ∀ a t, Q a t → Settles (f · a) R t) :
    Settles (fun n => x n >>= f n) R s := by
  obtain ⟨o, N, ho, hmeets⟩ := h
  cases o with
  | exhausted => exact hmeets.elim
  | crashed c t => exact ⟨.crashed c t, N, fun n hn => bind_crashed (ho n hn), trivial⟩
  | done a t =>
    obtain ⟨o', N', ho', hmeets'⟩ := hf a t hmeets
    refine ⟨o', max N N', fun n hn => ?_, hmeets'⟩
    have hdone : x n s = .done a t := ho n (by omega)
    exact (bind_done hdone).trans (ho' n (by omega))

/-- A choice settles if the branch that is taken does. -/
theorem ite {p : Prop} [Decidable p] (h : p → Settles x Q s) (h' : ¬p → Settles y Q s) :
    Settles (fun n => if p then x n else y n) Q s := by
  by_cases hp : p
  · exact of_le 0 (fun n _ => if_pos hp) (h hp)
  · exact of_le 0 (fun n _ => if_neg hp) (h' hp)

/-- What is made of a result settles with it. -/
theorem map {h : α → β} (hx : Settles x Q s) (hR : ∀ a t, Q a t → R (h a) t) :
    Settles (fun n => h <$> x n) R s := by
  have hbind : ∀ n, h <$> x n = x n >>= fun a => Pure.pure (h a) :=
    fun n => (bind_pure_comp h (x n)).symm
  exact of_le 0 (fun n _ => hbind n) (hx.bind fun a t ha => pure (hR a t ha))

/-- A computation settles if it is prolonged by more steps and ends with some number of them. -/
theorem of_prolongs (hx : ∀ m n, m ≤ n → (x n).Prolongs (x m)) (hends : ∃ n, x n s ≠ .exhausted) :
    Settles x (fun _ _ => True) s := by
  obtain ⟨N, hN⟩ := hends
  refine ⟨x N s, N, fun n hn => hx N n hn s hN, ?_⟩
  cases hxs : x N s with
  | exhausted => exact absurd hxs hN
  | crashed c t => trivial
  | done a t => trivial

/-- What happens at the station leaves the variables and loops alone. -/
theorem lift {ω : Type} {x : Nat → Exec (Station ω) α} {Q : α → Session ω → Prop} {s : Session ω}
    (h : Settles x (fun a st => Q a { s with station := st }) s.station) :
    Settles (fun n => Session.lift (x n)) Q s := by
  obtain ⟨o, N, ho, hmeets⟩ := h
  refine ⟨Session.lift (fun _ => o) s, N, fun n hn => ?_, Session.lift_meets hmeets⟩
  simp only [Session.lift, Exec.zoom, ho n hn]

end Settles

/-- What takes no steps settles. -/
theorem Stepless.settles {x : Exec σ α} (hx : x.Stepless) (s : σ) :
    Settles (fun _ => x) (fun _ _ => True) s :=
  .of_stepless hx (returns_true x s)

end Exec

/-! ## At the station -/

section Station

open Exec

variable {ω : Type} (g : Gateway ω)

/-- A request takes no steps. -/
theorem ask_stepless (r : Request) : (ask g r).Stepless := by
  intro st
  obtain ⟨reply, -, h⟩ | ⟨crash, -, h⟩ := ask_cases g r st <;> rw [h] <;> exact nofun

/-- A panic needs no steps. -/
theorem raise_stepless (message : String) : (raise g message : Exec (Station ω) α).Stepless :=
  (ask_stepless g _).bind fun never => never.elim

/-- A computation that may panic needs no steps. -/
theorem orPanic_stepless (x : Except String α) : (orPanic g x).Stepless := by
  cases x with
  | ok a => exact stepless_pure a
  | error message => exact raise_stepless g message

/-- Looking at the flag takes no steps. -/
theorem stopRequested_stepless : (stopRequested g).Stepless :=
  (ask_stepless g _).bind fun _ => stepless_gets _

/-- Writing to the log takes no steps. -/
theorem log_stepless (message : String) : (log g message).Stepless :=
  (stepless_modify _).bind fun _ => ask_stepless g _

/-- Complaining of a line takes no steps. -/
theorem complain_stepless (level : Level) (number : Nat) (message : String) :
    (complain g level number message).Stepless :=
  (stepless_modify _).bind fun _ => ask_stepless g _

/-- Reading the variables takes no steps. -/
theorem Query.reading_stepless (frame : Frame) (read : Environment → Dice → α × Dice) :
    (Query.reading g frame read).Stepless :=
  (stopRequested_stepless g).bind fun _ => nofun

/-- Reporting a mishap takes no steps. -/
theorem Query.report_stepless (line : Nat) (mishap : Mishap) :
    (Query.report g line mishap).Stepless := by
  unfold Query.report
  split <;> exact complain_stepless g _ _ _

end Station

/-! ## Waits -/

section Waits

open Exec

variable {ω : Type} (g : Gateway ω) {m n : Nat} (hmn : m ≤ n)

include hmn

/-- By induction on the fewer steps. -/
theorem sleepUntil_prolongs (slice : Duration) (deadline : Nat) :
    (sleepUntil g slice deadline n).Prolongs (sleepUntil g slice deadline m) := by
  induction m generalizing n with
  | zero => exact .exhausted _
  | succ m ih =>
    obtain ⟨n, rfl⟩ : ∃ k, n = k + 1 := ⟨n - 1, by omega⟩
    refine .behind _ fun stopped => .ite (.refl _) ?_
    refine .behind _ fun now => .ite (.refl _) ?_
    exact .behind _ fun _ => ih (Nat.le_of_succ_le_succ hmn)

/-- A sleep with more steps prolongs one with fewer. -/
theorem sleep_prolongs (duration slice : Duration) :
    (sleep g n duration slice).Prolongs (sleep g m duration slice) :=
  .behind _ fun _ => .ite (.refl _) (sleepUntil_prolongs g hmn _ _)

/-- A timer with more steps prolongs one with fewer. -/
theorem timer_next_prolongs (timer : PollTimer) (slice : Duration) :
    (timer.next g n slice).Prolongs (timer.next g m slice) := by
  refine .behind _ fun stopped => .ite (.refl _) ?_
  refine .behind _ fun elapsed => .ite (.refl _) ?_
  refine .behind _ fun spent => ?_
  exact (sleep_prolongs g hmn _ _).bind fun slept => .ite (.refl _) (.refl _)

/-- By induction on how many clicks are left. -/
theorem clicks_prolongs (config : Config) (p : Point) (delay : Duration) (remaining done : Nat) :
    (clicks g config n p delay remaining done).Prolongs
      (clicks g config m p delay remaining done) := by
  induction remaining generalizing done with
  | zero => exact .refl _
  | succ remaining ih =>
    refine .behind _ fun stopped => .ite (.refl _) ?_
    refine .behind _ fun reply => ?_
    cases reply with
    | error fault => exact .refl _
    | ok _ =>
      refine .ite (.refl _) ?_
      exact (sleep_prolongs g hmn _ _).bind fun slept => .ite (ih _) (.refl _)

/-- Watching for a color is prolonged by more samples, and by more steps in each of them. -/
theorem watchColor_prolongs (config : Config) (line : Nat) (p : Point) (color : Color)
    (timer : PollTimer) {i j : Nat} (hij : i ≤ j) :
    (watchColor g config n line p color timer j).Prolongs
      (watchColor g config m line p color timer i) := by
  induction i generalizing j with
  | zero => exact .exhausted _
  | succ i ih =>
    obtain ⟨j, rfl⟩ : ∃ k, j = k + 1 := ⟨j - 1, by omega⟩
    refine .behind _ fun reply => ?_
    cases reply with
    | error fault => exact .refl _
    | ok actual =>
      refine .ite (.refl _) ?_
      exact (timer_next_prolongs g hmn _ _).bind fun more =>
        .ite (ih (Nat.le_of_succ_le_succ hij)) (.refl _)

/-- Watching for a text is prolonged by more samples, and by more steps in each of them. -/
theorem watchText_prolongs (config : Config) (line : Nat)
    (check : List TextBlock → Except String (Option α)) (timer : PollTimer) {i j : Nat}
    (hij : i ≤ j) :
    (watchText g config n line check timer j).Prolongs
      (watchText g config m line check timer i) := by
  induction i generalizing j with
  | zero => exact .exhausted _
  | succ i ih =>
    obtain ⟨j, rfl⟩ : ∃ k, j = k + 1 := ⟨j - 1, by omega⟩
    have again : Prolongs
        (do
          if ← timer.next g n config.slice then watchText g config n line check timer j
          else return none)
        (do
          if ← timer.next g m config.slice then watchText g config m line check timer i
          else return none) :=
      (timer_next_prolongs g hmn _ _).bind fun more =>
        .ite (ih (Nat.le_of_succ_le_succ hij)) (.refl _)
    refine .behind _ fun sample => ?_
    cases sample with
    | abort => exact .refl _
    | retry => exact again
    | text blocks =>
      refine .behind _ fun found => ?_
      cases found with
      | some found => exact .refl _
      | none => exact again

/-- A poll for a text with more steps prolongs one with fewer. -/
theorem pollText_prolongs (config : Config) (line : Nat) (timeout : Duration)
    (check : List TextBlock → Except String (Option α)) :
    (pollText g config n line timeout check).Prolongs (pollText g config m line timeout check) :=
  .behind _ fun timer => watchText_prolongs g hmn config line check timer hmn

/-- Waiting for a color with more steps prolongs waiting with fewer. -/
theorem waitForColor_prolongs (config : Config) (line : Nat) (p : Point) (color : Color)
    (timeout : Duration) :
    (waitForColor g config n line p color timeout).Prolongs
      (waitForColor g config m line p color timeout) :=
  .behind _ fun timer => watchColor_prolongs g hmn config line p color timer hmn

/-- With more steps, a command ends as it does with fewer if these are enough. -/
theorem Command.perform_prolongs (config : Config) (line : Nat) (c : Command) :
    (c.perform g config n line).Prolongs (c.perform g config m line) := by
  cases c with
  | tap p count delay => exact (clicks_prolongs g hmn config p delay count 0).bind fun _ => .refl _
  | sleep duration => exact (sleep_prolongs g hmn _ _).bind fun _ => .refl _
  | waitForColor p color timeout =>
    exact (waitForColor_prolongs g hmn config line p color timeout).bind fun _ => .refl _
  | waitForText area text timeout =>
    exact (pollText_prolongs g hmn config line timeout _).bind fun _ => .refl _
  | findText text timeout =>
    exact (pollText_prolongs g hmn config line timeout _).bind fun _ => .refl _
  | _ => exact .refl _

end Waits

end TapScript
