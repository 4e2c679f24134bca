import TapScript.Run.Session

/-! # Contracts of computations

A **contract** says how the state before a computation is related to the state behind it and to the
state at a crash, and from which states a computation may use up the steps that it is allowed.
Contracts compose along `>>=`, so what every request of a run keeps is kept by the whole run,
whatever its length.

* `Outcome.Meets` is a condition on the end of one computation, `Exec.Obeys` a contract that is kept
  from every state and `Exec.ObeysFrom` one that is kept from the states with a property.
* `Contract.ahead` says that a step has been made: who runs out of steps behind it had one more.
* `Contract.keeping` adds to a contract a property of states that must not get lost on the way.
* `Contract.onSession` lets a contract about stations speak about runs. -/

namespace TapScript

variable {σ α β : Type}

/-- What the end of a computation has to meet: `Q` if it ends with a value, `E` if it crashes. That
it runs out of steps is possible only if `X`, and if nothing is said about that, always. -/
def Outcome.Meets (Q : α → σ → Prop) (E : σ → Prop) (o : Outcome σ α) (X : Prop := True) : Prop :=
  match o with
  | .done a s => Q a s
  | .crashed _ s => E s
  | .exhausted => X

/-- Weaker conditions are met too. -/
theorem Outcome.Meets.imp {Q Q' : α → σ → Prop} {E E' : σ → Prop} {X X' : Prop} {o : Outcome σ α}
    (h : o.Meets Q E X) (hQ : ∀ a s, Q a s → Q' a s) (hE : ∀ s, E s → E' s)
    (hX : X → X' := by exact id) : o.Meets Q' E' X' := by
  cases o with
  | done a s => exact hQ a s h
  | crashed c s => exact hE s h
  | exhausted => exact hX h

/-- Conditions that are met separately are met together. -/
theorem Outcome.Meets.and {Q Q' : α → σ → Prop} {E E' : σ → Prop} {X : Prop} {o : Outcome σ α}
    (h : o.Meets Q E X) (h' : o.Meets Q' E') :
    o.Meets (fun a s => Q a s ∧ Q' a s) (fun s => E s ∧ E' s) X := by
  cases o with
  | done a s => exact ⟨h, h'⟩
  | crashed c s => exact ⟨h, h'⟩
  | exhausted => exact h

/-- A sequence meets its conditions if its second part does from wherever the first part ends. -/
theorem Outcome.Meets.bind {x : Exec σ α} {f : α → Exec σ β} {Q : β → σ → Prop} {E : σ → Prop}
    {X : Prop} {s : σ} (h : (x s).Meets (fun a t => (f a t).Meets Q E X) E X) :
    ((x >>= f) s).Meets Q E X := by
  rw [Exec.bind_apply]
  cases hx : x s with
  | done a t => rwa [hx] at h
  | crashed c t => rwa [hx] at h
  | exhausted => rwa [hx] at h

/-- Why a computation has failed, if it has. -/
def Outcome.failure? : Outcome σ (Except Mishap α) → Option String
  | .done (.error m) _ => some m.message
  | _ => none

/-- A computation with a failure to show is done, and has failed with that message. -/
theorem Outcome.eq_error_of_failure? {message : String} {o : Outcome σ (Except Mishap α)}
    (h : o.failure? = some message) : ∃ m t, o = .done (.error m) t ∧ m.message = message := by
  unfold failure? at h
  split at h
  · exact ⟨_, _, rfl, Option.some.inj h⟩
  · cases h

/-- What a computation has given, if it has not failed. -/
def Outcome.value? : Outcome σ (Except Mishap α) → Option α
  | .done (.ok a) _ => some a
  | _ => none

/-- A computation with a value to show is done, and has succeeded with that value. -/
theorem Outcome.eq_ok_of_value? {a : α} {o : Outcome σ (Except Mishap α)} (h : o.value? = some a) :
    ∃ t, o = .done (.ok a) t := by
  unfold value? at h
  split at h
  · cases h
    exact ⟨_, rfl⟩
  · cases h

/-- How a computation may change its state, and when it may run out of steps. -/
structure Contract (σ : Type) where
  /-- The states before and behind a computation that has ended with a value. -/
  done : σ → σ → Prop
  /-- The states before a computation and at its crash. -/
  crashed : σ → σ → Prop
  /-- The states before a computation that is allowed so many steps and runs out of them. -/
  tired : Nat → σ → Prop := fun _ _ => True
  refl : ∀ s, done s s
  trans : ∀ {s t u}, done s t → done t u → done s u
  late : ∀ {s t u}, done s t → crashed t u → crashed s u
  early : ∀ {n s t}, done s t → tired n t → tired n s := by intros; trivial
  fewer : ∀ {m n s}, m ≤ n → tired n s → tired m s := by intros; trivial

namespace Contract

/-- Between the two states a step has been made. -/
def ahead (k : Contract σ) (s t : σ) : Prop := ∀ n, k.tired n t → k.tired (n + 1) s

/-- What happens behind a step does not undo it. -/
theorem ahead.behind {k : Contract σ} {s t u : σ} (h : k.ahead s t) (htu : k.done t u) :
    k.ahead s u := fun n hu => h n (k.early htu hu)

/-- The contract that also keeps the property `P`, once the state has it. -/
def keeping (k : Contract σ) (P : σ → Prop) : Contract σ where
  done s t := P s → k.done s t ∧ P t
  crashed s t := P s → k.crashed s t
  tired n s := P s → k.tired n s
  refl s hs := ⟨k.refl s, hs⟩
  trans hst htu hs :=
    have ⟨hst, ht⟩ := hst hs
    have ⟨htu, hu⟩ := htu ht
    ⟨k.trans hst htu, hu⟩
  late hst htu hs :=
    have ⟨hst, ht⟩ := hst hs
    k.late hst (htu ht)
  early hst htired hs :=
    have ⟨hst, ht⟩ := hst hs
    k.early hst (htired ht)
  fewer hmn htired hs := k.fewer hmn (htired hs)

/-- The contract on the stations of a run. -/
def onSession {ω : Type} (k : Contract (Station ω)) : Contract (Session ω) where
  done s t := k.done s.station t.station
  crashed s t := k.crashed s.station t.station
  tired n s := k.tired n s.station
  refl s := k.refl s.station
  trans := k.trans
  late := k.late
  early := k.early
  fewer := k.fewer

end Contract

namespace Exec

/-- Every run of the computation keeps the contract, where it is allowed `n` steps. -/
def Obeys (k : Contract σ) (n : Nat) (x : Exec σ α) : Prop :=
  ∀ s, (x s).Meets (fun _ t => k.done s t) (k.crashed s) (k.tired n s)

/-- Every run of the computation from a state with property `P` keeps the contract. -/
def ObeysFrom (P : σ → Prop) (k : Contract σ) (n : Nat) (x : Exec σ α) : Prop :=
  ∀ s, P s → (x s).Meets (fun _ t => k.done s t) (k.crashed s) (k.tired n s)

/-- Every value that the computation returns has the property. -/
def Returns (R : α → Prop) (x : Exec σ α) : Prop :=
  ∀ s, (x s).Meets (fun a _ => R a) fun _ => True

/-- Every computation returns something. -/
theorem returns_true (x : Exec σ α) : x.Returns fun _ => True := by
  intro s
  cases x s <;> trivial

/-- A value that is only returned is what its property says. -/
theorem returns_pure {R : α → Prop} {a : α} (h : R a) : (pure a : Exec σ α).Returns R := fun _ => h

/-- What a sequence returns is what its last part returns. -/
theorem returns_bind {R : β → Prop} {x : Exec σ α} {f : α → Exec σ β} (h : ∀ a, (f a).Returns R) :
    (x >>= f).Returns R := fun s =>
  Outcome.Meets.bind ((returns_true x s).imp (fun a t _ => h a t) fun _ hc => hc)

variable {k : Contract σ} {m n : Nat} {P : σ → Prop} {x : Exec σ α} {f : α → Exec σ β}

/-- A contract that is kept from every state is kept from some of them. -/
theorem Obeys.obeysFrom (h : x.Obeys k n) : x.ObeysFrom P k n := fun s _ => h s

/-- A contract is kept without a condition if it is kept from all states. -/
theorem obeys_iff_obeysFrom_true : x.Obeys k n ↔ x.ObeysFrom (fun _ => True) k n :=
  ⟨fun h => h.obeysFrom, fun h s => h s trivial⟩

/-- Who keeps a contract with some steps keeps it with fewer. -/
theorem Obeys.fewer (h : x.Obeys k n) (hmn : m ≤ n) : x.Obeys k m := fun s =>
  (h s).imp (fun _ _ ht => ht) (fun _ hc => hc) (k.fewer hmn)

/-- What is kept behind a state is kept behind every state before it. -/
theorem Obeys.after {s t : σ} (hx : x.Obeys k n) (hst : k.done s t) :
    (x t).Meets (fun _ u => k.done s u) (k.crashed s) (k.tired n s) :=
  (hx t).imp (fun _ _ => k.trans hst) (fun _ => k.late hst) (k.early hst)

/-- Returning a value keeps every contract, since no state leads to another one. -/
theorem obeys_pure (a : α) : (pure a : Exec σ α).Obeys k n := fun s => k.refl s

/-- Reading the state keeps every contract. -/
theorem obeys_gets (read : σ → α) : (gets read).Obeys k n := fun s => k.refl s

/-- A change of the state keeps the contracts that allow for it. -/
theorem obeys_modify {change : σ → σ} (h : ∀ s, k.done s (change s)) : (modify change).Obeys k n :=
  fun s => h s

/-- A sequence keeps a contract that its first part keeps, if the second part keeps it from where
the first one ends and does not run out of steps unless the whole may. -/
theorem ObeysFrom.bindTired {R : α → σ → σ → Prop}
    (hx : ∀ s, P s → (x s).Meets (fun a t => k.done s t ∧ R a s t) (k.crashed s) (k.tired n s))
    (hf : ∀ a s t, R a s t → k.done s t →
      (f a t).Meets (fun _ u => k.done t u) (k.crashed t) (k.tired n s)) :
    (x >>= f).ObeysFrom P k n := by
  intro s hs
  refine Outcome.Meets.bind ((hx s hs).imp (fun a t ht => ?_) fun _ hc => hc)
  exact (hf a s t ht.2 ht.1).imp (fun _ u hu => k.trans ht.1 hu) fun u hu => k.late ht.1 hu

/-- A sequence keeps a contract that both parts keep, if the first part brings about what the second
one starts from. -/
theorem ObeysFrom.bind {R : α → σ → Prop}
    (hx : ∀ s, P s → (x s).Meets (fun a t => k.done s t ∧ R a t) (k.crashed s) (k.tired n s))
    (hf : ∀ a, (f a).ObeysFrom (R a) k n) : (x >>= f).ObeysFrom P k n := by
  refine ObeysFrom.bindTired (R := fun a _ t => R a t) hx fun a s t ht hst => ?_
  exact (hf a t ht).imp (fun _ _ hu => hu) (fun _ hu => hu) (k.early hst)

/-- A sequence keeps a contract that both parts keep, the second one behind any value that the first
one may return. -/
theorem Obeys.bindReturns {R : α → Prop} (hx : x.Obeys k n) (hr : x.Returns R)
    (hf : ∀ a, R a → (f a).Obeys k n) : (x >>= f).Obeys k n := by
  rw [obeys_iff_obeysFrom_true]
  refine ObeysFrom.bind (R := fun a _ => R a) (fun s _ => ?_) fun a s ha => hf a ha s
  exact ((hx s).and (hr s)).imp (fun _ _ h => h) fun _ h => h.1

/-- A contract is kept by a sequence if each of its parts keeps it. -/
theorem Obeys.bind (hx : x.Obeys k n) (hf : ∀ a, (f a).Obeys k n) : (x >>= f).Obeys k n :=
  hx.bindReturns (returns_true x) fun a _ => hf a

/-- Behind a first part that keeps the property `P`, the second part may start from it. -/
theorem Obeys.bindFrom {R : α → Prop} (hx : x.Obeys (k.keeping P) n) (hr : x.Returns R)
    (hf : ∀ a, R a → (f a).ObeysFrom P k n) : (x >>= f).ObeysFrom P k n := by
  refine ObeysFrom.bind (R := fun a t => R a ∧ P t) (fun s hs => ?_) fun a t h => hf a h.1 t h.2
  refine ((hx s).and (hr s)).imp (fun _ _ h => ?_) (fun _ h => h.1 hs) fun h => h hs
  have ⟨hdone, hp⟩ := h.1 hs
  exact ⟨hdone, h.2, hp⟩

/-- A property that all states have need not be kept. -/
theorem Obeys.of_keeping (hx : x.Obeys (k.keeping P) n) (hp : ∀ s, P s) : x.Obeys k n := fun s =>
  (hx s).imp (fun _ _ ht => (ht (hp s)).1) (fun _ hc => hc (hp s)) fun ht => ht (hp s)

/-- What is made of a result does not matter to a contract. -/
theorem Obeys.map (h : β → α) {y : Exec σ β} (hy : y.Obeys k n) : (h <$> y).Obeys k n := by
  rw [← bind_pure_comp]
  exact hy.bind fun b => obeys_pure (h b)

/-- Behind a question that was answered as wished, a step has been made, so what then goes on is
allowed one step less than the whole. -/
theorem ObeysFrom.bindAhead {x : Exec σ Bool} {f : Bool → Exec σ β} {R : σ → Prop} (wished : Bool)
    (hx : ∀ s, P s → (x s).Meets
      (fun b t => k.done s t ∧ (b = wished → k.ahead s t ∧ R t)) (k.crashed s) (k.tired n s))
    (hmn : n ≤ m + 1) (hgo : (f wished).ObeysFrom R k m) (hstay : (f !wished).Obeys k n) :
    (x >>= f).ObeysFrom P k n := by
  refine ObeysFrom.bindTired hx fun b s t hb hst => ?_
  -- only the wished answer leads on, and it has cost a step
  by_cases hw : b = wished
  · have ⟨hahead, ht⟩ := hb hw
    rw [hw]
    refine (hgo t ht).imp (fun _ _ hu => hu) (fun _ hu => hu) fun htired => ?_
    exact k.fewer hmn (hahead m htired)
  · have hnot : b = !wished := by cases b <;> cases wished <;> simp_all
    rw [hnot]
    exact (hstay t).imp (fun _ _ hu => hu) (fun _ hu => hu) (k.early hst)

end Exec

/-- What a computation at the station meets it also meets as part of a run. -/
theorem Session.lift_meets {ω : Type} {x : Exec (Station ω) α} {Q : α → Session ω → Prop}
    {E : Session ω → Prop} {X : Prop} {s : Session ω}
    (h : (x s.station).Meets (fun a st => Q a { s with station := st })
      (fun st => E { s with station := st }) X) : (Session.lift x s).Meets Q E X := by
  simp only [Session.lift, Exec.zoom]
  cases hx : x s.station with
  | done a st => rwa [hx] at h
  | crashed c st => rwa [hx] at h
  | exhausted => rwa [hx] at h

end TapScript
