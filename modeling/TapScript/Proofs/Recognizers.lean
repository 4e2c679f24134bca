import Mathlib.Data.List.Nodup
import Mathlib.Logic.Relation
import TapScript.Gateway.Basic
import TapScript.Proofs.Lock

/-! # One recognizer for many tasks

All tasks of an engine share one text recognizer behind a lock. A recognition opens it if none is
open, queries it and leaves it open; a close takes it away if one is open. Each of them has the lock
from its start to its end, and a recognition may be given up anywhere.

* `Usage` is what happens to recognizers, `Used` is the order in which it may happen: one is opened
  only while none is open, and only the one that is open is queried and closed.
* `Handle` is the state of the lock and of all tasks, `Handle.Step` is one step of one of them.
* `Handle.Sound` is the invariant: what has happened up to a state that can be reached was in order.
* `Used.admits` says that whatever is in order can happen. -/

namespace TapScript

variable {α β : Type}

/-! ## The order of use -/

/-- What happens to a recognizer. -/
inductive Usage (α : Type) where
  | opened (a : α)
  /-- A query is started. -/
  | queried (a : α)
  | closed (a : α)
deriving DecidableEq, Repr

namespace Usage

/-- The same under another name. -/
def map (f : α → β) : Usage α → Usage β
  | opened a => opened (f a)
  | queried a => queried (f a)
  | closed a => closed (f a)

/-- The recognizers that were opened, the latest one last. -/
def openings (es : List (Usage α)) : List α :=
  es.filterMap fun
    | opened a => some a
    | _ => none

/-- The recognizers that were closed, the latest one last. -/
def closings (es : List (Usage α)) : List α :=
  es.filterMap fun
    | closed a => some a
    | _ => none

/-- The openings of two stretches are those of both. -/
@[simp] theorem openings_append (es es' : List (Usage α)) :
    openings (es ++ es') = openings es ++ openings es' := List.filterMap_append

/-- The closings of two stretches are those of both. -/
@[simp] theorem closings_append (es es' : List (Usage α)) :
    closings (es ++ es') = closings es ++ closings es' := List.filterMap_append

end Usage

open Usage (openings closings)

/-- The recognizer `a` was open, if any, then `es` has happened, and now `b` is open. -/
inductive Used : Option α → List (Usage α) → Option α → Prop
  | nil (a : Option α) : Used a [] a
  | opened {a : α} {es : List (Usage α)} {b : Option α} (h : Used (some a) es b) :
    Used none (.opened a :: es) b
  | queried {a : α} {es : List (Usage α)} {b : Option α} (h : Used (some a) es b) :
    Used (some a) (.queried a :: es) b
  | closed {a : α} {es : List (Usage α)} {b : Option α} (h : Used none es b) :
    Used (some a) (.closed a :: es) b

namespace Used

variable {a b c : Option α} {es es' : List (Usage α)}

/-- What is in order up to a moment, and from there on, is in order as a whole. -/
theorem append (h : Used a es b) (h' : Used b es' c) : Used a (es ++ es') c := by
  induction h with
  | nil => exact h'
  | opened _ ih => exact .opened (ih h')
  | queried _ ih => exact .queried (ih h')
  | closed _ ih => exact .closed (ih h')

/-- Whatever is in order as a whole is so up to each moment, and from there on. -/
theorem exists_of_append (h : Used a (es ++ es') c) : ∃ b, Used a es b ∧ Used b es' c := by
  induction es generalizing a with
  | nil => exact ⟨a, .nil a, h⟩
  | cons e es ih =>
    cases h with
    | opened h =>
      obtain ⟨b, hb, hc⟩ := ih h
      exact ⟨b, .opened hb, hc⟩
    | queried h =>
      obtain ⟨b, hb, hc⟩ := ih h
      exact ⟨b, .queried hb, hc⟩
    | closed h =>
      obtain ⟨b, hb, hc⟩ := ih h
      exact ⟨b, .closed hb, hc⟩

/-- Recognizers are closed in the order in which they were opened, and the one that is open is left
over. -/
theorem balance (h : Used a es b) : a.toList ++ openings es = closings es ++ b.toList := by
  induction h with
  | nil a => simp [openings, closings]
  | opened _ ih => exact ih
  | queried _ ih => exact ih
  | closed _ ih => exact congrArg (List.cons _) ih

/-- What is open in the end, or closed, was open before, or opened. -/
theorem length_openings (h : Used a es b) :
    a.toList.length + (openings es).length = (closings es).length + b.toList.length := by
  have hlength := congrArg List.length h.balance
  simpa only [List.length_append] using hlength

/-- None is closed twice if none is opened twice. -/
theorem nodup_closings (h : Used none es b) (hnodup : (openings es).Nodup) :
    (closings es).Nodup := by
  have hbalance : openings es = closings es ++ b.toList := h.balance
  rw [hbalance] at hnodup
  exact hnodup.of_append_left

/-- A query is started only while the recognizer is open. -/
theorem query_of_nodup {front back : List (Usage α)} {x : α}
    (h : Used none (front ++ .queried x :: back) c)
    (hnodup : (openings (front ++ .queried x :: back)).Nodup) :
    x ∈ openings front ∧ x ∉ closings front := by
  obtain ⟨b, hfront, hback⟩ := h.exists_of_append
  cases hback with
  | queried _ =>
    -- before the query, this one was open and all others were closed
    have hbalance : openings front = closings front ++ [x] := hfront.balance
    rw [Usage.openings_append, hbalance] at hnodup
    have hdisjoint := List.disjoint_of_nodup_append hnodup.of_append_left
    rw [hbalance]
    exact ⟨by simp, fun hmem => hdisjoint hmem (List.mem_singleton_self x)⟩

end Used

/-! ## Tasks at the handle -/

/-- One opening of a recognizer: how many were opened before, and the number that the gateway gave
it. -/
structure Lease where
  number : Nat
  id : SessionId
deriving DecidableEq, Repr

/-- What a task asks of the handle. -/
inductive Operation where
  | recognize
  | close
  /-- Closing from outside of the asynchronous tasks. -/
  | closeBlocking
deriving DecidableEq, Repr

/-- Whether the task wants to close the recognizer. -/
def Operation.closes : Operation → Bool
  | recognize => false
  | close | closeBlocking => true

/-- How a recognition ends. -/
inductive Ending where
  | answered
  /-- No recognizer can be opened. -/
  | refused
  /-- No answer came in time. -/
  | late
  | crashed
  /-- A stop has dropped it midway. -/
  | dropped
deriving DecidableEq, Repr

/-- Where a task is. -/
inductive Place where
  | away
  /-- It waits for the lock. -/
  | waiting (op : Operation)
  /-- It has the lock and has not looked at the handle yet. -/
  | entered (op : Operation)
  /-- It has got a recognizer, new or not. -/
  | ready (lease : Lease)
  /-- It waits for an answer. -/
  | asking (lease : Lease)

namespace Place

/-- Whether a task at this place has the lock. -/
def holdsLock : Place → Bool
  | away | waiting _ => false
  | entered _ | ready _ | asking _ => true

/-- Whether the task may leave from there with the recognition ended so. -/
def mayEnd : Place → Ending → Bool
  | entered .recognize, .refused | entered .recognize, .crashed
  | entered .recognize, .dropped => true
  | ready _, .crashed | ready _, .dropped => true
  | asking _, .answered | asking _, .late | asking _, .crashed | asking _, .dropped => true
  | _, _ => false

/-- The recognizer that the task has got. -/
def lease? : Place → Option Lease
  | ready lease | asking lease => some lease
  | away | waiting _ | entered _ => none

/-- Only a task with the lock can end an operation. -/
theorem holdsLock_of_mayEnd {x : Place} {how : Ending} (h : x.mayEnd how) : x.holdsLock = true := by
  cases x with
  | away => cases h
  | waiting op => cases h
  | _ => rfl

/-- Only a task with the lock has got a recognizer. -/
theorem holdsLock_of_lease? {x : Place} {lease : Lease} (h : x.lease? = some lease) :
    x.holdsLock = true := by
  cases x with
  | ready l => rfl
  | asking l => rfl
  | _ => cases h

end Place

/-- The handle of the recognizer, and the tasks that use it. -/
structure Handle where
  /-- The task that has the lock. -/
  lock : Option Nat
  /-- The recognizer that is open. -/
  held : Option Lease
  /-- How many recognizers were opened. -/
  opened : Nat
  place : Nat → Place
  history : List (Usage Lease)

namespace Handle

/-- No recognizer was opened. -/
def start : Handle := ⟨none, none, 0, fun _ => .away, []⟩

/-- One task has come to another place. -/
def moved (s : Handle) (i : Nat) (x : Place) : Handle :=
  { s with place := Function.update s.place i x }

/-- One task is through and has given the lock back. -/
def left (s : Handle) (i : Nat) : Handle := { s.moved i .away with lock := none }

/-- The lease of the next recognizer. -/
def next (s : Handle) (id : SessionId) : Lease := ⟨s.opened, id⟩

/-- A step of one of the tasks. -/
inductive Step : Handle → Handle → Prop
  | issue {s : Handle} {i : Nat} (op : Operation) (h : s.place i = .away) :
      Step s (s.moved i (.waiting op))
  | enter {s : Handle} {i : Nat} {op : Operation} (h : s.place i = .waiting op)
      (hfree : s.lock = none) :
    Step s { s.moved i (.entered op) with lock := some i }
  /-- A recognition finds the handle empty and opens a recognizer. -/
  | acquire {s : Handle} {i : Nat} (id : SessionId) (h : s.place i = .entered .recognize)
      (hempty : s.held = none) :
    Step s { s.moved i (.ready (s.next id)) with
      held := some (s.next id)
      opened := s.opened + 1
      history := s.history ++ [.opened (s.next id)] }
  | reuse {s : Handle} {i : Nat} {lease : Lease} (h : s.place i = .entered .recognize)
      (hheld : s.held = some lease) : Step s (s.moved i (.ready lease))
  | query {s : Handle} {i : Nat} {lease : Lease} (h : s.place i = .ready lease) :
    Step s { s.moved i (.asking lease) with history := s.history ++ [.queried lease] }
  | leave {s : Handle} {i : Nat} (how : Ending) (h : (s.place i).mayEnd how) : Step s (s.left i)
  /-- A close finds a recognizer and closes it. Whether that ends in a crash does not matter to the
  handle. -/
  | shut {s : Handle} {i : Nat} {op : Operation} {lease : Lease} (h : s.place i = .entered op)
      (hop : op.closes) (hheld : s.held = some lease) :
    Step s { s.left i with held := none, history := s.history ++ [.closed lease] }
  | pass {s : Handle} {i : Nat} {op : Operation} (h : s.place i = .entered op) (hop : op.closes)
      (hempty : s.held = none) : Step s (s.left i)
  /-- A task is given up while it waits for the lock. -/
  | abandon {s : Handle} {i : Nat} {op : Operation} (h : s.place i = .waiting op) :
      Step s (s.moved i .away)

/-- Some steps one after the other. -/
abbrev Steps : Handle → Handle → Prop := Relation.ReflTransGen Step

/-! ## The invariant -/

/-- A task that has got a recognizer has the one that is open, and everything so far was in
order. -/
structure Sound (s : Handle) : Prop where
  owned : Locked Place.holdsLock s.lock s.place
  inHand : ∀ i lease, (s.place i).lease? = some lease → s.held = some lease
  used : Used none s.history s.held
  numbered : (openings s.history).map Lease.number = List.range s.opened

/-- At the start there are neither recognizers nor tasks that have one. -/
theorem sound_start : start.Sound where
  owned i := by simp [start, Place.holdsLock]
  inHand _ _ h := nomatch h
  used := .nil none
  numbered := rfl

variable {s : Handle} (h : s.Sound)

include h

/-- None was opened twice. -/
theorem Sound.nodup : (openings s.history).Nodup := by
  refine List.Nodup.of_map Lease.number ?_
  rw [h.numbered]
  exact List.nodup_range

/-- The recognizer that is open was opened and not closed, and no other one. -/
theorem Sound.balance : ((openings s.history).length : Int) - (closings s.history).length =
    if s.held.isSome then 1 else 0 := by
  have hlength := h.used.length_openings
  cases hheld : s.held with
  | none =>
    rw [hheld, Option.toList_none, List.length_nil] at hlength
    rw [if_neg (by simp)]
    omega
  | some lease =>
    rw [hheld, Option.toList_none, Option.toList_some, List.length_nil,
      List.length_singleton] at hlength
    rw [if_pos (by simp)]
    omega

/-- A task may come to another place, if a recognizer that it has there is the one that is open. -/
theorem Sound.moved {i : Nat} {x : Place} {lock : Option Nat}
    (howned : Locked Place.holdsLock lock (Function.update s.place i x))
    (hx : ∀ lease, x.lease? = some lease → s.held = some lease) :
    Sound { s.moved i x with lock } where
  owned := howned
  inHand j lease hj := by
    by_cases hji : j = i
    · subst hji
      simp only [Handle.moved, Function.update_self] at hj
      exact hx lease hj
    · simp only [Handle.moved, Function.update_of_ne hji] at hj
      exact h.inHand j lease hj
  used := h.used
  numbered := h.numbered

/-- Who has the lock may change what is open: no other task has got a recognizer. -/
theorem Sound.inHand_update {i : Nat} (hi : (s.place i).holdsLock) {x : Place} {held : Option Lease}
    (hx : ∀ lease, x.lease? = some lease → held = some lease) (j : Nat) (lease : Lease)
    (hj : (Function.update s.place i x j).lease? = some lease) : held = some lease := by
  by_cases hji : j = i
  · subst hji
    rw [Function.update_self] at hj
    exact hx lease hj
  · rw [Function.update_of_ne hji] at hj
    exact absurd (h.owned.unique (Place.holdsLock_of_lease? hj) hi) hji

/-- A task with the lock that finds no recognizer opens one and has it. -/
theorem Sound.acquire {i : Nat} (id : SessionId) (hi : s.place i = .entered .recognize)
    (hempty : s.held = none) :
    Sound { s.moved i (.ready (s.next id)) with
      held := some (s.next id)
      opened := s.opened + 1
      history := s.history ++ [.opened (s.next id)] } where
  owned := h.owned.move (by rw [hi]; rfl)
  inHand := h.inHand_update (by rw [hi]; rfl) fun _ hlease => hlease
  used := by
    have hused := h.used
    rw [hempty] at hused
    exact hused.append (.opened (.nil _))
  numbered := by
    -- the new lease has the number of those opened before
    rw [Usage.openings_append, List.map_append, h.numbered, List.range_succ]
    rfl

/-- A task asks the recognizer that is open. -/
theorem Sound.query {i : Nat} {lease : Lease} (hi : s.place i = .ready lease) :
    Sound { s.moved i (.asking lease) with history := s.history ++ [.queried lease] } := by
  -- nobody could take the recognizer away since the task has got it
  have hheld : s.held = some lease := h.inHand i lease (by rw [hi]; rfl)
  refine ⟨h.owned.move (by rw [hi]; rfl), h.inHand_update (by rw [hi]; rfl) fun l hl => ?_, ?_, ?_⟩
  · rw [← hl]
    exact hheld
  · have hused := h.used
    rw [hheld] at hused
    change Used none (s.history ++ [.queried lease]) s.held
    rw [hheld]
    exact hused.append (.queried (.nil _))
  · rw [Usage.openings_append, List.map_append, h.numbered]
    exact List.append_nil _

/-- A task with the lock closes the recognizer that is open, and nobody is left with it. -/
theorem Sound.shut {i : Nat} {op : Operation} {lease : Lease} (hi : s.place i = .entered op)
    (hheld : s.held = some lease) :
    Sound { s.left i with held := none, history := s.history ++ [.closed lease] } where
  owned := h.owned.giveBack (by rw [hi]; rfl) rfl
  inHand := h.inHand_update (by rw [hi]; rfl) nofun
  used := by
    have hused := h.used
    rw [hheld] at hused
    exact hused.append (.closed (.nil _))
  numbered := by
    rw [Usage.openings_append, List.map_append, h.numbered]
    exact List.append_nil _

/-- Every step keeps the invariant. -/
theorem Sound.step {t : Handle} (hstep : Step s t) : t.Sound := by
  cases hstep with
  | issue op hi => exact h.moved (h.owned.move (by rw [hi]; rfl)) nofun
  | enter hi hfree => exact h.moved (h.owned.take hfree rfl) nofun
  | acquire id hi hempty => exact h.acquire id hi hempty
  | reuse hi hheld =>
    exact h.moved (h.owned.move (by rw [hi]; rfl)) fun lease hlease => hheld.trans hlease
  | query hi => exact h.query hi
  | leave how hi => exact h.moved (h.owned.giveBack (Place.holdsLock_of_mayEnd hi) rfl) nofun
  | shut hi _ hheld => exact h.shut hi hheld
  | pass hi => exact h.moved (h.owned.giveBack (by rw [hi]; rfl) rfl) nofun
  | abandon hi => exact h.moved (h.owned.move (by rw [hi]; rfl)) nofun

/-- The invariant holds behind any number of steps. -/
theorem Sound.steps {t : Handle} (hsteps : Steps s t) : t.Sound := by
  induction hsteps with
  | refl => exact h
  | tail _ hstep ih => exact ih.step hstep

end Handle

/-! ## What can happen -/

namespace Handle

variable {s : Handle} {i : Nat} (hi : s.place i = .away)

include hi

/-- A task that was away and is so again has changed nothing. -/
theorem update_away : Function.update s.place i .away = s.place := by
  rw [← hi, Function.update_eq_self]

variable (hfree : s.lock = none)

include hfree

/-- A task that finds the lock free takes it. -/
theorem steps_entered (op : Operation) :
    Steps s { s with lock := some i, place := Function.update s.place i (.entered op) } := by
  have hissued : Steps s (s.moved i (.waiting op)) := .single (.issue op hi)
  have hentered := hissued.tail (.enter (Function.update_self ..) hfree)
  simp only [moved, Function.update_idem] at hentered
  exact hentered

/-- A recognition opens a recognizer, and is dropped then. -/
theorem steps_opened (id : SessionId) (hempty : s.held = none) :
    Steps s
      ⟨none, some (s.next id), s.opened + 1, s.place, s.history ++ [.opened (s.next id)]⟩ := by
  have hentered := steps_entered hi hfree .recognize
  have hopened := hentered.tail (.acquire id (Function.update_self ..) hempty)
  have hleft := hopened.tail (.leave (i := i) .dropped (by simp [moved, Place.mayEnd]))
  simp only [left, moved, Function.update_idem, update_away hi] at hleft
  exact hleft

/-- A recognition queries the recognizer that is open. -/
theorem steps_queried {lease : Lease} (hheld : s.held = some lease) :
    Steps s ⟨none, s.held, s.opened, s.place, s.history ++ [.queried lease]⟩ := by
  have hentered := steps_entered hi hfree .recognize
  have hready := hentered.tail (.reuse (Function.update_self ..) hheld)
  have hasked := hready.tail (.query (Function.update_self ..))
  have hleft := hasked.tail (.leave (i := i) .answered (by simp [moved, Place.mayEnd]))
  simp only [left, moved, Function.update_idem, update_away hi] at hleft
  exact hleft

/-- A close closes the recognizer that is open. -/
theorem steps_closed {lease : Lease} (hheld : s.held = some lease) :
    Steps s ⟨none, none, s.opened, s.place, s.history ++ [.closed lease]⟩ := by
  have hentered := steps_entered hi hfree .close
  have hshut := hentered.tail (.shut (Function.update_self ..) rfl hheld)
  simp only [left, moved, Function.update_idem, update_away hi] at hshut
  exact hshut

end Handle

/-- From here on the tasks can use recognizers as `ids` says, with those numbers, and then the one
with the number `b` is open. All tasks are where they were before. -/
def Handle.Admits (s : Handle) (ids : List (Usage SessionId)) (b : Option SessionId) : Prop :=
  ∃ held opened es, held.map Lease.id = b ∧ es.map (Usage.map Lease.id) = ids ∧
    Handle.Steps s ⟨none, held, opened, s.place, s.history ++ es⟩

/-- One step of the tasks can be put in front of what they can do from there on. -/
theorem Handle.Admits.cons {s : Handle} {held : Option Lease} {opened : Nat} {e : Usage Lease}
    {ids : List (Usage SessionId)} {b : Option SessionId}
    (hstep : Handle.Steps s ⟨none, held, opened, s.place, s.history ++ [e]⟩)
    (hrest : Handle.Admits ⟨none, held, opened, s.place, s.history ++ [e]⟩ ids b) :
    s.Admits (e.map Lease.id :: ids) b := by
  obtain ⟨held', opened', es, hb, hids, hsteps⟩ := hrest
  rw [List.append_assoc] at hsteps
  exact ⟨held', opened', e :: es, hb, by rw [List.map_cons, hids], hstep.trans hsteps⟩

/-- Whatever is in order can happen at a handle, if the lock is free. -/
theorem Used.admits {a b : Option SessionId} {ids : List (Usage SessionId)}
    (h : Used a ids b) {s : Handle} {i : Nat} (hi : s.place i = .away) (hfree : s.lock = none)
    (hheld : s.held.map Lease.id = a) : s.Admits ids b := by
  induction h generalizing s with
  | nil a =>
    refine ⟨s.held, s.opened, [], hheld, rfl, ?_⟩
    rw [List.append_nil, ← hfree]
  | opened _ ih =>
    have hempty : s.held = none := Option.map_eq_none_iff.1 hheld
    exact .cons (Handle.steps_opened hi hfree _ hempty) (ih hi rfl rfl)
  | queried _ ih =>
    obtain ⟨lease, hlease, rfl⟩ := Option.map_eq_some_iff.1 hheld
    exact .cons (Handle.steps_queried hi hfree hlease) (ih hi rfl hheld)
  | closed _ ih =>
    obtain ⟨lease, hlease, rfl⟩ := Option.map_eq_some_iff.1 hheld
    exact .cons (Handle.steps_closed hi hfree hlease) (ih hi rfl rfl)

end TapScript
