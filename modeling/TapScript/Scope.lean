import TapScript.Value

/-!
# Variables

A `Frame` holds the variables of one function call, a `Scope` the frames of all calls that are
running. A call works on a copy of its caller's variables; the only thing that comes back is what
the callee has left in `result`.

* `Scope.enter` and `Scope.leave` begin and end a call, `Scope.topLevel` is what a run reports.
-/

namespace TapScript

/-- The variables of one call, at most one entry for a name. -/
structure Frame where
  entries : List (Text × Value)

namespace Frame

/-- No variables. -/
def empty : Frame := ⟨[]⟩

/-- The value of a variable. -/
def get? (f : Frame) (name : Text) : Option Value := f.entries.lookup name

/-- The frame in which the variable has the value. -/
def set (f : Frame) (name : Text) (v : Value) : Frame :=
  ⟨(name, v) :: f.entries.filter fun e => e.1 != name⟩

/-- The frame without the variable. -/
def erase (f : Frame) (name : Text) : Frame := ⟨f.entries.filter fun e => e.1 != name⟩

/-- The frame in which the variables have the values, a later binding hiding an earlier one. -/
def bind (f : Frame) (bindings : List (Text × Value)) : Frame :=
  bindings.foldl (fun f (name, v) => f.set name v) f

/-- No variable has a value in the empty frame. -/
@[simp] theorem get?_empty (name : Text) : empty.get? name = none := rfl

/-- A search does not see that the entries of another name were removed. -/
private theorem lookup_filter_ne {name other : Text} (h : other ≠ name)
    (entries : List (Text × Value)) :
    (entries.filter fun e => e.1 != name).lookup other = entries.lookup other := by
  induction entries with
  | nil => rfl
  | cons e r ih =>
    obtain ⟨k, v⟩ := e
    by_cases hk : k = name
    · subst hk
      simp [List.lookup_cons, ih, beq_eq_false_iff_ne.2 h]
    · simp [hk, List.lookup_cons, ih]

/-- A variable has the value it was last given. -/
@[simp] theorem get?_set (f : Frame) (name other : Text) (v : Value) :
    (f.set name v).get? other = if other = name then some v else f.get? other := by
  by_cases h : other = name
  · simp [get?, set, h]
  · simp [get?, set, h, List.lookup_cons, beq_eq_false_iff_ne.2 h, lookup_filter_ne h]

/-- Erasing a variable leaves the others alone. -/
@[simp] theorem get?_erase (f : Frame) (name other : Text) :
    (f.erase name).get? other = if other = name then none else f.get? other := by
  by_cases h : other = name
  · subst h
    simp only [get?, erase, if_true]
    induction f.entries with
    | nil => rfl
    | cons e r ih =>
      obtain ⟨k, v⟩ := e
      by_cases hk : k = other
      · simp [hk, ih]
      · simp [hk, List.lookup_cons, ih, beq_eq_false_iff_ne.2 (Ne.symm hk)]
  · simp [get?, erase, h, lookup_filter_ne h]

end Frame

/-- The variable in which a function leaves its result. -/
def resultName : Text := "result".toList

/-- The frames of the calls that are running: the current one, and those of its callers from the
innermost to the script's own. -/
structure Scope where
  current : Frame
  callers : List Frame

namespace Scope

/-- The script's own frame, without variables. -/
def empty : Scope := ⟨Frame.empty, []⟩

/-- How many calls are running. -/
def depth (s : Scope) : Nat := s.callers.length

/-- The value of a variable of the current frame. -/
def get? (s : Scope) (name : Text) : Option Value := s.current.get? name

/-- The scope in which the variable of the current frame has the value. -/
def set (s : Scope) (name : Text) (v : Value) : Scope := { s with current := s.current.set name v }

/-- The scope inside a call whose parameters have the given values. The callee starts with its
caller's variables, except for an old `result`. -/
def enter (s : Scope) (bindings : List (Text × Value)) : Scope :=
  ⟨(s.current.erase resultName).bind bindings, s.current :: s.callers⟩

/-- The scope after the current call, and the result that the call has left. The script's own frame
is never left. -/
def leave (s : Scope) : Option Value × Scope :=
  match s.callers with
  | [] => (none, s)
  | caller :: rest => (s.current.get? resultName, ⟨caller, rest⟩)

/-- The script's own variables. -/
def topLevel (s : Scope) : Frame := s.callers.getLastD s.current

/-- A call is left with the caller's frames as they were. -/
@[simp] theorem leave_enter (s : Scope) (bindings : List (Text × Value)) :
    (s.enter bindings).leave.2 = s := rfl

/-- A call adds one frame. -/
@[simp] theorem depth_enter (s : Scope) (bindings : List (Text × Value)) :
    (s.enter bindings).depth = s.depth + 1 := rfl

/-- Setting a variable adds no frame. -/
@[simp] theorem depth_set (s : Scope) (name : Text) (v : Value) : (s.set name v).depth = s.depth :=
  rfl

end Scope

end TapScript
