import TapScript.Proofs.Calls
import TapScript.Proofs.Conduct
import TapScript.Proofs.ReadBack

/-! # Expanding queries

A text is expanded in rounds. Each round carries out the last call of a query and replaces it by the
literal of its value. Literals leave nothing open and are silent, so every round takes away exactly
the call that it has carried out, and the calls come from the last to the first.

* `Value.isWhole_literal` and `Value.silent_literal` are the two properties of literals.
* `Query.Rounds` says what rounds do to a text and to the station, `Query.Fails` how a round may
  fail.
* `expand_carries_out_calls` says which rounds an expansion is made of. -/

namespace TapScript

/-! ## Literals of values -/

namespace Text

/-- The literal of a text is closed. -/
theorem isClosed_encode (t : Text) : isClosed (Literal.encode t) :=
  ((Literal.contents_escape t).marks_literal rfl).1

/-- No character of a literal stands outside. -/
theorem outside_of_mem_marks_encode {t : Text} {m : Mark} (h : m ∈ marks (Literal.encode t)) :
    m.outside = false := by
  rw [Literal.encode, ((Literal.contents_escape t).marks_literal rfl).2] at h
  obtain ⟨c, -, rfl⟩ := List.mem_map.1 h
  rfl

/-- The literal of a text is whole, whatever quotes and parentheses the text has. -/
theorem isWhole_encode (t : Text) : IsWhole (Literal.encode t) :=
  ⟨isClosed_encode t, beq_iff_eq.2 (Mark.opened?_of_inside
    (fun _ => outside_of_mem_marks_encode) 0)⟩

end Text

namespace Value

variable {v : Value} (h : v.kind ≠ "number")

include h

/-- Apart from numbers, a value is written as a literal in quotes or as one of three words. -/
theorem literal_cases :
    (∃ t, v.literal = Text.Literal.encode t) ∨
      v.literal ∈ ["true".toList, "false".toList, "null".toList] := by
  cases v with
  | text t => exact .inl ⟨t, rfl⟩
  | number x => exact absurd rfl h
  | bool b => cases b <;> exact .inr (by decide)
  | point p => exact .inl ⟨p.text, literal_point p⟩
  | null => exact .inr (by decide)

/-- The literal of a value is whole. -/
theorem isWhole_literal : Text.IsWhole v.literal := by
  rcases literal_cases h with ⟨t, ht⟩ | hword
  · rw [ht]
    exact Text.isWhole_encode t
  · have hall : ∀ w ∈ ["true".toList, "false".toList, "null".toList], Text.IsWhole w := by decide
    exact hall _ hword

/-- There is no call in the literal of a value. -/
theorem silent_literal : Query.Silent v.literal := by
  rcases literal_cases h with ⟨t, ht⟩ | hword
  · rw [ht]
    exact Query.silent_of_inside (by simp [Text.Literal.encode])
      fun _ => Text.outside_of_mem_marks_encode
  · have hname : ["true".toList, "false".toList, "null".toList].all (·.all Text.isNameChar) =
        true := rfl
    have hname := List.all_eq_true.1 (List.all_eq_true.1 hname v.literal hword)
    have hstart : ∀ w ∈ ["true".toList, "false".toList, "null".toList], ∀ b ∈ Builtin.all,
        b.isQuery → ¬w <+: b.name.toList := by
      decide
    refine Query.silent_of_word hname fun b => hstart _ hword b ?_
    cases b <;> decide

end Value

/-! ## Rounds -/

section Station

variable {ω : Type} (g : Gateway ω) (config : Config) (fuel line : Nat) (frame : Frame)

namespace Command

/-- The kinds of values that a query may give. -/
def kinds : Command → List String
  | getVar .. | getText .. => ["string"]
  | compareColor .. | waitForColor .. | waitForText .. => ["bool"]
  | getColor .. => ["string", "null"]
  | findText .. | findImage .. => ["point", "null"]
  | _ => []

/-- No query gives a number. -/
theorem number_not_mem_kinds (c : Command) : "number" ∉ c.kinds := by
  cases c <;> simp [kinds]

/-- A query gives a value of one of its kinds, whatever the device answers. -/
theorem perform_kinds {c : Command} (h : c.isQuery) :
    (c.perform g config fuel line).Returns fun result =>
      ∃ v : Value, result = .ok (some v) ∧ v.kind ∈ c.kinds := by
  -- who looks for a place gives a point, or nothing
  have hpoint : ∀ found, (Value.ofPoint? found).kind ∈ ["point", "null"] := by
    intro found
    cases found <;> simp [Value.ofPoint?, Value.kind]
  open Exec in
  cases c with
  | getVar name => exact returns_bind fun stored => returns_pure ⟨_, rfl, .head _⟩
  | getColor p =>
    refine returns_bind fun reply => ?_
    cases reply with
    | ok color => exact returns_pure ⟨_, rfl, .head _⟩
    | error fault => exact returns_bind fun _ => returns_pure ⟨_, rfl, .tail _ (.head _)⟩
  | compareColor p color tolerance =>
    refine returns_bind fun reply => ?_
    cases reply with
    | ok actual => exact returns_pure ⟨_, rfl, .head _⟩
    | error fault => exact returns_bind fun _ => returns_pure ⟨_, rfl, .head _⟩
  | waitForColor p color timeout =>
    exact returns_bind fun found => returns_bind fun _ => returns_pure ⟨_, rfl, .head _⟩
  | waitForText area text timeout =>
    exact returns_bind fun found => returns_bind fun _ => returns_pure ⟨_, rfl, .head _⟩
  | getText area =>
    refine returns_bind fun sample => ?_
    cases sample with
    | text blocks => exact returns_bind fun inside => returns_pure ⟨_, rfl, .head _⟩
    | retry => exact returns_pure ⟨_, rfl, .head _⟩
    | abort => exact returns_pure ⟨_, rfl, .head _⟩
  | findText text timeout =>
    exact returns_bind fun found => returns_bind fun _ => returns_pure ⟨_, rfl, hpoint _⟩
  | findImage path threshold =>
    refine returns_bind fun reply => ?_
    cases reply with
    | ok found => exact returns_bind fun _ => returns_pure ⟨_, rfl, hpoint _⟩
    | error fault => exact returns_bind fun _ => returns_pure ⟨_, rfl, hpoint none⟩
  | _ => cases h

/-- A query never gives a number. -/
theorem perform_returns {c : Command} (h : c.isQuery) :
    (c.perform g config fuel line).Returns fun result =>
      ∃ v : Value, result = .ok (some v) ∧ v.kind ≠ "number" := fun s =>
  (c.perform_kinds g config fuel line h s).imp
    (fun _ _ ⟨v, hv, hkind⟩ => ⟨v, hv, fun hnumber => c.number_not_mem_kinds (hnumber ▸ hkind)⟩)
      fun _ hc => hc

end Command

namespace Query

/-- What one round of an expansion has done: the text it has found, the call in it, the command that
the call is, and the value of the command. -/
structure Round where
  text : Text
  query : Query
  command : Command
  value : Value

/-- The text behind the round. Nothing but the call has changed. -/
def Round.result (r : Round) : Text := r.query.replace r.value.literal

/-- From the one text and station to the other, the rounds are made one after the other. -/
inductive Rounds : Text → Station ω → List Round → Text → Station ω → Prop
  | nil (t : Text) (st : Station ω) : Rounds t st [] t st
  | cons {t : Text} {q : Query} {c : Command} {v : Value} {st st₁ st₂ : Station ω}
      (call : IsCall t q) (reads : command g config frame q.builtin q.args st = .done (.ok c) st₁)
      (performs : c.perform g config fuel line st₁ = .done (.ok (some v)) st₂) {rounds : List Round}
      {u : Text} {st' : Station ω} (rest : Rounds (q.replace v.literal) st₂ rounds u st') :
      Rounds t st (⟨t, q, c, v⟩ :: rounds) u st'

/-- The last call of the text is not carried out: its arguments are not valid, or foreign code
crashes, or there are too few steps. -/
inductive Fails (t : Text) (st : Station ω) : Outcome (Station ω) (Except Mishap Text) → Prop
  | invalid {q : Query} (last : last? t = some q) {mishap : Mishap} {st₁ : Station ω}
      (reads : command g config frame q.builtin q.args st = .done (.error mishap) st₁) :
      Fails t st (.done (.error mishap) st₁)
  | crashedReading {q : Query} (last : last? t = some q) {crash : Crash} {st₁ : Station ω}
      (reads : command g config frame q.builtin q.args st = .crashed crash st₁) :
      Fails t st (.crashed crash st₁)
  | crashed {q : Query} (last : last? t = some q) {c : Command} {crash : Crash}
      {st₁ st₂ : Station ω} (reads : command g config frame q.builtin q.args st = .done (.ok c) st₁)
      (performs : c.perform g config fuel line st₁ = .crashed crash st₂) :
      Fails t st (.crashed crash st₂)
  | exhausted {q : Query} (last : last? t = some q) {c : Command} {st₁ : Station ω}
      (reads : command g config frame q.builtin q.args st = .done (.ok c) st₁)
      (performs : c.perform g config fuel line st₁ = .exhausted) : Fails t st .exhausted

/-- To read a call takes no steps. -/
theorem command_ne_exhausted (b : Builtin) (args : Text) (st : Station ω) :
    command g config frame b args st ≠ .exhausted := by
  have hlook : (stopRequested g st).Meets (fun _ _ => True) (fun _ => True) False := by
    refine Outcome.Meets.bind ?_
    obtain ⟨reply, -, hask⟩ | ⟨crash, -, hask⟩ := ask_cases g .checkpoint st
    · rw [hask]
      trivial
    · rw [hask]
      trivial
  have hcommand : (command g config frame b args st).Meets (fun _ _ => True)
      (fun _ => True) False :=
    Outcome.Meets.bind (hlook.imp (fun _ _ _ => trivial) fun _ hc => hc)
  intro h
  rw [h] at hcommand
  exact hcommand

/-- A round reads the last call, carries it out and replaces it. -/
theorem expandUpTo_succ {t : Text} {q : Query} (h : last? t = some q) (bound : Nat) :
    expandUpTo g config fuel line frame (bound + 1) t = (do
      match ← command g config frame q.builtin q.args with
      | .error mishap => return .error mishap
      | .ok c =>
        match ← c.perform g config fuel line with
        | .error mishap => return .error mishap
        | .ok v =>
          expandUpTo g config fuel line frame bound (q.replace (v.getD .null).literal)) := by
  rewrite [expandUpTo, h]
  rfl

/-- A round fails, or it goes on with the text in which the last call is replaced. -/
theorem expandUpTo_cases {t : Text} {q : Query} (h : last? t = some q) (bound : Nat)
    (st : Station ω) :
    Fails g config fuel line frame t st (expandUpTo g config fuel line frame (bound + 1) t st) ∨
      ∃ (c : Command) (v : Value) (st₁ st₂ : Station ω),
        command g config frame q.builtin q.args st = .done (.ok c) st₁ ∧
        c.perform g config fuel line st₁ = .done (.ok (some v)) st₂ ∧ v.kind ≠ "number" ∧
        expandUpTo g config fuel line frame (bound + 1) t st =
          expandUpTo g config fuel line frame bound (q.replace v.literal) st₂ := by
  have hissues := command_returns g config frame q.builtin q.args st
  rw [expandUpTo_succ _ _ _ _ _ h]
  -- reading the arguments may fail, and so may the query; it always has a value
  cases hreads : command g config frame q.builtin q.args st with
  | exhausted => exact absurd hreads (command_ne_exhausted g config frame _ _ st)
  | crashed crash st₁ =>
    rw [Exec.bind_crashed hreads]
    exact .inl (.crashedReading h hreads)
  | done result st₁ =>
    rw [Exec.bind_done hreads]
    cases result with
    | error mishap => exact .inl (.invalid h hreads)
    | ok c =>
      rw [hreads] at hissues
      have hquery : c.isQuery := (hissues c rfl).isQuery (isQuery_of_last? h)
      have hvalue := c.perform_returns g config fuel line hquery st₁
      dsimp only
      cases hperforms : c.perform g config fuel line st₁ with
      | exhausted =>
        rw [Exec.bind_exhausted hperforms]
        exact .inl (.exhausted h hreads hperforms)
      | crashed crash st₂ =>
        rw [Exec.bind_crashed hperforms]
        exact .inl (.crashed h hreads hperforms)
      | done result st₂ =>
        rw [hperforms] at hvalue
        obtain ⟨v, rfl, hkind⟩ := hvalue
        rw [Exec.bind_done hperforms]
        exact .inr ⟨c, v, st₁, st₂, rfl, hperforms, hkind, rfl⟩

/-- The calls of a text are carried out one after the other from the last one on, `bound` of them at
most. -/
theorem expandUpTo_rounds (bound : Nat) (t : Text) (st : Station ω) :
    ∃ (rounds : List Round) (u : Text) (st' : Station ω),
      Rounds g config fuel line frame t st rounds u st' ∧
      (calls t).map head = (calls u).map head ++ (rounds.map fun r => r.query.head).reverse ∧
      (∀ r ∈ rounds, calls r.query.args = [] ∧ (calls r.result).length + 1 =
        (calls r.text).length) ∧
      ((rounds.length = min (calls t).length bound ∧
          expandUpTo g config fuel line frame bound t st = .done (.ok u) st') ∨
        (rounds.length < min (calls t).length bound ∧
          Fails g config fuel line frame u st'
            (expandUpTo g config fuel line frame bound t st))) := by
  have hnone : ∀ r ∈ ([] : List Round),
      calls r.query.args = [] ∧ (calls r.result).length + 1 = (calls r.text).length :=
    fun _ hr => absurd hr List.not_mem_nil
  induction bound generalizing t st with
  | zero =>
    refine ⟨[], t, st, .nil t st, by simp, hnone, .inl ⟨?_, rfl⟩⟩
    rw [Nat.min_zero, List.length_nil]
  | succ bound ih =>
    cases hlast : last? t with
    | none =>
      have hcalls : calls t = [] := by
        rw [last?_eq_getLast?] at hlast
        exact List.getLast?_eq_none_iff.1 hlast
      refine ⟨[], t, st, .nil t st, by simp, hnone, .inl ⟨?_, ?_⟩⟩
      · simp [hcalls]
      · rw [expandUpTo, hlast]
        rfl
    | some q =>
      have hcall := isCall_of_last? hlast
      have hpos : 0 < (calls t).length := List.length_pos_of_mem (mem_calls_iff.2 hcall)
      rcases expandUpTo_cases g config fuel line frame hlast bound st with
        hfails | ⟨c, v, st₁, st₂, hreads, hperforms, hkind, hexpand⟩
      · refine ⟨[], t, st, .nil t st, by simp, hnone, .inr ⟨?_, hfails⟩⟩
        rw [List.length_nil]
        omega
      · -- the round takes away one call, and the others are left to the rounds that follow
        have hheads := map_head_calls hlast (Value.isWhole_literal hkind)
          (Value.silent_literal hkind)
        have hlength := congrArg List.length hheads
        rw [List.length_append, List.length_map, List.length_map, List.length_singleton] at hlength
        obtain ⟨rounds, u, st', hrounds, hrest, hlowers, hends⟩ := ih (q.replace v.literal) st₂
        refine ⟨⟨t, q, c, v⟩ :: rounds, u, st', .cons hcall hreads hperforms hrounds, ?_, ?_, ?_⟩
        · rw [hheads, hrest, List.map_cons, List.reverse_cons, List.append_assoc]
        · intro r' hr'
          rcases List.mem_cons.1 hr' with rfl | hr'
          · exact ⟨calls_args_of_last? hlast, hlength.symm⟩
          · exact hlowers r' hr'
        · rw [List.length_cons, hexpand, hlength, Nat.add_min_add_right]
          rcases hends with ⟨hend, hdone⟩ | ⟨hend, hfails⟩
          · exact .inl ⟨by rw [hend], hdone⟩
          · exact .inr ⟨Nat.succ_lt_succ hend, hfails⟩

/-- Rounds that have carried out the last calls of a text have gone from right to left. -/
theorem pairwise_rounds {t : Text} {left : List (Text × Builtin)} {rounds : List Round}
    (h : (calls t).map head = left ++ (rounds.map fun r => r.query.head).reverse) :
    rounds.Pairwise fun r r' => r'.query.start < r.query.start := by
  have hsorted : ((calls t).map head).Pairwise fun a b => a.1.length < b.1.length :=
    List.pairwise_map.2 (pairwise_calls t)
  rw [h] at hsorted
  have hlast := (List.pairwise_append.1 hsorted).2.1
  rw [List.pairwise_reverse, List.pairwise_map] at hlast
  exact hlast

end Query

end Station

/-- **Expanding a text carries out its calls of queries exactly.** `calls` lists the calls of a text
from left to right. An expansion is made of rounds, each of which carries out one call, with no call
left in its arguments, and replaces it by the literal of its value, so that there is exactly one
call less. The rounds are for the last calls of the text, in decreasing order of their starts; the
calls that are left stand where they stood. Unless a round fails, there are as many rounds as there
are calls, 64 at most, so up to 64 calls none is left. -/
theorem expand_carries_out_calls {ω : Type} (g : Gateway ω) (config : Config) (fuel line : Nat)
    (frame : Frame) (t : Text) (st : Station ω) :
    (∀ s : Text, (∀ q, q ∈ Query.calls s ↔ Query.IsCall s q) ∧
      (Query.calls s).Pairwise fun q q' => q.start < q'.start) ∧
    ∃ (rounds : List Query.Round) (u : Text) (st' : Station ω),
      Query.Rounds g config fuel line frame t st rounds u st' ∧
      (Query.calls t).map Query.head =
        (Query.calls u).map Query.head ++ (rounds.map fun r => r.query.head).reverse ∧
      (rounds.Pairwise fun r r' => r'.query.start < r.query.start) ∧
      (∀ r ∈ rounds, Query.calls r.query.args = [] ∧
        (Query.calls r.result).length + 1 = (Query.calls r.text).length) ∧
      ((rounds.length = min (Query.calls t).length 64 ∧
          ((Query.calls t).length ≤ 64 → Query.calls u = []) ∧
          Query.expand g config fuel line frame t st = .done (.ok u) st') ∨
        (rounds.length < min (Query.calls t).length 64 ∧
          Query.Fails g config fuel line frame u st'
            (Query.expand g config fuel line frame t st))) := by
  refine ⟨fun s => ⟨fun q => Query.mem_calls_iff, Query.pairwise_calls s⟩, ?_⟩
  obtain ⟨rounds, u, st', hrounds, hheads, hlowers, hends⟩ :=
    Query.expandUpTo_rounds g config fuel line frame Query.maxExpansions t st
  refine ⟨rounds, u, st', hrounds, hheads, Query.pairwise_rounds hheads, hlowers, ?_⟩
  rcases hends with ⟨hlength, hdone⟩ | hfails
  · refine .inl ⟨hlength, fun hfew => ?_, hdone⟩
    have hall := congrArg List.length hheads
    simp only [List.length_map, List.length_append, List.length_reverse] at hall
    rw [Query.maxExpansions] at hlength
    exact List.length_eq_zero_iff.1 (by omega)
  · exact .inr hfails

end TapScript
