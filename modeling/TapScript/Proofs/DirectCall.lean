import TapScript.Gateway.Device
import TapScript.Proofs.Assigned
import TapScript.Proofs.Enclosed

/-! # Calls assigned with and without parentheses

A statement `t = q(args)` carries out the query `q` on the text of its arguments as it stands. A
statement `t = (q(args))` is expanded: the calls in the arguments come first, then the query itself,
and the literal of its value is read back. So the two agree if nothing is called in the arguments,
and else the second one is the first one on arguments that have been expanded.

* `Exec.through` goes on with a value unless there is a mishap.
* `Query.value` carries out one query; `Query.expandUpTo_wrap_source` expands a query in
  parentheses.
* `Setup.statement_direct` and `Setup.statement_enclosed` say what the two statements do.
* `enclosed_call_agrees` compares them. -/

namespace TapScript

namespace Exec

variable {σ α β γ : Type}

/-- One computation behind another, unless the first one has met a mishap. -/
def through (x : Exec σ (Except Mishap α)) (f : α → Exec σ (Except Mishap β)) :
    Exec σ (Except Mishap β) := do
  match ← x with
  | .error mishap => return .error mishap
  | .ok a => f a

/-- What follows a value goes on with it. -/
theorem pure_through (a : α) (f : α → Exec σ (Except Mishap β)) :
    through (pure (.ok a)) f = f a := rfl

/-- It does not matter how a sequence of three parts is grouped. -/
theorem through_assoc (x : Exec σ (Except Mishap α)) (f : α → Exec σ (Except Mishap β))
    (f' : β → Exec σ (Except Mishap γ)) :
    (x.through f).through f' = x.through fun a => (f a).through f' := by
  simp only [through, bind_assoc]
  congr 1
  funext result
  cases result <;> rfl

section Returns

variable {x : Exec σ (Except Mishap α)} {P : α → Prop}
  (hx : x.Returns fun r => ∀ a, r = .ok a → P a)

include hx

/-- Only values that the first computation may have matter to the second one. -/
theorem through_congr {f f' : α → Exec σ (Except Mishap β)} (hf : ∀ a, P a → f a = f' a) :
    x.through f = x.through f' := by
  funext s
  have hs := hx s
  simp only [through, bind_apply]
  cases h : x s with
  | done result t =>
    rw [h] at hs
    cases result with
    | error mishap => rfl
    | ok a => exact congrFun (hf a (hs a rfl)) t
  | crashed crash t => rfl
  | exhausted => rfl

/-- What a sequence returns is a mishap or what its second part returns for a value of the first. -/
theorem returns_through {f : α → Exec σ (Except Mishap β)} {R : Except Mishap β → Prop}
    (hmishap : ∀ mishap, R (.error mishap)) (hf : ∀ a, P a → (f a).Returns R) :
    (x.through f).Returns R := by
  intro s
  refine Outcome.Meets.bind ((hx s).imp (fun result t hresult => ?_)
    (fun _ _ => trivial) fun h => h)
  cases result with
  | error mishap => exact hmishap mishap
  | ok a => exact hf a (hresult a rfl) t

end Returns

end Exec

namespace Query

/-! ## Expanding a call in parentheses -/

section Station

variable {ω : Type} (g : Gateway ω) (config : Config) (fuel line : Nat) (frame : Frame)

/-- Carries out a query and gives its value. -/
def value (b : Builtin) (args : Text) : Exec (Station ω) (Except Mishap Value) :=
  (command g config frame b args).through fun c =>
    (c.perform g config fuel line).through fun v => pure (.ok (v.getD .null))

/-- The arguments of a query are read as those of a query. -/
theorem command_isQuery {b : Builtin} (hb : b.isQuery) (args : Text) :
    (command g config frame b args).Returns fun r => ∀ c, r = .ok c → c.isQuery := by
  intro st
  refine (command_returns g config frame b args st).imp (fun r _ hr => ?_) (fun _ h => h) fun h => h
  intro c hc
  exact (hr c hc).isQuery hb

/-- A query that succeeds gives a value, which is no number. -/
theorem perform_isSome {c : Command} (hc : c.isQuery) :
    (c.perform g config fuel line).Returns fun r =>
      ∀ v, r = .ok v → ∃ w : Value, v = some w ∧ w.kind ≠ "number" := by
  intro st
  refine (c.perform_returns g config fuel line hc st).imp (fun r _ hr => ?_) (fun _ h => h)
    fun h => h
  intro v hv
  obtain ⟨w, rfl, hkind⟩ := hr
  exact ⟨w, (Except.ok.inj hv).symm, hkind⟩

/-- The value of a call inside a text is no number. -/
theorem value_returns {b : Builtin} (hb : b.isQuery) (args : Text) :
    (value g config fuel line frame b args).Returns fun r => ∀ v, r = .ok v →
      v.kind ≠ "number" := by
  refine Exec.returns_through (command_isQuery g config frame hb args) (fun _ => nofun)
    fun c hc => ?_
  refine Exec.returns_through (perform_isSome g config fuel line hc) (fun _ => nofun) fun v hv => ?_
  obtain ⟨w, rfl, hkind⟩ := hv
  refine Exec.returns_pure fun v hv => ?_
  rwa [← Except.ok.inj hv]

/-- A text without calls stays as it is. -/
theorem expandUpTo_of_none {t : Text} (h : last? t = none) (bound : Nat) :
    expandUpTo g config fuel line frame bound t = pure (.ok t) := by
  cases bound with
  | zero => rfl
  | succ bound => rw [expandUpTo, h]

/-- A round carries out the last query and goes on with the text in which it is replaced. -/
theorem expandUpTo_of_some {t : Text} {q : Query} (h : last? t = some q) (bound : Nat) :
    expandUpTo g config fuel line frame (bound + 1) t =
      (value g config fuel line frame q.builtin q.args).through fun v =>
        expandUpTo g config fuel line frame bound (q.replace v.literal) := by
  rewrite [value, Exec.through_assoc, expandUpTo, h]
  simp only [Exec.through_assoc, Exec.pure_through]
  refine congrArg _ (funext fun result => ?_)
  cases result with
  | error mishap => rfl
  | ok c =>
    dsimp only [Exec.through]
    refine congrArg _ (funext fun result => ?_)
    cases result <;> rfl

/-- Where there are no calls there is no last one. -/
theorem last?_eq_none_of_calls {t : Text} (h : calls t = []) : last? t = none := by
  rw [last?_eq_getLast?, h]
  rfl

/-- Replacing the last call by the literal of its value leaves one call less. -/
theorem length_calls_replace {t : Text} {q : Query} (h : last? t = some q) {v : Value}
    (hv : v.kind ≠ "number") : (calls (q.replace v.literal)).length + 1 = (calls t).length := by
  have hheads := map_head_calls h (Value.isWhole_literal hv) (Value.silent_literal hv)
  have hlength := congrArg List.length hheads
  simp only [List.length_append, List.length_map, List.length_singleton] at hlength
  exact hlength.symm

/-- Rounds for which there is no call left do nothing. -/
theorem expandUpTo_eq_expandUpTo {bound bound' : Nat} {t : Text} (h : (calls t).length ≤ bound)
    (h' : (calls t).length ≤ bound') :
    expandUpTo g config fuel line frame bound t = expandUpTo g config fuel line frame bound' t := by
  induction bound generalizing bound' t with
  | zero =>
    have hnone := last?_eq_none_of_calls (List.length_eq_zero_iff.1 (Nat.le_zero.1 h))
    rw [expandUpTo_of_none g config fuel line frame hnone,
      expandUpTo_of_none g config fuel line frame hnone]
  | succ bound ih =>
    cases hlast : last? t with
    | none =>
      rw [expandUpTo_of_none g config fuel line frame hlast,
        expandUpTo_of_none g config fuel line frame hlast]
    | some q =>
      have hpos := List.length_pos_of_mem (mem_calls_iff.2 (isCall_of_last? hlast))
      obtain ⟨bound', rfl⟩ := Nat.exists_eq_succ_of_ne_zero (n := bound') (by omega)
      rw [expandUpTo_of_some g config fuel line frame hlast,
        expandUpTo_of_some g config fuel line frame hlast]
      refine Exec.through_congr (value_returns g config fuel line frame (isQuery_of_last? hlast) _)
        fun v hv => ih ?_ ?_
      · have hlength := length_calls_replace hlast hv
        omega
      · have hlength := length_calls_replace hlast hv
        omega

/-- What a whole text is expanded to is whole. -/
theorem isWhole_expandUpTo (bound : Nat) {t : Text} (ht : Text.IsWhole t) :
    (expandUpTo g config fuel line frame bound t).Returns fun r =>
      ∀ u, r = .ok u → Text.IsWhole u := by
  have hdone : ∀ {t : Text}, Text.IsWhole t →
      (pure (.ok t) : Exec (Station ω) (Except Mishap Text)).Returns
        fun r => ∀ u, r = .ok u → Text.IsWhole u := by
    intro t ht
    refine Exec.returns_pure fun u hu => ?_
    rwa [← Except.ok.inj hu]
  induction bound generalizing t with
  | zero => exact hdone ht
  | succ bound ih =>
    cases hlast : last? t with
    | none =>
      rw [expandUpTo_of_none g config fuel line frame hlast]
      exact hdone ht
    | some q =>
      rw [expandUpTo_of_some g config fuel line frame hlast]
      refine Exec.returns_through (value_returns g config fuel line frame
        (isQuery_of_last? hlast) _) (fun _ => nofun) fun v hv => ih ?_
      exact (isCall_of_last? hlast).isWhole_replace ht (Value.isWhole_literal hv)

/-- There are no calls in the literal of a value. -/
theorem last?_wrap_literal {v : Value} (hv : v.kind ≠ "number") :
    last? (Text.wrap v.literal) = none := by
  have hcalls : calls v.literal = [] := by
    have hsilent := Value.silent_literal hv [] [] rfl
    rwa [List.append_nil] at hsilent
  refine last?_eq_none_of_calls ?_
  rw [calls_wrap (Value.isWhole_literal hv), hcalls]
  rfl

/-- A call alone in parentheses is replaced by its value in one round. -/
theorem expandUpTo_wrap_alone {b : Builtin} (hb : b.isQuery) {args : Text}
    (hargs : Text.IsWhole args) (h : last? args = none) (bound : Nat) :
    expandUpTo g config fuel line frame (bound + 1) (Text.wrap (alone b args).source) =
      (value g config fuel line frame b args).through fun v =>
        pure (.ok (Text.wrap v.literal)) := by
  rw [expandUpTo_of_some g config fuel line frame (last?_wrap_source_of_none hb hargs h)]
  refine Exec.through_congr (value_returns g config fuel line frame hb args) fun v hv => ?_
  have htext : ((alone b args).within ['('] [')']).replace v.literal = Text.wrap v.literal := by
    rw [replace_within]
    simp [alone, replace, Text.wrap]
  rw [htext, expandUpTo_of_none g config fuel line frame (last?_wrap_literal hv)]

/-- In parentheses, the calls in the arguments are carried out first, then the call itself on what
the arguments have become; its literal stays in the parentheses. -/
theorem expandUpTo_wrap_source {b : Builtin} (hb : b.isQuery) {args : Text}
    (hargs : Text.IsWhole args) {bound : Nat} (h : (calls args).length ≤ bound) :
    expandUpTo g config fuel line frame (bound + 1) (Text.wrap (alone b args).source) =
      (expandUpTo g config fuel line frame bound args).through fun args' =>
        (value g config fuel line frame b args').through fun v =>
          pure (.ok (Text.wrap v.literal)) := by
  induction bound generalizing args with
  | zero =>
    have hnone := last?_eq_none_of_calls (List.length_eq_zero_iff.1 (Nat.le_zero.1 h))
    rw [expandUpTo_wrap_alone g config fuel line frame hb hargs hnone]
    rfl
  | succ bound ih =>
    cases hlast : last? args with
    | none =>
      rw [expandUpTo_wrap_alone g config fuel line frame hb hargs hlast,
        expandUpTo_of_none g config fuel line frame hlast, Exec.pure_through]
    | some q =>
      rw [expandUpTo_of_some g config fuel line frame (last?_wrap_source_of_some hb hargs hlast),
        expandUpTo_of_some g config fuel line frame hlast, Exec.through_assoc]
      refine Exec.through_congr (value_returns g config fuel line frame (isQuery_of_last? hlast) _)
        fun v hv => ?_
      have hlength := length_calls_replace hlast hv
      have hwhole := (isCall_of_last? hlast).isWhole_replace hargs (Value.isWhole_literal hv)
      rw [← ih hwhole (by omega), replace_within, replace_within]
      simp [alone, source, Text.wrap]

end Station

end Query

/-! ## Reading a value back -/

/-- An expression in parentheses has the value of the expression. -/
theorem Written.expression?_wrap {env : Environment} {e : Written} {v : Value} {fixed : Bool}
    (h : Means env e v fixed) : env.expression? (Text.wrap (e.render 0)) = some v := by
  have hclosing : Token.scanFrom? .none [')'] = some [.sign ')'] := by
    rw [Token.scanFrom?_sign rfl, Token.scanFrom?]
    rfl
  have hscan : Token.scan? (Text.wrap (e.render 0)) =
      some (.sign '(' :: e.tokens 0 ++ [.sign ')']) := by
    rw [Token.scan?, Text.wrap, List.cons_append, Token.scanFrom?_sign rfl,
      e.scanFrom?_render 0 (Token.breaks_cons rfl rfl _), hclosing]
    rfl
  simp only [Environment.expression?, hscan, Expression.parse?_eq_some_iff.2
    (e.renders_tokens 0).wrap, eval?_eq_some_iff.2 h, Option.bind_eq_bind, Option.bind_some]

/-- The literal of a value is a written expression with a value of the same text. -/
theorem Value.exists_written_literal {v : Value} (hv : v.kind ≠ "number") (env : Environment)
    (hwords : ∀ w ∈ ["true".toList, "false".toList, "null".toList], env.frame.get? w = none) :
    ∃ (e : Written) (w : Value) (fixed : Bool),
      e.render 0 = v.literal ∧ e.Means env w fixed ∧ w.toText = v.toText := by
  cases v with
  | text t => exact ⟨.literal t, .text t, true, rfl, .literal t, rfl⟩
  | number x => exact absurd rfl hv
  | bool b =>
    cases b with
    | true =>
      exact ⟨.name ⟨"true".toList, rfl⟩, .bool true, false, rfl,
        .word (hwords _ (by simp)) (by simp [Environment.words]), rfl⟩
    | false =>
      exact ⟨.name ⟨"false".toList, rfl⟩, .bool false, false, rfl,
        .word (hwords _ (by simp)) (by simp [Environment.words]), rfl⟩
  | point p => exact ⟨.literal p.text, .text p.text, true, (literal_point p).symm, .literal _, rfl⟩
  | null =>
    exact ⟨.name ⟨"null".toList, rfl⟩, .null, false, rfl,
      .word (hwords _ (by simp)) (by simp [Environment.words]), rfl⟩

/-- A value in parentheses is read back, unless its literal spells a draw there. -/
theorem Environment.resolve_wrap_literal (env : Environment)
    (hwords : ∀ w ∈ ["true".toList, "false".toList, "null".toList], env.frame.get? w = none)
    {v : Value} (hv : v.kind ≠ "number")
    (hdraw : holdsDraw false (Text.wrap v.literal) = false) (d : Dice) :
    (env.resolve (Text.wrap v.literal) d).1.toText = v.toText := by
  obtain ⟨e, w, fixed, he, hmeans, htext⟩ := Value.exists_written_literal hv env hwords
  have hvalue := Written.expression?_wrap hmeans
  rw [he] at hvalue
  rw [resolve_eq (Text.trim_wrap _) hdraw hvalue, htext]

/-! ## The two statements -/

/-- What becomes of a statement that assigns the value of a computation at the station. -/
def Outcome.assigns {ω : Type} (name : Text) (s : Session ω) :
    Outcome (Station ω) (Except Mishap Value) → Outcome (Session ω) (Except Mishap Unit)
  | .done (.ok v) st => .done (.ok ()) { s with station := st, scope := s.scope.set name v }
  | .done (.error mishap) st => .done (.error mishap) { s with station := st }
  | .crashed crash st => .crashed crash { s with station := st }
  | .exhausted => .exhausted

/-- A call that stands alone is read as the call of its command. -/
theorem Builtin.call?_source {b : Builtin} (hb : b.isQuery) {args : Text}
    (hargs : Text.IsWhole args) : Builtin.call? (Query.alone b args).source = some (b, args) := by
  have hisName : Text.isName b.name.toList := by
    cases b with
    | getVar | waitForColor | waitForText | compareColor | getColor | getText | findText
    | findImage => rfl
    | _ => exact absurd hb (by decide)
  have hcall : Text.call? (Query.alone b args).source = some ⟨b.name.toList, args⟩ :=
    Text.call?_name_wrap hisName hargs
  simp only [Builtin.call?, hcall, Option.bind_eq_bind, Option.bind_some,
    Builtin.ofName?_eq_some_iff.2 rfl]

/-- Reads the literal of a value in parentheses. -/
def Query.readBack {ω : Type} (g : Gateway ω) (frame : Frame) (v : Value) :
    Exec (Station ω) (Except Mishap Value) := do
  return .ok (← reading g frame fun env dice => env.resolve (Text.wrap v.literal) dice)

/-- What starts with a parenthesis is no call. -/
theorem Text.call?_wrap (t : Text) : Text.call? (Text.wrap t) = none := by
  rw [Text.call?, Text.trim_wrap]
  rfl

namespace Setup

variable {ω : Type} (setup : Setup ω) (run : Function → Exec (Session ω) Flow) (number : Nat)
variable {name : Text} (hname : Text.isName name) {b : Builtin} (hb : b.isQuery)

include hname hb

/-- Without parentheses, the query is carried out on its arguments as they stand. -/
theorem statement_direct {args : Text} (hargs : Text.IsWhole args) (s : Session ω) :
    setup.statement run ⟨number, Assignment.source name (Query.alone b args).source⟩ s =
      (Query.value setup.gateway setup.config setup.fuel number s.scope.current b args
        s.station).assigns name s := by
  have hquery := Query.command_isQuery setup.gateway setup.config s.scope.current hb args s.station
  rw [setup.statement_command run number hname (Builtin.call?_source hb hargs)]
  simp only [perform, Session.frame, Session.lift, Exec.zoom, Exec.gets, Query.value, Exec.through,
    Exec.bind_apply]
  -- both sides end wherever the command does; a query that is done has a value
  cases hcommand : Query.command setup.gateway setup.config s.scope.current b args s.station with
  | exhausted => rfl
  | crashed crash st => rfl
  | done result st =>
    cases result with
    | error mishap => rfl
    | ok c =>
      rw [hcommand] at hquery
      have hvalue := Query.perform_isSome setup.gateway setup.config setup.fuel number
        (hquery c rfl) st
      simp only [Exec.bind_apply]
      cases hperform : c.perform setup.gateway setup.config setup.fuel number st with
      | exhausted => rfl
      | crashed crash st' => rfl
      | done result st' =>
        rw [hperform] at hvalue
        cases result with
        | error mishap => rfl
        | ok v =>
          obtain ⟨w, rfl, -⟩ := hvalue v rfl
          rfl

/-- In parentheses, the query is carried out on what its arguments are expanded to, and the literal
of its value is read back. -/
theorem statement_enclosed (hexit : name ≠ exitName) {args : Text} (hargs : Text.IsWhole args)
    (hcalls : (Query.calls args).length < Query.maxExpansions) (s : Session ω) :
    setup.statement run ⟨number, Assignment.source name (Text.wrap (Query.alone b args).source)⟩ s =
      ((((Query.expand setup.gateway setup.config setup.fuel number s.scope.current args).through
          fun args' =>
          Query.value setup.gateway setup.config setup.fuel number s.scope.current b args').through
        fun v => Query.readBack setup.gateway s.scope.current v) s.station).assigns name s := by
  -- in parentheses, the text is the call of neither a command nor a function
  have hcall : Builtin.call? (Text.wrap (Query.alone b args).source) = none := by
    rw [Builtin.call?, Text.call?_wrap]
    rfl
  have hfunction :
      setup.assignedCall? ⟨name, none, Text.trim (Text.wrap (Query.alone b args).source)⟩ =
      none := by
    rw [Text.trim_wrap, assignedCall?, Text.call?_wrap]
    rfl
  have hexpand : Query.expand setup.gateway setup.config setup.fuel number s.scope.current
      (Text.wrap (Query.alone b args).source) =
      ((Query.expand setup.gateway setup.config setup.fuel number s.scope.current args).through
          fun args' =>
          Query.value setup.gateway setup.config setup.fuel number s.scope.current b args').through
        fun v => pure (.ok (Text.wrap v.literal)) := by
    have hbound : (Query.calls args).length ≤ 63 := Nat.le_of_lt_succ hcalls
    rw [Exec.through_assoc, Query.expand, Query.expand, Query.maxExpansions,
      Query.expandUpTo_wrap_source _ _ _ _ _ hb hargs hbound,
      Query.expandUpTo_eq_expandUpTo _ _ _ _ _ hbound (Nat.le_succ_of_le hbound)]
  rw [setup.statement_value run number hname hcall hexit hfunction, Text.trim_wrap]
  simp only [Setup.expand, Session.frame, Exec.gets, Session.lift, Exec.zoom,
    Exec.bind_apply, hexpand]
  -- from here on it does not matter how the value was found
  generalize
    ((Query.expand setup.gateway setup.config setup.fuel number s.scope.current args).through
      fun args' =>
        Query.value setup.gateway setup.config setup.fuel number s.scope.current b args') = x
  simp only [Exec.through, Exec.bind_apply]
  cases x s.station with
  | exhausted => rfl
  | crashed crash st => rfl
  | done result st =>
    cases result with
    | error mishap => rfl
    | ok v =>
      simp only [Query.readBack, Setup.reading, Session.frame, Session.lift, Exec.zoom, Exec.gets,
        Exec.bind_apply, Exec.pure_apply]
      cases Query.reading setup.gateway s.scope.current
        (fun env dice => env.resolve (Text.wrap v.literal) dice) st <;> rfl

/-- To expand the arguments and then assign the call without parentheses is to carry out the query
on what the arguments are expanded to. -/
theorem expand_statement_direct {args : Text} (hargs : Text.IsWhole args) (s : Session ω) :
    ((setup.expand number args).through fun args' =>
        setup.statement run ⟨number, Assignment.source name (Query.alone b args').source⟩) s =
      (((Query.expand setup.gateway setup.config setup.fuel number s.scope.current args).through
          fun args' =>
            Query.value setup.gateway setup.config setup.fuel number s.scope.current b args')
        s.station).assigns name s := by
  have hwhole := Query.isWhole_expandUpTo setup.gateway setup.config setup.fuel number
    s.scope.current Query.maxExpansions hargs s.station
  rw [← Query.expand] at hwhole
  simp only [Exec.through, Setup.expand, Session.frame, Exec.gets, Session.lift, Exec.zoom,
    Exec.bind_apply]
  cases hexpand : Query.expand setup.gateway setup.config setup.fuel number s.scope.current args
    s.station with
  | exhausted => rfl
  | crashed crash st => rfl
  | done result st =>
    rw [hexpand] at hwhole
    cases result with
    | error mishap => rfl
    | ok args' =>
      dsimp only
      rw [setup.statement_direct run number hname hb (hwhole args' rfl)]
      cases Query.value setup.gateway setup.config setup.fuel number s.scope.current b args' st with
      | exhausted => rfl
      | crashed crash st' => rfl
      | done result st' => cases result <;> rfl

end Setup

/-- Two statements that assign to one variable have ended alike: both without having assigned, in
the same way and at the same station, or both with a value for the variable. The two values have the
same text, if the literal of the first one in parentheses spells no draw, and if the words for truth
values and for nothing found are not names of variables. -/
inductive AssignAlike {ω : Type} (name : Text) (s : Session ω) :
    Outcome (Session ω) (Except Mishap Unit) → Outcome (Session ω) (Except Mishap Unit) → Prop
  | failed (mishap : Mishap) (st : Station ω) :
    AssignAlike name s (.done (.error mishap) { s with station := st })
      (.done (.error mishap) { s with station := st })
  | crashed (crash : Crash) (st : Station ω) :
    AssignAlike name s (.crashed crash { s with station := st })
      (.crashed crash { s with station := st })
  | exhausted : AssignAlike name s .exhausted .exhausted
  | assigned (v v' : Value) (st st' : Station ω)
    (h : Environment.holdsDraw false (Text.wrap v.literal) = false →
      (∀ w ∈ ["true".toList, "false".toList, "null".toList], s.scope.current.get? w = none) →
      v'.toText = v.toText) :
    AssignAlike name s (.done (.ok ()) { s with station := st, scope := s.scope.set name v })
      (.done (.ok ()) { s with station := st', scope := s.scope.set name v' })

/-- Behind a look at the stop flag, a text is read and nothing else is done. -/
theorem Query.reading_apply {ω α : Type} {g : Gateway ω} {st : Station ω} {reply : Unit}
    (h : ask g .checkpoint st = .done reply (st.answered g .checkpoint)) (frame : Frame)
    (read : Environment → Dice → α × Dice) :
    let st' := st.answered g .checkpoint
    let result := read ⟨frame, st'.stopped⟩ st'.dice
    reading g frame read st = .done result.1 { st' with dice := result.2 } := by
  have hstop : stopRequested g st =
      .done (st.answered g .checkpoint).stopped (st.answered g .checkpoint) := by
    rw [stopRequested, Exec.bind_done h]
    rfl
  exact Exec.bind_done hstop

/-- A statement that reads the value back that another one assigns ends like the other one. -/
theorem assignAlike_readBack {ω : Type} {g : Gateway ω} (name : Text) {s : Session ω}
    (hlook : ∀ stopped w crash, (g.answer .checkpoint stopped w).outcome ≠ .error crash)
    {x : Exec (Station ω) (Except Mishap Value)}
    (hx : x.Returns fun r => ∀ v, r = .ok v → v.kind ≠ "number") :
    AssignAlike name s ((x s.station).assigns name s)
      (((x.through fun v => Query.readBack g s.scope.current v) s.station).assigns name s) := by
  have hkind := hx s.station
  simp only [Exec.through, Exec.bind_apply]
  cases h : x s.station with
  | exhausted => exact .exhausted
  | crashed crash st => exact .crashed crash st
  | done result st =>
    rw [h] at hkind
    cases result with
    | error mishap => exact .failed mishap st
    | ok v =>
      obtain ⟨reply, -, hask⟩ | ⟨crash, hcrash, -⟩ := ask_cases g .checkpoint st
      · dsimp only
        rw [Query.readBack, Exec.bind_done (Query.reading_apply hask _ _)]
        refine .assigned v _ st _ fun hdraw hwords => ?_
        exact Environment.resolve_wrap_literal _ hwords (hkind v rfl) hdraw _
      · exact absurd hcrash (hlook _ _ crash)

/-- **A call in parentheses is the call on expanded arguments.** From every session, the statement
`t = (q(args))` ends as if the arguments had been expanded first and the statement `t = q(args')`
had been carried out on what they have become. If nothing is called in the arguments, this is the
statement `t = q(args)` itself. Looks at the stop flag must not crash. -/
theorem enclosed_call_agrees {ω : Type} (setup : Setup ω) (run : Function → Exec (Session ω) Flow)
    (number : Nat) {name : Text} (hname : Text.isName name) (hexit : name ≠ exitName) {b : Builtin}
    (hb : b.isQuery) {args : Text} (hargs : Text.IsWhole args)
    (hcalls : (Query.calls args).length < Query.maxExpansions)
    (hlook : ∀ stopped w crash, (setup.gateway.answer .checkpoint stopped w).outcome ≠ .error crash)
    (s : Session ω) :
    AssignAlike name s
        (((setup.expand number args).through fun args' =>
          setup.statement run ⟨number, Assignment.source name (Query.alone b args').source⟩) s)
        (setup.statement run ⟨number, Assignment.source name
          (Text.wrap (Query.alone b args).source)⟩ s) ∧
      (Query.calls args = [] →
        AssignAlike name s
          (setup.statement run ⟨number, Assignment.source name (Query.alone b args).source⟩ s)
          (setup.statement run ⟨number, Assignment.source name
            (Text.wrap (Query.alone b args).source)⟩ s)) := by
  have hagrees : AssignAlike name s
      (((setup.expand number args).through fun args' =>
        setup.statement run ⟨number, Assignment.source name (Query.alone b args').source⟩) s)
      (setup.statement run
        ⟨number, Assignment.source name (Text.wrap (Query.alone b args).source)⟩ s) := by
    rw [setup.statement_enclosed run number hname hb hexit hargs hcalls,
      setup.expand_statement_direct run number hname hb hargs]
    refine assignAlike_readBack name hlook ?_
    refine Exec.returns_through (P := fun _ => True) (fun st => ?_) (fun _ => nofun)
      fun args' _ => Query.value_returns _ _ _ _ _ hb args'
    exact (Exec.returns_true _ st).imp (fun _ _ _ _ _ => trivial) (fun _ h => h) fun h => h
  refine ⟨hagrees, fun hnone => ?_⟩
  have hexpand : setup.expand number args = pure (.ok args) := by
    funext s
    show Session.lift (Query.expand _ _ _ _ s.scope.current args) s = _
    rw [Query.expand, Query.expandUpTo_of_none _ _ _ _ _ (Query.last?_eq_none_of_calls hnone)]
    rfl
  rwa [hexpand, Exec.pure_through] at hagrees

/-- A query whose argument is a literal with a parenthesis in it. -/
theorem enclosed_call_agrees_literal :
    Text.isName "t".toList ∧ "t".toList ≠ exitName ∧ Builtin.getVar.isQuery ∧
      Text.IsWhole "\"a(\"".toList ∧ Query.calls "\"a(\"".toList = [] ∧
      (∀ stopped w crash, (Device.gateway.answer .checkpoint stopped w).outcome ≠ .error crash) ∧
      ∀ (run : Function → Exec (Session Device) Flow) (st : Station Device),
        AssignAlike "t".toList (Session.start st)
          (Setup.statement ⟨Device.gateway, {}, .empty, 20⟩ run ⟨1, "t = getVar(\"a(\")".toList⟩
            (Session.start st))
          (Setup.statement ⟨Device.gateway, {}, .empty, 20⟩ run ⟨1, "t = (getVar(\"a(\"))".toList⟩
            (Session.start st)) := by
  have hcalls : Query.calls "\"a(\"".toList = [] := by decide +kernel
  have hlook : ∀ stopped w crash,
      (Device.gateway.answer .checkpoint stopped w).outcome ≠ .error crash :=
    fun _ _ _ => nofun
  refine ⟨by decide, by decide, by decide, by decide, hcalls, hlook, fun run st => ?_⟩
  have hagrees := @enclosed_call_agrees Device ⟨Device.gateway, {}, .empty, 20⟩ run 1 "t".toList
    (by decide) (by decide) .getVar (by decide) "\"a(\"".toList (by decide)
      (by rw [hcalls]; decide) hlook
    (Session.start st)
  exact hagrees.2 hcalls

/-- The text that a statement has left in the variable. -/
def Outcome.text? {ω : Type} (name : Text) : Outcome (Session ω) (Except Mishap Unit) → Option Text
  | .done (.ok ()) s => (s.scope.current.get? name).map Value.toText
  | _ => none

/-- A query in the argument is carried out in parentheses only. A value that spells a draw is drawn
in parentheses only. -/
theorem enclosed_call_differs :
    let setup : Setup Device := ⟨Device.gateway, {}, .empty, 20⟩
    let s : Session Device :=
      Session.start { state := { stored := [("a", "b"), ("b", "c"), ("d", "random(7,7)")] } }
    let assigned := fun statement : String =>
      (setup.statement (fun _ => return .normal) ⟨1, statement.toList⟩ s).text? "t".toList
    assigned "t = getVar(getVar(\"a\"))" = some [] ∧
      assigned "t = (getVar(getVar(\"a\")))" = some "c".toList ∧
      assigned "t = getVar(\"d\")" = some "random(7,7)".toList ∧
      assigned "t = (getVar(\"d\"))" = some "7".toList := by
  decide +kernel

end TapScript
