import TapScript.Proofs.Blocks
import TapScript.Proofs.Waiting

/-! # Termination

A script without loops ends, however its lines are nested and whichever functions call each other,
provided that each of its commands does. What bounds a run is first the number of calls that may
still be nested, and second, within one call, the number of lines that are left.

* `Setup.statement_settles` is about a statement, given that the bodies of functions settle one
  level deeper.
* `Setup.walk_settles` is about walks, by induction on the two bounds.
* `blocks_advance_and_runs_end` puts the bounds of blocks and the end of runs together. -/

namespace TapScript

open Exec

variable {ω : Type}

/-- None of the lines is the header of a loop. -/
def Line.LoopFree (lines : List Line) : Prop :=
  ∀ line ∈ lines, condition? "while".toList line.text = none

instance (lines : List Line) : Decidable (Line.LoopFree lines) :=
  inferInstanceAs (Decidable (∀ line ∈ lines, Line.condition? "while".toList line.text = none))

/-- A part of lines without loops has none. -/
theorem Line.LoopFree.of_isInfix {lines part : List Line} (h : LoopFree lines)
    (hpart : part <:+: lines) : LoopFree part :=
  fun line hline => h line (hpart.subset hline)

section Queries

variable {g : Gateway ω} {config : Config} (hg : g.Completes config)

include hg

/-! ## Queries -/

/-- A command that is issued settles, if all commands complete. -/
theorem Command.perform_settles {b : Builtin} {c : Command} (hc : b.Issues config c) (line : Nat)
    (st : Station ω) : Settles (fun n => c.perform g config n line) (fun _ _ => True) st :=
  .of_prolongs (fun _ _ hmn => c.perform_prolongs g hmn config line) (hg b c hc line st)

namespace Query

omit hg in
/-- Reading the arguments settles, with a command that was issued by them. -/
theorem command_settles (frame : Frame) (b : Builtin) (args : Text) (st : Station ω) :
    Settles (fun _ => command g config frame b args)
      (fun result _ => ∀ c, result = .ok c → b.Issues config c) st :=
  .of_stepless (reading_stepless g frame _) (command_returns g config frame b args st)

/-- By induction on the rounds. -/
theorem expandUpTo_settles (line : Nat) (frame : Frame) (rounds : Nat) (t : Text) (st : Station ω) :
    Settles (fun n => expandUpTo g config n line frame rounds t) (fun _ _ => True) st := by
  induction rounds generalizing t st with
  | zero => exact .pure trivial
  | succ rounds ih =>
    unfold expandUpTo
    cases last? t with
    | none => exact .pure trivial
    | some q =>
      refine (command_settles frame q.builtin q.args st).bind fun result st₁ hresult => ?_
      cases result with
      | error mishap => exact .pure trivial
      | ok c =>
        refine (Command.perform_settles hg (hresult c rfl) line st₁).bind fun value st₂ _ => ?_
        cases value with
        | error mishap => exact .pure trivial
        | ok v => exact ih _ st₂

/-- Testing a condition at the station settles. -/
theorem test_settles (line : Nat) (frame : Frame) (condition : Text) (st : Station ω) :
    Settles (fun n => test g config n line frame condition) (fun _ _ => True) st := by
  refine (expandUpTo_settles hg line frame maxExpansions condition st).bind fun expanded st₁ _ => ?_
  cases expanded with
  | error mishap =>
    exact ((report_stepless g line mishap).settles st₁).bind fun _ _ _ => .pure trivial
  | ok t => exact (reading_stepless g frame _).settles st₁

end Query

end Queries

/-! ## Statements -/

/-- A chain of branches passes over some of the lines behind its header. -/
theorem Setup.chain_returns (setup : Setup ω) (run : List Line → Exec (Session ω) Flow)
    (condition : Option Text) (taken : Option Flow) (lines : List Line) :
    (setup.chain run condition taken lines).Returns fun result => result.1 <:+ lines.tail := by
  fun_induction Setup.chain setup run condition taken lines with
  | case1 condition taken => exact returns_pure List.suffix_rfl
  | case2 condition taken line rest body behind ih =>
    have hbehind : behind <:+ rest := Block.cut_isSuffix line rest
    refine returns_bind fun taken' => ?_
    cases behind.head?.bind fun next => Line.alternative? next.text with
    | none => exact returns_pure hbehind
    | some condition =>
      intro s
      exact (ih taken' condition s).imp (fun _ _ h => (h.trans (List.tail_suffix _)).trans hbehind)
        fun _ h => h

/-- There are `d` calls around the current statement. -/
def Session.AtDepth {α : Type} (d : Nat) (_ : α) (s : Session ω) : Prop := s.scope.depth = d

/-- The setup whose waits may take `n` steps each. -/
def Setup.allowing (setup : Setup ω) (n : Nat) : Setup ω := { setup with fuel := n }

namespace Setup

variable {α : Type} {setup : Setup ω} {d : Nat} {s : Session ω} (hs : s.scope.depth = d)

include hs

/-- What settles at the station settles in the session, and the depth of calls is the same. -/
theorem lift_settles {x : Nat → Exec (Station ω) α} (hx : ∀ st, Settles x (fun _ _ => True) st) :
    Settles (fun n => Session.lift (x n)) (Session.AtDepth d) s :=
  .lift ((hx s.station).imp fun _ _ _ => hs)

/-- What takes no steps at the station settles in the session. -/
theorem lift_settles_of_stepless {x : Exec (Station ω) α} (hx : x.Stepless) :
    Settles (fun _ => Session.lift x) (Session.AtDepth d) s :=
  lift_settles hs hx.settles

/-- Reading the frame settles. -/
theorem frame_settles : Settles (fun _ => Session.frame) (Session.AtDepth d) s := .gets hs

/-- Taking down a notice settles. -/
theorem note_settles (level : Level) (message : String) (fields : List (String × String)) :
    Settles (fun _ => Session.note level message fields) (Session.AtDepth d) s :=
  lift_settles_of_stepless hs (stepless_modify _)

/-- Looking at the flag settles. -/
theorem stopRequested_settles :
    Settles (fun n => (setup.allowing n).stopRequested) (Session.AtDepth d) s :=
  lift_settles_of_stepless hs (stopRequested_stepless setup.gateway)

/-- Reading the variables settles. -/
theorem reading_settles (read : Environment → Dice → α × Dice) :
    Settles (fun n => (setup.allowing n).reading read) (Session.AtDepth d) s :=
  (frame_settles hs).bind fun frame _ ht =>
    lift_settles_of_stepless ht (Query.reading_stepless setup.gateway frame read)

/-- Delivering a result settles. -/
theorem deliver_settles (target : Option Text) (v : Option Value) :
    Settles (fun _ => deliver target v) (Session.AtDepth d) s := by
  cases target with
  | none => exact .pure hs
  | some name =>
    cases v with
    | none => exact .pure hs
    | some v => exact .modify hs

/-- Setting the flag by an assignment settles. -/
theorem assignExit_settles (line : Line) (condition : Text) :
    Settles (fun n => (setup.allowing n).assignExit line condition) (Session.AtDepth d) s := by
  refine (reading_settles hs _).bind fun holds t ht => ?_
  cases holds with
  | false => exact .pure ht
  | true => exact (note_settles ht _ _ _).bind fun _ _ hu =>
    lift_settles_of_stepless hu (stepless_modify _)

/-- The body of a function runs one level deeper, and behind it the level is the old one. -/
theorem inCall_settles {body : Nat → Exec (Session ω) Flow}
    (hbody : ∀ t : Session ω, t.scope.depth = d + 1 → Settles body (Session.AtDepth (d + 1)) t)
    (bindings : List (Text × Value)) :
    Settles (fun n => Session.inCall bindings (body n)) (Session.AtDepth d) s := by
  refine Settles.bind (Q := Session.AtDepth d) (.gets hs) fun loops t ht => ?_
  refine Settles.bind (Q := Session.AtDepth (d + 1)) (.modify ?_) fun _ u hu => ?_
  · show (t.scope.enter bindings).depth = d + 1
    rw [Scope.depth_enter, ht]
  refine (hbody u hu).bind fun _ v hv => ?_
  refine Settles.bind (Q := Session.AtDepth (d + 1)) (.gets hv) fun result w hw => ?_
  refine Settles.bind (Q := Session.AtDepth d) (.modify ?_) fun _ _ hx => .pure hx
  show w.scope.leave.2.depth = d
  rw [Session.AtDepth, Scope.depth] at hw
  unfold Scope.leave
  cases hcallers : w.scope.callers with
  | nil =>
    rw [hcallers] at hw
    cases hw
  | cons caller rest =>
    rw [hcallers, List.length_cons] at hw
    show rest.length = d
    omega

variable (hg : setup.gateway.Completes setup.config)

include hg

/-- Putting the values in the place of the calls settles. -/
theorem expand_settles (line : Nat) (t : Text) :
    Settles (fun n => (setup.allowing n).expand line t) (Session.AtDepth d) s :=
  (frame_settles hs).bind fun frame _ ht =>
    lift_settles ht fun st => Query.expandUpTo_settles hg line frame _ t st

/-- Testing a condition in the session settles. -/
theorem test_settles (line : Nat) (condition : Text) :
    Settles (fun n => (setup.allowing n).test line condition) (Session.AtDepth d) s :=
  (frame_settles hs).bind fun frame _ ht =>
    lift_settles ht fun st => Query.test_settles hg line frame condition st

/-- Performing a command in the session settles. -/
theorem perform_settles (line : Nat) (b : Builtin) (args : Text) :
    Settles (fun n => (setup.allowing n).perform line b args) (Session.AtDepth d) s := by
  refine (frame_settles hs).bind fun frame _ ht => lift_settles ht fun st => ?_
  refine (Query.command_settles frame b args st).bind fun result st₁ hresult => ?_
  cases result with
  | error mishap => exact .pure trivial
  | ok c => exact Command.perform_settles hg (hresult c rfl) line st₁

section Run

variable {run : Nat → Function → Exec (Session ω) Flow}
  (hrun : ∀ f ∈ setup.functions.functions, d < setup.config.maxCallDepth → ∀ t : Session ω,
    t.scope.depth = d + 1 → Settles (run · f) (Session.AtDepth (d + 1)) t)

include hrun

/-- A call settles if the bodies of functions do one level deeper. -/
theorem call_settles (line : Line) {f : Function} (hf : f ∈ setup.functions.functions) (args : Text)
    (target : Option Text) :
    Settles (fun n => (setup.allowing n).call (run n) line f args target)
      (Session.AtDepth d) s := by
  refine Settles.bind (Q := fun depth t => depth = d ∧ t.scope.depth = d) (.gets ⟨hs, hs⟩)
    fun depth t ht => ?_
  obtain ⟨rfl, ht⟩ := ht
  by_cases hdeep : setup.config.maxCallDepth ≤ depth
  · refine .of_le 0 (fun n _ => if_pos hdeep) ?_
    exact Settles.pure (a := Except.error (Mishap.tooDeep setup.config.maxCallDepth)) ht
  · refine .of_le 0 (fun n _ => if_neg hdeep) ?_
    refine (expand_settles ht hg _ _).bind fun expanded u hu => ?_
    cases expanded with
    | error mishap => exact .pure hu
    | ok expanded =>
      refine (reading_settles hu _).bind fun values v hv => ?_
      have hbody : ∀ {w : Session ω}, w.scope.depth = depth → Settles
          (fun n => do
            deliver target
              (← Session.inCall (f.params.zip (values.map fun v => Value.text v.toText)) (run n f))
            return (.ok () : Except Mishap Unit))
          (Session.AtDepth depth) w := by
        intro w hw
        refine (inCall_settles hw (hrun f hf (Nat.lt_of_not_le hdeep)) _).bind fun result _ hx => ?_
        exact (deliver_settles hx target result).bind fun _ _ hy => .pure hy
      exact Settles.ite (fun _ => (note_settles hv _ _ _).bind fun _ _ hw => hbody hw)
        fun _ => hbody hv

/-- An assignment settles if the function that it calls does. -/
theorem assign_settles (line : Line) (a : Assignment) :
    Settles (fun n => (setup.allowing n).assign (run n) line a) (Session.AtDepth d) s := by
  have hsame : ∀ n, (setup.allowing n).assignedCall? a = setup.assignedCall? a := fun _ => rfl
  simp only [assign, hsame]
  cases hcall : setup.assignedCall? a with
  | some call =>
    -- the function that is called is one of the script's
    have hmem : call.1 ∈ setup.functions.functions := by
      simp only [assignedCall?, Option.bind_eq_bind, Option.bind_eq_some_iff] at hcall
      obtain ⟨_, -, c, -, f, hf, heq⟩ := hcall
      cases heq
      exact List.mem_of_find?_eq_some hf
    exact call_settles hs hg hrun line hmem call.2 _
  | none =>
    refine (expand_settles hs hg _ _).bind fun expanded t ht => ?_
    cases expanded with
    | error mishap => exact .pure ht
    | ok expanded =>
      refine (reading_settles ht _).bind fun value u hu => ?_
      cases a.op with
      | none => exact Settles.bind (Q := Session.AtDepth d) (.modify hu) fun _ _ hv => .pure hv
      | some op =>
        refine Settles.bind (Q := Session.AtDepth d) (.gets hu) fun current v hv => ?_
        cases Assignment.combine current op value with
        | error mishap => exact .pure hv
        | ok w => exact Settles.bind (Q := Session.AtDepth d) (.modify hv) fun _ _ hx => .pure hx

/-- A statement settles if the bodies of functions settle one level deeper, and behind it the level
is the old one. -/
theorem statement_settles (line : Line) :
    Settles (fun n => (setup.allowing n).statement (run n) line) (Session.AtDepth d) s := by
  simp only [statement]
  refine Settles.ite (fun _ => .pure hs) fun _ => ?_
  cases builtinCall? (Text.trim line.text) (Assignment.ofText? (Text.trim line.text)) with
  | some call =>
    refine (perform_settles hs hg _ _ _).bind fun result t ht => ?_
    cases result with
    | error mishap => exact .pure ht
    | ok v => exact (deliver_settles ht _ v).bind fun _ _ hu => .pure hu
  | none =>
    cases Assignment.ofText? (Text.trim line.text) with
    | some a =>
      refine Settles.ite (fun _ => ?_) fun _ => assign_settles hs hg hrun line a
      exact (assignExit_settles hs line _).bind fun _ _ ht => .pure ht
    | none =>
      cases Text.call? (Text.trim line.text) with
      | none => exact .pure hs
      | some c =>
        have hsame : ∀ n, (setup.allowing n).functions.get? c.name = setup.functions.get? c.name :=
          fun _ => rfl
        simp only [hsame]
        cases hget : setup.functions.get? c.name with
        | none => exact .pure hs
        | some f => exact call_settles hs hg hrun line (List.mem_of_find?_eq_some hget) _ _

end Run

section Branches

variable {run : Nat → List Line → Exec (Session ω) Flow}

/-- Trying a branch settles if its body does. -/
theorem branch_settles (line : Line) {body : List Line}
    (hrun : ∀ t : Session ω, t.scope.depth = d → Settles (run · body) (Session.AtDepth d) t)
    (condition : Option Text) (taken : Option Flow) :
    Settles (fun n => (setup.allowing n).branch (run n) line body condition taken)
      (Session.AtDepth d) s := by
  cases taken with
  | some flow => exact .pure hs
  | none =>
    have hbody : ∀ t : Session ω, t.scope.depth = d →
        Settles (fun n => some <$> run n body) (Session.AtDepth d) t :=
      fun t ht => (hrun t ht).map fun _ _ hu => hu
    cases condition with
    | none => exact hbody s hs
    | some condition =>
      refine (test_settles hs hg _ _).bind fun holds t ht => ?_
      exact Settles.ite (fun _ => hbody t ht) fun _ => .pure ht

/-- The branches of a chain settle if shorter parts of the lines do. -/
theorem chain_settles (condition : Option Text) (taken : Option Flow) {lines : List Line}
    (hrun : ∀ body, body <:+: lines → body.length < lines.length → ∀ t : Session ω,
      t.scope.depth = d → Settles (run · body) (Session.AtDepth d) t) :
    Settles (fun n => (setup.allowing n).chain (run n) condition taken lines)
      (Session.AtDepth d) s := by
  -- each branch is cut off, so the induction is on the number of lines
  induction hlength : lines.length using Nat.strongRecOn generalizing lines condition taken s with
  | ind length ih =>
    cases lines with
    | nil =>
      simp only [chain]
      exact .pure hs
    | cons line rest =>
      have hbody := Block.cut_isInfix line rest
      have hbehind := Block.cut_isSuffix line rest
      have hless : ∀ part : List Line, part.length ≤ rest.length →
          part.length < (line :: rest).length :=
        fun part h => by rw [List.length_cons]; omega
      have hbranch := hrun _ (hbody.trans (List.suffix_cons line rest).isInfix)
        (hless _ hbody.length_le)
      rw [funext fun n => chain.eq_def (setup.allowing n) (run n) condition taken (line :: rest)]
      refine (branch_settles hs hg line hbranch condition taken).bind fun taken' t ht => ?_
      cases (Block.cut (line :: rest)).2.head?.bind fun next => Line.alternative? next.text with
      | none => exact .pure ht
      | some condition =>
        refine ih _ (hlength ▸ hless _ hbehind.length_le) ht condition taken'
          (fun part hpart hshort => ?_) rfl
        exact hrun part (hpart.trans (hbehind.isInfix.trans (List.suffix_cons line rest).isInfix))
          (hless part (Nat.le_trans (Nat.le_of_lt hshort) hbehind.length_le))

end Branches

end Setup

/-! ## Walks -/

/-- Without its keyword a line is no loop. -/
theorem Line.kind_ne_loop {t : Text} (h : condition? "while".toList t = none) (condition : Text) :
    kind t ≠ .loop condition := by
  unfold kind
  rw [h]
  dsimp only
  cases condition? "if".toList t with
  | some condition => exact nofun
  | none =>
    dsimp only
    split
    · exact nofun
    · split
      · exact nofun
      · split
        · exact nofun
        · split <;> exact nofun

namespace Setup

variable {setup : Setup ω} (hg : setup.gateway.Completes setup.config)

include hg

section Walk

variable {d : Nat} (hrun : ∀ k, ∀ f ∈ setup.functions.functions, d < setup.config.maxCallDepth →
  ∀ t : Session ω, t.scope.depth = d + 1 →
    Settles (fun n => (setup.allowing n).walk (n - k) f.body) (Session.AtDepth (d + 1)) t)

include hrun

/-- What is done at one line settles if walks through shorter parts of the lines do. Whatever the
line is, what is walked through behind it or inside it is such a part. -/
theorem takeUp_settles {line : Line} (hline : Line.condition? "while".toList line.text = none)
    {rest : List Line} {k : Nat}
    (hpart : ∀ part, part <:+: line :: rest → part.length < (line :: rest).length →
      ∀ t : Session ω, t.scope.depth = d →
        Settles (fun n => (setup.allowing n).walk (n - k) part) (Session.AtDepth d) t)
    {s : Session ω} (hs : s.scope.depth = d) :
    Settles (fun n => (setup.allowing n).walk (n - k + 1) (line :: rest))
      (Session.AtDepth d) s := by
  -- what stands behind the line, or behind its block, is shorter than the lines
  have hsuffix : ∀ part, part <:+ rest → ∀ t : Session ω, t.scope.depth = d →
      Settles (fun n => (setup.allowing n).walk (n - k) part) (Session.AtDepth d) t := by
    intro part h
    have hle := h.length_le
    refine hpart part (h.trans (List.suffix_cons line rest)).isInfix ?_
    rw [List.length_cons]
    omega
  have hrest := hsuffix rest List.suffix_rfl
  have hbehind := hsuffix _ (Block.cut_isSuffix line rest)
  simp only [walk]
  refine (stopRequested_settles hs).bind fun stopped t ht =>
    Settles.ite (fun _ => .pure ht) fun _ => ?_
  refine Settles.bind (lift_settles_of_stepless ht
    (ask_stepless setup.gateway (.visit line.number))) fun _ u hu => ?_
  -- whatever kind of line it is, such a part is walked through in the end, or nothing
  cases hkind : Line.kind line.text with
  | loop condition => exact absurd hkind (Line.kind_ne_loop hline condition)
  | branch condition =>
    have hchain := (chain_settles hu hg (some condition) none hpart).returning
      fun n => chain_returns (setup.allowing n) _ (some condition) none (line :: rest)
    refine hchain.bind fun result v hv => ?_
    obtain ⟨hresult, hv⟩ := hv
    refine Settles.ite (fun _ => ?_) fun _ => hsuffix _ hresult v hv
    refine Settles.bind (Q := Session.AtDepth d) (.gets hv) fun loops w hw => ?_
    refine Settles.ite (fun _ => .pure hw) fun _ => ?_
    exact (note_settles hw _ _ _).bind fun _ x hx => hsuffix _ hresult x hx
  | header =>
    refine Settles.ite (fun _ => ?_) fun _ => hbehind u hu
    exact (lift_settles_of_stepless hu (complain_stepless setup.gateway _ _ _)).bind
      fun _ v hv => hbehind v hv
  | leave => exact .pure hu
  | closer => exact hrest u hu
  | quit =>
    refine (note_settles hu _ _ _).bind fun _ v hv => ?_
    exact (lift_settles_of_stepless hv (stepless_modify _)).bind fun _ w hw => .pure hw
  | statement =>
    refine (statement_settles hu hg (hrun k) line).bind fun result v hv => ?_
    cases result with
    | error mishap =>
      refine (lift_settles_of_stepless hv (Query.report_stepless setup.gateway _ mishap)).bind
        fun _ w hw => ?_
      exact hrest w hw
    | ok _ => exact hrest v hv

/-- A walk settles if the bodies of functions settle one level deeper. The induction is on the
number of lines. -/
theorem walk_settles_of_calls {lines : List Line} (hlines : Line.LoopFree lines) (k : Nat)
    {s : Session ω} (hs : s.scope.depth = d) :
    Settles (fun n => (setup.allowing n).walk (n - k) lines) (Session.AtDepth d) s := by
  induction hlength : lines.length using Nat.strongRecOn generalizing lines k s with
  | ind length ih =>
    -- `k` steps have been made before, and one is made for the first line
    refine .step (fun n m => (setup.allowing n).walk m lines) k ?_
    cases lines with
    | nil =>
      simp only [walk]
      exact .pure hs
    | cons line rest =>
      refine takeUp_settles hg hrun (hlines line (List.mem_cons_self ..))
        (fun part hpart hshort t ht => ?_) hs
      exact ih part.length (hlength ▸ hshort) (hlines.of_isInfix hpart) (k + 1) ht rfl

end Walk

variable (hfunctions : ∀ f ∈ setup.functions.functions, Line.LoopFree f.body)

include hfunctions

/-- Walks through lines without loops settle. The induction is on the number of calls that may still
be nested. -/
theorem walk_settles {lines : List Line} (hlines : Line.LoopFree lines) (k : Nat) (s : Session ω) :
    Settles (fun n => (setup.allowing n).walk (n - k) lines) (Session.AtDepth s.scope.depth) s := by
  have hnested : ∀ (left d : Nat), setup.config.maxCallDepth ≤ d + left → ∀ {lines : List Line},
      Line.LoopFree lines → ∀ (k : Nat) {t : Session ω}, t.scope.depth = d →
      Settles (fun n => (setup.allowing n).walk (n - k) lines) (Session.AtDepth d) t := by
    intro left
    induction left with
    | zero =>
      intro d hd lines hlines k t ht
      refine walk_settles_of_calls hg (fun k f hf hlt => ?_) hlines k ht
      omega
    | succ left ih =>
      intro d hd lines hlines k t ht
      refine walk_settles_of_calls hg (fun k f hf hlt u hu => ?_) hlines k ht
      exact ih (d + 1) (by omega) (hfunctions f hf) k hu
  exact hnested setup.config.maxCallDepth s.scope.depth (by omega) hlines k rfl

end Setup

/-- A script without loops settles. -/
theorem runScript_settles {g : Gateway ω} {config : Config} (hg : g.Completes config)
    {lines : List Line} (hlines : Line.LoopFree lines) (s : Session ω) :
    Settles (fun n => runScript g config n lines) (Session.AtDepth s.scope.depth) s := by
  have hfunctions : ∀ f ∈ (Registry.ofLines lines).1.functions, Line.LoopFree f.body :=
    fun f hf => hlines.of_isInfix (Registry.body_isInfix hf)
  refine (Setup.lift_settles_of_stepless rfl (stepless_modify _)).bind fun _ t ht => ?_
  refine (Setup.note_settles ht _ _ _).bind fun _ u hu => ?_
  have hwalk := @Setup.walk_settles ω ⟨g, config, (Registry.ofLines lines).1, 0⟩ hg hfunctions
    lines hlines 0 u
  rw [hu] at hwalk
  exact hwalk

/-- Blocks, chains of branches and definitions stay within the lines and go on behind their headers,
and a script without loops ends.

* A block ends at its header or at a line behind it, and its body is a part of the lines behind the
  header.
* Behind a block that is cut off, and behind a chain of branches, a walk goes on with lines behind
  the header.
* Each definition stands behind the block of the definition before it.
* If every command ends, then so does a script without loops, however deep calls may nest: with
  enough steps it always ends in the same way. -/
theorem blocks_advance_and_runs_end :
    (∀ (lines : List Line) (i : Nat), i < lines.length →
      i ≤ Block.finish lines i ∧ Block.finish lines i ≤ lines.length - 1 ∧
        Block.body lines i (Block.finish lines i) <:+: lines.drop (i + 1)) ∧
    (∀ (line : Line) (rest : List Line),
      (Block.cut (line :: rest)).1 <:+: rest ∧ (Block.cut (line :: rest)).2 <:+ rest) ∧
    (∀ {ω : Type} (setup : Setup ω) (run : List Line → Exec (Session ω) Flow)
      (condition : Option Text) (taken : Option Flow) (line : Line) (rest : List Line),
      (setup.chain run condition taken (line :: rest)).Returns fun result => result.1 <:+ rest) ∧
    (∀ lines : List Line, ∃ places : List Nat, (∀ i ∈ places, i < lines.length) ∧
      places.Pairwise (fun i j => Block.finish lines i < j) ∧
      List.Forall₂ (Function.DefinedAt lines) places (Function.definitions 0 lines)) ∧
    (∀ {ω : Type} (g : Gateway ω) (config : Config) (lines : List Line), g.Completes config →
      Line.LoopFree lines → ∀ s : Session ω, ∃ o N, o ≠ .exhausted ∧ ∀ fuel, N ≤ fuel →
        runScript g config fuel lines s = o) := by
  refine ⟨fun lines i hi => ?_, fun line rest => ?_, fun setup run condition taken line rest => ?_,
    fun lines => ?_, fun g config lines hg hlines s => (runScript_settles hg hlines s).ends⟩
  · have hlast := Block.finish_lt hi
    exact ⟨Block.le_finish hi, by omega, Block.body_isInfix lines i _⟩
  · exact ⟨Block.cut_isInfix line rest, Block.cut_isSuffix line rest⟩
  · exact setup.chain_returns run condition taken (line :: rest)
  · obtain ⟨places, hbounds, hplaces⟩ := Function.placed_definitions 0 lines
    exact ⟨places, fun i hi => (hbounds i hi).2, hplaces⟩

/-- At the simulated device, with two functions that call each other, a brace that closes nothing
and a block that is never closed. -/
theorem blocks_advance_and_runs_end_ping_pong :
    let lines := Line.ofSource
      "fun ping() \x7b\npong()\n\x7d\nfun pong() \x7b\nping()\n\x7d\n\x7d\nping()\nif (true) \x7b\nsleep(5)".toList
    (Registry.ofLines lines).1.size = 2 ∧
    (8 < lines.length ∧ 8 ≤ Block.finish lines 8 ∧ Block.finish lines 8 ≤ lines.length - 1) ∧
    Device.gateway.Completes {} ∧ Line.LoopFree lines ∧
    ∀ s : Session Device, ∃ o N, o ≠ .exhausted ∧
      ∀ fuel, N ≤ fuel → runScript Device.gateway {} fuel lines s = o := by
  intro lines
  obtain ⟨hblocks, -, -, -, hruns⟩ := blocks_advance_and_runs_end
  have hcompletes := Device.gateway_runs.completes {}
  obtain ⟨hsize, hlength, hfree⟩ :
      (Registry.ofLines lines).1.size = 2 ∧ 8 < lines.length ∧ Line.LoopFree lines := by
    decide +kernel
  obtain ⟨hle, hlast, -⟩ := hblocks lines 8 hlength
  exact ⟨hsize, ⟨hlength, hle, hlast⟩, hcompletes, hfree,
    hruns Device.gateway {} lines hcompletes hfree⟩

end TapScript
