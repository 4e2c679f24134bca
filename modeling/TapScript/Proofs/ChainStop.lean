import TapScript.Proofs.Inquiry
import TapScript.Proofs.Stop

/-! # A stop inside a chain of branches

The branches of an `if` are tried one after the other: their conditions are tested until one holds,
and then the lines of that branch are walked through. A walk looks at the stop flag before every
line, but between two conditions nobody looks. So a stop that is requested while a condition is
tested keeps the branches from being run, and it does not keep the conditions behind it from being
tested.

* `Arm.cut` takes a chain apart, `Setup.pick` finds the branch to be run, and by `Setup.chain_eq` a
  chain does just that: it picks a branch and then runs it.
* `Setup.walk_of_stopped` says that a walk through lines is one look at the flag, if the flag is
  set.
* `Setup.chain_behind_stop` says what is left of a chain from the moment on at which the flag is
  set: the other conditions, up to one that holds, and one look at the flag.
* `chain_senses_behind_stop` is a chain that looks for an image and writes to the log although the
  flag is set. -/

namespace TapScript

variable {ω : Type}

/-! ## Branches -/

/-- A branch of an `if`: its header, its condition if it has one, and the lines of its block. -/
structure Arm where
  header : Line
  condition : Option Text
  body : List Line
deriving DecidableEq, Repr

/-- The branches of the `if` whose header, with the given condition, is the first line, and the
lines behind the last of them. -/
def Arm.cut : (condition : Option Text) → List Line → List Arm × List Line
  | _, [] => ([], [])
  | condition, line :: rest =>
    let arm : Arm := ⟨line, condition, (Block.cut (line :: rest)).1⟩
    let behind := (Block.cut (line :: rest)).2
    match behind.head?.bind fun next => Line.alternative? next.text with
    | some condition => (arm :: (cut condition behind).1, (cut condition behind).2)
    | none => ([arm], behind)
termination_by _ lines => lines.length
decreasing_by all_goals exact Block.length_cut_lt line rest

namespace Setup

variable (setup : Setup ω)

/-- Whether a branch is to be run: its condition is tested, if it has one. -/
def holds (arm : Arm) : Exec (Session ω) Bool :=
  match arm.condition with
  | none => return true
  | some condition => setup.test arm.header.number condition

/-- The first branch that is to be run. The ones behind it are not looked at. -/
def pick : List Arm → Exec (Session ω) (Option Arm)
  | [] => return none
  | arm :: arms => do if ← setup.holds arm then return some arm else pick arms

variable {run : List Line → Exec (Session ω) Flow}

/-- A branch is run if it is to be run and none was taken before, and then its flow is handed on. -/
theorem branch_bind {α : Type} (arm : Arm) (f : Option Flow → Exec (Session ω) α) :
    setup.branch run arm.header arm.body arm.condition none >>= f =
      (do if ← setup.holds arm then f (some (← run arm.body)) else f none) := by
  have hbranch : setup.branch run arm.header arm.body arm.condition none =
      (do if ← setup.holds arm then some <$> run arm.body else return none) := by
    obtain ⟨header, condition, body⟩ := arm
    cases condition <;> rfl
  rw [hbranch, bind_assoc]
  refine bind_congr fun holds => ?_
  cases holds with
  | false => exact pure_bind none f
  | true => exact bind_map_left some (run arm.body) f

/-- Once a branch was taken, the others are passed over. -/
theorem chain_taken (flow : Flow) (condition : Option Text) (lines : List Line) :
    setup.chain run condition (some flow) lines = pure ((Arm.cut condition lines).2, flow) := by
  fun_induction Arm.cut condition lines with
  | case1 => rw [chain]; rfl
  | case2 condition line rest arm behind next hnext ih =>
    rw [chain, branch, pure_bind, hnext]
    exact ih
  | case3 condition line rest arm behind hnext =>
    rw [chain, branch, pure_bind, hnext]
    rfl

/-- A chain picks a branch and then runs its lines. If none is to be run, there are no lines. -/
theorem chain_eq (hrun : run [] = pure .normal) (condition : Option Text) (lines : List Line) :
    setup.chain run condition none lines = (do
      let taken ← setup.pick (Arm.cut condition lines).1
      return ((Arm.cut condition lines).2, ← run (taken.elim [] Arm.body))) := by
  fun_induction Arm.cut condition lines with
  | case1 =>
    rw [chain, pick, pure_bind, Option.elim_none, hrun]
    rfl
  | case2 condition line rest arm behind next hnext ih =>
    rw [chain, hnext]
    refine (setup.branch_bind arm _).trans ?_
    rw [pick, bind_assoc]
    refine bind_congr fun holds => ?_
    cases holds with
    | false => exact ih
    | true => exact bind_congr fun flow => setup.chain_taken flow next behind
  | case3 condition line rest arm behind hnext =>
    rw [chain, hnext]
    refine (setup.branch_bind arm _).trans ?_
    rw [pick, bind_assoc]
    refine bind_congr fun holds => ?_
    cases holds with
    | false =>
      show pure (behind, Flow.normal) = run [] >>= fun flow => pure (behind, flow)
      rw [hrun, pure_bind]
    | true => rfl

/-- Where the first branches are not to be run, the others decide. -/
theorem pick_append {before after : List Arm} {s t : Session ω}
    (h : setup.pick before s = .done none t) :
    setup.pick (before ++ after) s = setup.pick after t := by
  induction before generalizing s with
  | nil =>
    cases h
    rfl
  | cons arm before ih =>
    rw [pick, Exec.bind_apply] at h
    rw [List.cons_append, pick, Exec.bind_apply]
    cases harm : setup.holds arm s with
    | done holds u =>
      simp only [harm] at h ⊢
      cases holds with
      | false => exact ih h
      | true => cases h
    | crashed crash u => simp [harm] at h
    | exhausted => simp [harm] at h

/-- Branches are picked under a contract that the tests of their conditions keep. -/
theorem pick_obeys {k : Contract (Session ω)} {n : Nat} {arms : List Arm}
    (h : ∀ arm ∈ arms, ∀ condition ∈ arm.condition,
      (setup.test arm.header.number condition).Obeys k n) :
    (setup.pick arms).Obeys k n := by
  induction arms with
  | nil => exact Exec.obeys_pure _
  | cons arm arms ih =>
    have hholds : (setup.holds arm).Obeys k n := by
      unfold holds
      split
      · exact Exec.obeys_pure _
      · next condition hcondition => exact h arm List.mem_cons_self condition hcondition
    refine hholds.bind fun holds => ?_
    cases holds with
    | false => exact ih fun arm harm => h arm (List.mem_cons_of_mem _ harm)
    | true => exact Exec.obeys_pure _

end Setup

/-! ## The flag is set -/

/-- What follows a computation matters only for the values and states with which it ends. -/
theorem Exec.bind_congr_of_meets {σ α β : Type} {x : Exec σ α} {f f' : α → Exec σ β}
    {Q : α → σ → Prop} {E : σ → Prop} {s : σ} (h : (x s).Meets Q E)
    (hf : ∀ a t, Q a t → f a t = f' a t) : (x >>= f) s = (x >>= f') s := by
  rw [bind_apply, bind_apply]
  cases hx : x s with
  | done a t =>
    rw [hx] at h
    exact hf a t h
  | crashed crash t => rfl
  | exhausted => rfl

/-- Once the flag is set, it stays so. -/
def Contract.stopping : Contract (Station ω) where
  done s t := s.stopped = true → t.stopped = true
  crashed s t := s.stopped = true → t.stopped = true
  refl _ h := h
  trans hst htu h := htu (hst h)
  late hst htu h := htu (hst h)

/-- Nobody clears the flag in a run. -/
theorem conduct_stopping (g : Gateway ω) : Conduct g Contract.stopping fun _ => True := by
  have hanswered : ∀ r (st : Station ω), st.stopped = true → (st.answered g r).stopped = true := by
    intro r st hst
    rw [Station.stopped_answered_eq, hst, Bool.true_or]
  refine .of_moves ⟨fun _ _ h => h, fun _ _ h => h, fun _ _ => rfl, fun _ _ => trivial,
    fun _ => trivial, fun _ _ _ _ => trivial⟩ (fun n r _ st _ => ?_) fun _ _ h => h
  obtain ⟨reply, -, h⟩ | ⟨crash, -, h⟩ := ask_cases g r st <;> rw [h] <;> exact hanswered r st

/-- The contract of evaluating texts: only questions are asked, and the variables and loops stay as
they are. -/
def Contract.inquiring : Contract (Session (ω × List Exchange)) where
  done := Session.Inquires
  crashed := Session.Inquires
  refl _ := ⟨rfl, rfl, .of_eq rfl⟩
  trans hst htu := ⟨htu.scope.trans hst.scope, htu.loops.trans hst.loops, hst.asks.trans htu.asks⟩
  late hst htu := ⟨htu.scope.trans hst.scope, htu.loops.trans hst.loops, hst.asks.trans htu.asks⟩

/-- A condition without a call of a query is tested with one look at the flag. -/
theorem Query.test_asking (g : Gateway ω) (config : Config) (fuel line : Nat) (frame : Frame)
    {condition : Text} (h : Query.last? condition = none) (n : Nat) :
    (Query.test g.transcribed config fuel line frame condition).Obeys
      (Contract.asking (· = .checkpoint)) n := by
  have hexpand : Query.expand g.transcribed config fuel line frame condition =
      pure (.ok condition) := by
    rw [Query.expand, Query.maxExpansions, Query.expandUpTo, h]
  rw [Query.test, hexpand, pure_bind]
  exact Query.reading_asking g frame _ n

namespace Setup

/-- No part of a script's run clears the flag. -/
theorem runConduct_stopping {setup : Setup ω} :
    RunConduct setup Contract.stopping (fun _ => True) Contract.stopping.onSession :=
  (conduct_stopping setup.gateway).onSession (fun _ _ _ _ _ => trivial) (fun _ => trivial)
    setup.functions setup.fuel

section Transcribed

variable {g : Gateway ω} {setup : Setup (ω × List Exchange)} (hg : setup.gateway = g.transcribed)
  {n : Nat}

include hg

/-- Looking at the flag is a question. -/
theorem stopRequested_inquiring : setup.stopRequested.Obeys Contract.inquiring n := by
  rw [stopRequested, hg]
  exact fun s => Session.lift_inquires (n := n) (conduct_inquiring g).stopRequested_obeys s

/-- Testing a condition asks questions only. -/
theorem test_inquiring (line : Nat) (condition : Text) :
    (setup.test line condition).Obeys Contract.inquiring n := by
  rw [test, hg]
  exact fun s => Session.lift_inquires ((conduct_inquiring g).test_obeys
    (fun _ _ hb hc _ => isInquiry_of_issued hb hc) setup.fuel line s.scope.current condition) s

/-- Looking at the flag asks for nothing else. -/
theorem stopRequested_looking :
    setup.stopRequested.Obeys (Contract.asking (· = .checkpoint)).onSession n := by
  rw [stopRequested, hg]
  exact fun s => Session.lift_meets (stopRequested_asking g n s.station)

/-- Testing a condition without a call looks at the flag at most. -/
theorem test_looking (line : Nat) {condition : Text} (h : Query.last? condition = none) :
    (setup.test line condition).Obeys (Contract.asking (· = .checkpoint)).onSession n := by
  rw [test, hg]
  exact fun s => Session.lift_meets
    (Query.test_asking g setup.config setup.fuel line s.scope.current h n s.station)

end Transcribed

variable (setup : Setup ω)

/-- A walk through some lines where the flag is set: one look at it, unless there are no lines. -/
def passOver : List Line → Exec (Session ω) Unit
  | [] => return ()
  | _ :: _ => do let _ ← setup.stopRequested

/-- Where the flag is set, lines are passed over. -/
theorem walk_of_stopped (fuel : Nat) (lines : List Line) {s : Session ω}
    (hs : s.station.stopped = true) :
    setup.walk (fuel + 1) lines s = (do setup.passOver lines; return Flow.normal) s := by
  cases lines with
  | nil => rfl
  | cons line rest =>
    have hlook : (setup.stopRequested s).Meets (fun stopped _ => stopped = true) fun _ => True :=
      Session.lift_meets
        (((conduct_stopping setup.gateway).stopRequested_meets (n := 0) s.station).imp
          (fun stopped t ht => ht.2.1.symm.trans (ht.1 hs)) fun _ _ => trivial)
    rw [walk, passOver, bind_assoc]
    refine Exec.bind_congr_of_meets hlook fun stopped t hstopped => ?_
    rw [hstopped]
    rfl

/-- What is left of a chain where the flag is set and `arm` was tested: its lines are passed over if
it is to be run, and otherwise those of the branch that is picked from the ones behind it. -/
def leftover (holds : Bool) (arm : Arm) (after : List Arm) : Exec (Session ω) Unit :=
  if holds then setup.passOver arm.body
  else do
    let taken ← setup.pick after
    setup.passOver (taken.elim [] Arm.body)

/-- What is left of a chain keeps a contract that looking at the flag and the tests of the later
branches keep. -/
theorem leftover_obeys {k : Contract (Session ω)} {n : Nat} (hlook : setup.stopRequested.Obeys k n)
    {holds : Bool} (arm : Arm) {after : List Arm}
    (htest : holds = false → ∀ arm ∈ after, ∀ condition ∈ arm.condition,
      (setup.test arm.header.number condition).Obeys k n) :
    (setup.leftover holds arm after).Obeys k n := by
  have hpass : ∀ lines, (setup.passOver lines).Obeys k n := by
    intro lines
    cases lines with
    | nil => exact Exec.obeys_pure _
    | cons line rest => exact hlook.bind fun _ => Exec.obeys_pure _
  cases holds with
  | true => exact hpass arm.body
  | false => exact (setup.pick_obeys (htest rfl)).bind fun taken => hpass _

/-- From the moment on at which a branch was tested and the flag is set, a chain does what is left
of it. -/
theorem chain_of_stopped (fuel : Nat) {condition : Option Text} {lines : List Line}
    {before after : List Arm} {arm : Arm}
    (hcut : (Arm.cut condition lines).1 = before ++ arm :: after) {holds : Bool}
    {s t u : Session ω} (hbefore : setup.pick before s = .done none t)
    (harm : setup.holds arm t = .done holds u) (hstop : u.station.stopped = true) :
    setup.chain (setup.walk (fuel + 1)) condition none lines s =
      (do setup.leftover holds arm after; return ((Arm.cut condition lines).2, Flow.normal)) u := by
  have hpick : setup.pick (before ++ arm :: after) s =
      (if holds then pure (some arm) else setup.pick after : Exec (Session ω) _) u := by
    rw [setup.pick_append hbefore, pick, Exec.bind_done harm]
  rw [setup.chain_eq rfl, hcut, Exec.bind_apply, hpick, ← Exec.bind_apply, leftover]
  cases holds with
  | true =>
    rw [if_pos rfl, if_pos rfl, pure_bind, Exec.bind_apply, setup.walk_of_stopped fuel _
      hstop, ← Exec.bind_apply, bind_assoc]
    rfl
  | false =>
    rw [if_neg Bool.false_ne_true, if_neg Bool.false_ne_true, bind_assoc]
    -- the flag is still set when a branch has been picked
    have hset : (setup.pick after u).Meets (fun _ v => v.station.stopped = true) fun _ => True :=
      (setup.pick_obeys (fun _ _ _ _ => runConduct_stopping.test_obeys (Nat.zero_le _) _ _) u).imp
        (fun _ _ h => h hstop) fun _ _ => trivial
    refine Exec.bind_congr_of_meets hset fun taken v hv => ?_
    rw [Exec.bind_apply, setup.walk_of_stopped fuel _ hv, ← Exec.bind_apply, bind_assoc]
    rfl

/-- What is left of a chain of branches from the moment on at which a condition was tested and the
stop flag is set.

* If the condition holds, its branch is passed over with one look at the flag. If it does not, the
  conditions behind it are tested as ever, up to one that holds, and the branch of that one is
  passed over.
* So the chain still asks questions and may write to the log, but it acts on nothing, takes up no
  line and changes no variable, and the flag stays set.
* It looks at the flag and asks nothing else, if the condition holds or those behind it call no
  query. -/
theorem chain_behind_stop {g : Gateway ω} {setup : Setup (ω × List Exchange)}
    (hg : setup.gateway = g.transcribed) (fuel : Nat) {condition : Option Text} {lines : List Line}
    {before after : List Arm} {arm : Arm}
    (hcut : (Arm.cut condition lines).1 = before ++ arm :: after) {holds : Bool}
    {s t u : Session (ω × List Exchange)} (hbefore : setup.pick before s = .done none t)
    (harm : setup.holds arm t = .done holds u) (hstop : u.station.stopped = true) :
    setup.chain (setup.walk (fuel + 1)) condition none lines s =
        (do setup.leftover holds arm after; return ((Arm.cut condition lines).2, Flow.normal)) u ∧
      (setup.leftover holds arm after u).Meets (fun _ v => u.Inquires v ∧ v.station.stopped = true)
        (fun v => u.Inquires v ∧ v.station.stopped = true) ∧
      ((holds = true ∨ ∀ arm ∈ after, ∀ condition ∈ arm.condition, Query.last? condition = none) →
        (setup.leftover holds arm after u).Meets
          (fun _ v => u.station.AsksOnly (· = .checkpoint) v.station) fun v =>
          u.station.AsksOnly (· = .checkpoint) v.station) := by
  refine ⟨setup.chain_of_stopped fuel hcut hbefore harm hstop, ?_, fun hsilent => ?_⟩
  · have hasks : (setup.leftover holds arm after).Obeys Contract.inquiring 0 :=
      setup.leftover_obeys (stopRequested_inquiring hg) arm fun _ arm _ c _ =>
        test_inquiring hg arm.header.number c
    have hset : (setup.leftover holds arm after).Obeys Contract.stopping.onSession 0 :=
      setup.leftover_obeys runConduct_stopping.stopRequested_obeys arm
        fun _ _ _ _ _ => runConduct_stopping.test_obeys (Nat.zero_le _) _ _
    exact ((hasks u).and (hset u)).imp (fun _ v h => ⟨h.1, h.2 hstop⟩) fun v h => ⟨h.1, h.2 hstop⟩
  · have hlooks : (setup.leftover holds arm after).Obeys
        (Contract.asking (· = .checkpoint)).onSession 0 := by
      refine setup.leftover_obeys (stopRequested_looking hg) arm fun hfails arm harm c hc => ?_
      have hlast := hsilent.resolve_left (Bool.eq_false_iff.1 hfails) arm harm c hc
      exact test_looking hg arm.header.number hlast
    exact hlooks u

end Setup

/-! ## Two images -/

/-- A chain of two branches, each of which is run if an image is found. -/
def twoImages : List Line := Line.ofSource
  "if (findImage(\"a\")) \x7b\n click(1, 1)\n\x7d else if (findImage(\"b\")) \x7b\n click(2, 2)\n\x7d".toList

/-- The first branch of the two. -/
def Arm.ofImageA : Arm :=
  ⟨⟨1, "if (findImage(\"a\")) \x7b".toList⟩, some "(findImage(\"a\"))".toList,
    [⟨2, "click(1, 1)".toList⟩]⟩

/-- The second branch of the two. -/
def Arm.ofImageB : Arm :=
  ⟨⟨3, "else if (findImage(\"b\")) \x7b".toList⟩, some "(findImage(\"b\"))".toList,
    [⟨4, "click(2, 2)".toList⟩]⟩

/-- A setup under which somebody calls for a stop as soon as three requests are answered. -/
def Setup.stoppedAtThree : Setup ((Device × List Event) × List Exchange) :=
  ⟨(Device.gateway.controlled (· = 3)).transcribed, {}, .empty, 9⟩

/-- What a test has given, and whether the flag is set behind it. -/
def Outcome.tested? : Outcome (Session ω) Bool → Option (Bool × Bool)
  | .done holds s => some (holds, s.station.stopped)
  | _ => none

/-- A test whose result and flag can be shown is done with them. -/
theorem Outcome.exists_of_tested? {o : Outcome (Session ω) Bool} {holds stopped : Bool}
    (h : o.tested? = some (holds, stopped)) :
    ∃ s, o = .done holds s ∧ s.station.stopped = stopped := by
  cases o with
  | done b s =>
    cases h
    exact ⟨s, rfl, rfl⟩
  | _ => cases h

/-- The stop is called for while the first image is looked for, which is not found. -/
theorem Setup.chain_behind_stop_images :
    ∃ u, stoppedAtThree.holds .ofImageA (.start { state := (({}, []), []) }) = .done false u ∧
      u.station.stopped = true ∧
      stoppedAtThree.chain (stoppedAtThree.walk 9) Arm.ofImageA.condition none twoImages
          (.start { state := (({}, []), []) }) =
        (do stoppedAtThree.leftover false .ofImageA [.ofImageB]; return ([], Flow.normal)) u ∧
      (stoppedAtThree.leftover false .ofImageA [.ofImageB] u).Meets
        (fun _ v => u.Inquires v ∧ v.station.stopped = true) fun v => u.Inquires v ∧
          v.station.stopped = true := by
  have hcut : Arm.cut Arm.ofImageA.condition twoImages = ([.ofImageA, .ofImageB], []) := by
    decide +kernel
  have harms : (Arm.cut Arm.ofImageA.condition twoImages).1 = [] ++ .ofImageA :: [.ofImageB] := by
    rw [hcut]; rfl
  have htested : (stoppedAtThree.holds .ofImageA (.start { state := (({}, []), []) })).tested? =
      some (false, true) := by decide +kernel
  obtain ⟨u, harm, hstop⟩ := Outcome.exists_of_tested? htested
  have hends := chain_behind_stop (g := Device.gateway.controlled (· = 3)) rfl 8 harms
    rfl harm hstop
  rw [hcut] at hends
  exact ⟨u, harm, hstop, hends.1, hends.2.1⟩

/-- The images that were looked for and the lines that were written to the log while the flag was
set. -/
def Outcome.late? {α : Type} : Outcome (Station (ω × List Event)) α → Option (List String)
  | .done _ st => some (st.trace.filterMap fun e =>
      match e.stopped, e.request with
      | true, .findImage path _ => some path
      | true, .log line => some line
      | _, _ => none)
  | _ => none

/-- Nobody looks at the flag between the conditions of a chain. While the first image is looked for,
a stop is called for, and still the second one is looked for, and the log is told about it. -/
theorem chain_senses_behind_stop :
    (Engine.execute (Device.gateway.controlled (· = 6)) {} 20 twoImages
      (Station.traced { state := {} })).late? = some ["b", "findImage(b): not found"] := by
  decide +kernel

end TapScript
