import TapScript.Proofs.RunConduct
import TapScript.Proofs.Transcript

/-! # What a run asks for

A run may be judged by its requests: whether it asks for anything that it should not. The requests
that a run makes stand in its transcript, so the judgement is one about the entries that it adds
there.

A run that never ends has no transcript at its end. But it makes its requests one after the other,
and each of them is among those of a run at a gateway that breaks down late enough (`Gateway.upTo`).
There every run ends.

* `Station.AsksOnly` says that all requests between two stations have a property, and
  `Contract.asking` is the contract of it. By `conduct_asking` it is kept by who asks for nothing
  else.
* `execute_asksOnly` carries it to runs of the engine: it is enough that it holds of what the
  commands ask that are issued, and of what the engine asks by itself.
* `conduct_counting` and `execute_upTo_ends` say that at a gateway that answers so many requests,
  nothing goes on forever. -/

namespace TapScript

variable {ω : Type}

namespace Station

/-- Between the two stations, only requests with the property have been made. That somebody else
closes the recognizer meanwhile is not the run's request. -/
def AsksOnly (P : Request → Prop) (s t : Station (ω × List Exchange)) : Prop :=
  ∃ es, t.transcript = s.transcript ++ es ∧
    ∀ e ∈ es, P e.request ∨ e.request.isClose ∧ ∃ e' ∈ es, e'.signal = .close

namespace AsksOnly

variable {P : Request → Prop} {s t u : Station (ω × List Exchange)}

/-- Nothing is asked where nothing is written down. -/
theorem of_eq (h : t.state = s.state) : AsksOnly P s t :=
  ⟨[], by rw [transcript_congr h, List.append_nil], fun _ he => absurd he List.not_mem_nil⟩

/-- What is asked on two stretches is asked on both together. -/
theorem trans (hst : AsksOnly P s t) (htu : AsksOnly P t u) : AsksOnly P s u := by
  obtain ⟨es, ht, hes⟩ := hst
  obtain ⟨es', hu, hes'⟩ := htu
  refine ⟨es ++ es', by rw [hu, ht, List.append_assoc], ?_⟩
  intro e he
  -- who has closed the recognizer is still found in the longer transcript
  rcases List.mem_append.1 he with he | he
  · refine (hes e he).imp_right ?_
    rintro ⟨hclose, e', he', hsignal⟩
    exact ⟨hclose, e', List.mem_append_left _ he', hsignal⟩
  · refine (hes' e he).imp_right ?_
    rintro ⟨hclose, e', he', hsignal⟩
    exact ⟨hclose, e', List.mem_append_right _ he', hsignal⟩

/-- A request adds itself, and maybe what somebody else closes. -/
theorem answered {g : Gateway ω} {r : Request} (hr : P r) (s : Station (ω × List Exchange)) :
    AsksOnly P s (s.answered g.transcribed r) := by
  obtain ⟨es, hes, hsignal, htranscript⟩ := s.transcript_answered g r
  refine ⟨_, htranscript, ?_⟩
  intro e he
  rcases List.mem_cons.1 he with rfl | he
  · exact .inl hr
  · refine .inr ⟨?_, _, List.mem_cons_self, hsignal (List.ne_nil_of_mem he)⟩
    rcases hes with rfl | ⟨session, stopped, w, rfl⟩
    · cases he
    · rw [List.mem_singleton.1 he]
      rfl

/-- Seen from an empty transcript, all of it has the property if closing the recognizer has it. -/
theorem forall_mem (h : AsksOnly P s t) (hs : s.transcript = [])
    (hclose : ∀ r : Request, r.isClose → P r) : ∀ e ∈ t.transcript, P e.request := by
  obtain ⟨es, ht, hes⟩ := h
  rw [ht, hs, List.nil_append]
  intro e he
  rcases hes e he with h | ⟨h, -⟩
  · exact h
  · exact hclose _ h

end AsksOnly

end Station

/-- Only requests with the property are made, up to a crash too. -/
def Contract.asking (P : Request → Prop) : Contract (Station (ω × List Exchange)) where
  done := Station.AsksOnly P
  crashed := Station.AsksOnly P
  refl _ := .of_eq rfl
  trans := .trans
  late := .trans

/-- Who asks for nothing else keeps the contract. -/
theorem conduct_asking (g : Gateway ω) {P : Request → Prop}
    (hroutine : ∀ r : Request, r.isRoutine → P r) :
    Conduct g.transcribed (Contract.asking P) P := by
  refine .of_moves ⟨fun _ _ => .of_eq rfl, fun _ _ => .of_eq rfl, fun _ => .of_eq rfl, hroutine,
    fun _ => trivial, fun _ _ _ _ => trivial⟩ (fun n r hr st _ => ?_) fun _ _ => .of_eq rfl
  obtain ⟨reply, -, h⟩ | ⟨crash, -, h⟩ := ask_cases g.transcribed r st <;> rw [h]
  · exact .answered hr st
  · exact .answered hr st

/-- A look at the flag asks for nothing else. -/
theorem stopRequested_asking (g : Gateway ω) (n : Nat) :
    (stopRequested g.transcribed).Obeys (Contract.asking (· = .checkpoint)) n := by
  have hask : (ask g.transcribed .checkpoint).Obeys (Contract.asking (· = .checkpoint)) n := by
    intro st
    have hanswered := Station.AsksOnly.answered (g := g) (P := fun r => r = .checkpoint) rfl st
    obtain ⟨reply, -, h⟩ | ⟨crash, -, h⟩ := ask_cases g.transcribed .checkpoint st <;> rw [h] <;>
      exact hanswered
  exact hask.bind fun _ => Exec.obeys_gets _

/-- Reading texts takes one look at the flag. -/
theorem Query.reading_asking {α : Type} (g : Gateway ω) (frame : Frame)
    (read : Environment → Dice → α × Dice) (n : Nat) :
    (Query.reading g.transcribed frame read).Obeys (Contract.asking (· = .checkpoint)) n := by
  have hroll : ∀ (st : Station (ω × List Exchange)) d,
      st.AsksOnly (· = .checkpoint) { st with dice := d } := fun _ _ => .of_eq rfl
  exact (stopRequested_asking g n).bind fun _ st => hroll st _

/-- A run of the engine asks only for what the commands may ask that its bounds let pass, and for
what the engine asks by itself. -/
theorem execute_asksOnly (g : Gateway ω) {config : Config} {P : Request → Prop}
    (hroutine : ∀ r : Request, r.isRoutine → P r) (hown : ∀ r : Request, r.isOwn → P r)
    (hissued : ∀ (b : Builtin) (c : Command), b.Issues config c → ∀ r, c.MayAsk r → P r)
    (fuel : Nat) (lines : List Line) (st : Station (ω × List Exchange)) :
    (Engine.execute g.transcribed config fuel lines st).Meets (fun _ t => st.AsksOnly P t)
      (st.AsksOnly P) := by
  have hcleared : st.AsksOnly P { st with stopped := false } := .of_eq rfl
  have hproceed := (conduct_asking g hroutine).proceed_meets_of_issued hissued hown
    (fun h => h) fuel lines { st with stopped := false }
  exact hproceed.imp (fun _ _ h => hcleared.trans h.1) fun _ h => hcleared.trans h

/-! ## Gateways that break down -/

/-- The gateway that answers as `g` does until it has answered `n` requests. Then it requests a stop
and crashes. -/
def Gateway.upTo (g : Gateway ω) (n : Nat) : Gateway (ω × Nat) where
  answer r stopped w :=
    if w.2 < n then
      let turn := g.answer r stopped w.1
      ⟨turn.outcome, turn.signal, turn.state, w.2 + 1⟩
    else ⟨.error ⟨none⟩, .stop, w⟩

/-- A gateway that has not broken down counts the request, and one that has requests a stop. -/
theorem Gateway.answer_upTo (g : Gateway ω) (n : Nat) (r : Request) (stopped : Bool) (w : ω × Nat) :
    w.2 < n ∧ ((g.upTo n).answer r stopped w).state.2 = w.2 + 1 ∨
      ((g.upTo n).answer r stopped w).signal = .stop ∧
        ((g.upTo n).answer r stopped w).state = w := by
  by_cases h : w.2 < n
  · exact .inl ⟨h, by simp only [Gateway.upTo, if_pos h]⟩
  · exact .inr (by simp only [Gateway.upTo, if_neg h, and_self])

namespace Station

/-- The station whose gateway has not answered anything yet. -/
def counted (st : Station ω) : Station (ω × Nat) :=
  ⟨(st.state, 0), st.stopped, st.recognizer, st.dice, st.journal⟩

/-- How many requests the gateway has answered. -/
def answers (st : Station ((ω × Nat) × List Exchange)) : Nat := st.state.1.2

/-- That others close the recognizer takes no answer back. -/
theorem answers_release (g : Gateway ω) (n : Nat) (st : Station ((ω × Nat) × List Exchange)) :
    st.answers ≤ (st.release (g.upTo n).transcribed).answers := by
  unfold release
  cases st.recognizer with
  | none => exact Nat.le_refl _
  | some session =>
    show st.answers ≤ ((g.upTo n).answer (.closeRecognizer session) st.stopped st.state.1).state.2
    obtain ⟨-, h⟩ | ⟨-, h⟩ :=
      g.answer_upTo n (.closeRecognizer session) st.stopped st.state.1 <;> rw [h]
    · exact Nat.le_succ _
    · exact Nat.le_refl _

/-- Requests are counted. As long as the stop flag is clear behind them, the gateway has not broken
down. -/
theorem answers_answered (g : Gateway ω) (n : Nat) (r : Request)
    (st : Station ((ω × Nat) × List Exchange)) :
    st.answers ≤ (st.answered (g.upTo n).transcribed r).answers ∧
      ((st.answered (g.upTo n).transcribed r).stopped = false →
        st.answers < n ∧ (st.answered (g.upTo n).transcribed r).answers = st.answers + 1) := by
  let asked : Station ((ω × Nat) × List Exchange) :=
    { st with state := ((g.upTo n).transcribed.answer r st.stopped st.state).state }
  have hcases : st.answers < n ∧ asked.answers = st.answers + 1 ∨
      ((g.upTo n).transcribed.answer r st.stopped st.state).signal = .stop ∧
        asked.answers = st.answers := by
    obtain h | ⟨h, hw⟩ := g.answer_upTo n r st.stopped st.state.1
    · exact .inl h
    · exact .inr ⟨h, congrArg Prod.snd hw⟩
  have hle : st.answers ≤ asked.answers := by
    rcases hcases with h | h <;> omega
  refine ⟨?_, fun hclear => ?_⟩
  · unfold answered
    dsimp only
    cases ((g.upTo n).transcribed.answer r st.stopped st.state).signal with
    | none => exact hle
    | stop => exact hle
    | close => exact Nat.le_trans hle (answers_release g n { asked with stopped := true })
  · -- a clear flag means that nobody has requested a stop, so the gateway has not either
    rw [stopped_answered_eq, Bool.or_eq_false_iff] at hclear
    have hnone : ((g.upTo n).transcribed.answer r st.stopped st.state).signal = .none := by
      simpa using hclear.2
    have hanswered : st.answered (g.upTo n).transcribed r = asked := by
      simp only [answered, hnone, receive, asked]
    rw [hanswered]
    rcases hcases with h | ⟨h, -⟩
    · exact h
    · rw [hnone] at h
      cases h

end Station

/-- The gateway answers at most `n` requests. Each step takes one, so nobody is out of steps who has
more of them left than the gateway has answers. -/
def Contract.counting (n : Nat) : Contract (Station ((ω × Nat) × List Exchange)) where
  done s t := s.answers ≤ t.answers
  crashed s t := s.answers ≤ t.answers
  tired m s := m = 0 ∨ s.answers + m ≤ n
  refl _ := Nat.le_refl _
  trans := Nat.le_trans
  late := Nat.le_trans
  early := by
    intro m s t hst ht
    omega
  fewer := by
    intro m m' s hm ht
    omega

/-- Every step of a run takes an answer at least. -/
theorem conduct_counting (g : Gateway ω) (n : Nat) :
    Conduct (g.upTo n).transcribed (Contract.counting n) fun _ => True := by
  refine .of_moves ⟨fun _ _ => Nat.le_refl _, fun _ _ => Nat.le_refl _, fun _ => Nat.le_refl _,
    fun _ _ => trivial, fun _ => .inl rfl, fun st hclear m ht => ?_⟩ (fun m r _ st _ => ?_)
    fun _ _ => Nat.le_refl _
  · -- a look that finds the flag clear has taken one of the answers that were left
    obtain ⟨hlt, hanswered⟩ := (st.answers_answered g n .checkpoint).2 hclear
    refine .inr ?_
    rcases ht with rfl | ht <;> omega
  · have hle := (st.answers_answered g n r).1
    obtain ⟨reply, -, h⟩ | ⟨crash, -, h⟩ := ask_cases (g.upTo n).transcribed r st <;> rw [h]
    · exact hle
    · exact hle

/-- At a gateway that answers `n` requests, everything ends at the station that is allowed more than
`n` steps. -/
theorem Session.lift_upTo_ends {α : Type} {x : Exec (Station ((ω × Nat) × List Exchange)) α}
    {n fuel : Nat} (hx : x.Obeys (Contract.counting n) fuel) (hn : n < fuel)
    (s : Session ((ω × Nat) × List Exchange)) :
    (Session.lift x s).Meets (fun _ _ => True) (fun _ => True) False := by
  refine Session.lift_meets ((hx s.station).imp (fun _ _ _ => trivial) (fun _ _ => trivial) ?_)
  rintro (h | h) <;> omega

/-- At a gateway that answers `n` requests, every run of the engine ends that is allowed more than
`n` steps. -/
theorem execute_upTo_ends (g : Gateway ω) (config : Config) {n fuel : Nat} (hn : n < fuel)
    (lines : List Line) (st : Station ((ω × Nat) × List Exchange)) :
    (Engine.execute (g.upTo n).transcribed config fuel lines st).Meets (fun _ _ => True)
      (fun _ => True) False := by
  have hproceed := (conduct_counting g n).proceed_meets (fun _ => trivial)
    (fun h => h) config fuel lines { st with stopped := false }
  refine hproceed.imp (fun _ _ _ => trivial) (fun _ _ => trivial) ?_
  rintro (h | h) <;> omega

end TapScript
