import TapScript.Proofs.RunRecognizer
import TapScript.Proofs.Transcript

/-! # Runs do not depend on what came before

An engine is used again and again: it runs scripts that end in any way, it is stopped and it is
closed. What all that leaves behind at the station is the state of the gateway, the dice, the stop
flag and the journal; no recognizer stays open. The next run clears the flag and never looks at the
journal, so it goes as it would go at a new station.

* `Engine.Call` is what is asked of an engine, and `Engine.carryOut` carries out one call after the
  other.
* `carryOut_recognizer` says that no history leaves a recognizer open.
* `execute_behind` compares a run at a station where none is open with a run at a new station, and
  `execute_ignores_history` puts both together. -/

namespace TapScript

variable {ω α : Type}

/-! ## What a run leaves behind -/

/-- What a computation meets is met by one that ends alike, if it can be read off there. -/
theorem Outcome.Alike.meets {σ τ : Type} {A : σ → τ → Prop} {P : σ → Prop} {P' : τ → Prop}
    {o : Outcome σ α} {o' : Outcome τ α} (h : o.Alike A (fun _ => A) o')
    (ho : o.Meets (fun _ => P) P) (hP : ∀ {s t}, A s t → P s → P' t) :
    o'.Meets (fun _ => P') P' := by
  cases h with
  | done hst => exact hP hst ho
  | crashed hst => exact hP hst ho
  | exhausted => trivial

/-- Minutes change no answer. -/
theorem Gateway.mirrors_minuted (g : Gateway ω) : g.minuted.Mirrors g fun w w' => w.1 = w' := by
  rintro r stopped w w' rfl
  exact ⟨rfl, rfl, rfl⟩

/-- A station with minutes mirrors the one without. -/
theorem Station.mirrors_minuted (st : Station ω) :
    st.minuted.Mirrors (fun w w' => w.1 = w') st.journal st.journal st :=
  ⟨rfl, rfl, rfl, rfl, #[], Array.append_empty.symm, Array.append_empty.symm⟩

/-- If no recognizer was open before a run of the engine, none is behind it, even if the engine
crashes. -/
theorem execute_recognizer (g : Gateway ω) (config : Config) (fuel : Nat) (lines : List Line)
    {st : Station ω} (hnone : st.recognizer = none) :
    (Engine.execute g config fuel lines st).Meets (fun _ t => t.recognizer = none)
      fun t => t.recognizer = none := by
  -- the minutes of a run tell, and a run with minutes goes like one without
  have halike := g.mirrors_minuted.execute_alike st.journal st.journal config fuel lines _ _
    st.mirrors_minuted
  refine halike.meets (P := fun t => t.recognizer = none) ?_ fun hst hs => hst.recognizer ▸ hs
  exact (execute_orderly g config fuel lines st).imp (fun _ t ht => ht.1) fun t ht => ht.1 hnone

/-- Behind a close of the engine no recognizer is open. -/
theorem close_recognizer (g : Gateway ω) (st : Station ω) :
    (Engine.close g st).Meets (fun _ t => t.recognizer = none) fun t => t.recognizer = none := by
  have halike := g.mirrors_minuted.close_alike st.journal st.journal _ _ st.mirrors_minuted
  refine halike.meets (P := fun t => t.recognizer = none) ?_ fun hst hs => hst.recognizer ▸ hs
  exact (close_meets g { st.minuted with stopped := true }).imp (fun _ t ht => ht.1)
    fun t ht => ht.1

/-! ## Histories -/

namespace Engine

/-- What is asked of an engine. -/
inductive Call where
  | execute (fuel : Nat) (lines : List Line)
  | stop
  | close

/-- Carries out a call. If the engine crashes, whoever has called it goes on behind that. -/
def Call.carryOut (g : Gateway ω) (config : Config) : Call → Exec (Station ω) Unit
  | execute fuel lines => do
    let _ ← Exec.attempt (Engine.execute g config fuel lines)
  | stop => requestStop
  | close => do
    let _ ← Exec.attempt (Engine.close g)

/-- Carries out one call after the other. -/
def carryOut (g : Gateway ω) (config : Config) : List Call → Exec (Station ω) Unit
  | [] => return ()
  | call :: history => do
    call.carryOut g config
    carryOut g config history

end Engine

/-- Whoever attempts a computation goes on behind a crash too. -/
theorem Exec.attempt_meets {σ : Type} {P : σ → Prop} {x : Exec σ α} {s : σ}
    (h : (x s).Meets (fun _ => P) P) : (x.attempt s).Meets (fun _ => P) fun _ => False := by
  unfold Exec.attempt
  cases hx : x s with
  | done a t =>
    rw [hx] at h
    exact h
  | crashed c t =>
    rw [hx] at h
    exact h
  | exhausted => trivial

/-- One call leaves no recognizer open. -/
theorem call_recognizer (g : Gateway ω) (config : Config) (call : Engine.Call) {st : Station ω}
    (hnone : st.recognizer = none) :
    (call.carryOut g config st).Meets (fun _ t => t.recognizer = none) fun _ => False := by
  cases call with
  | execute fuel lines =>
    exact Outcome.Meets.bind (Exec.attempt_meets (execute_recognizer g config fuel lines hnone))
  | stop => exact hnone
  | close => exact Outcome.Meets.bind (Exec.attempt_meets (close_recognizer g st))

/-- No history of calls leaves a recognizer open. -/
theorem carryOut_recognizer (g : Gateway ω) (config : Config) (history : List Engine.Call)
    {s : Station ω} (hnone : s.recognizer = none) :
    (Engine.carryOut g config history s).Meets (fun _ t => t.recognizer = none) fun _ => False := by
  induction history generalizing s with
  | nil => exact hnone
  | cons call history ih =>
    refine Outcome.Meets.bind ((call_recognizer g config call hnone).imp (fun _ t ht => ?_)
      fun _ hc => hc)
    exact ih ht

/-! ## The next run -/

namespace Station

/-- A station at which nothing has run yet. -/
def new (w : ω) (d : Dice) : Station ω := { state := w, dice := d }

/-- The station with other entries of the journal before its own. -/
def behind (j : Array Record) (st : Station ω) : Station ω := { st with journal := j ++ st.journal }

/-- Stations that differ in what the journal was before are the same but for that. -/
theorem Mirrors.eq_behind {j : Array Record} {s t : Station ω} (h : s.Mirrors Eq j #[] t) :
    s = t.behind j := by
  obtain ⟨hstate, hstopped, hrecognizer, hdice, records, hs, ht⟩ := h
  have hjournal : s.journal = j ++ t.journal := by rw [hs, ht, Array.empty_append]
  cases s
  cases t
  simp_all only [behind]

end Station

/-- The same end, with other entries of the journal before those of the station. -/
def Outcome.behind (j : Array Record) : Outcome (Station ω) α → Outcome (Station ω) α
  | .done a st => .done a (st.behind j)
  | .crashed c st => .crashed c (st.behind j)
  | .exhausted => .exhausted

/-- If no recognizer is open, a run of the engine ends as it does at a new station. -/
theorem execute_behind (g : Gateway ω) (config : Config) (fuel : Nat) (lines : List Line)
    {st : Station ω} (hnone : st.recognizer = none) :
    Engine.execute g config fuel lines st =
      (Engine.execute g config fuel lines (.new st.state st.dice)).behind st.journal := by
  have hg : g.Mirrors g Eq := by
    rintro r stopped w w' rfl
    exact ⟨rfl, rfl, rfl⟩
  -- the engine clears the flag first, so the two stations may as well have the same flag
  have hst : Station.Mirrors Eq st.journal #[] { st with stopped := false }
      (Station.new st.state st.dice) :=
    ⟨rfl, rfl, hnone, rfl, #[], Array.append_empty.symm, rfl⟩
  have halike := hg.execute_alike st.journal #[] config fuel lines _ _ hst
  have hflag : Engine.execute g config fuel lines { st with stopped := false } =
      Engine.execute g config fuel lines st := rfl
  rw [hflag] at halike
  cases hx : Engine.execute g config fuel lines st <;>
    cases hy : Engine.execute g config fuel lines (.new st.state st.dice) <;>
      rw [hx, hy] at halike <;> cases halike
  case done.done.done h => rw [h.eq_behind, Outcome.behind]
  case crashed.crashed.crashed h => rw [h.eq_behind, Outcome.behind]
  case exhausted.exhausted.exhausted => rfl

/-- **Runs do not depend on the history of the engine.** Whatever an engine was asked for before,
and however each run has ended, the next run gives the same report and asks for the same in the same
order, lines of the log included, as a run of the same script at a new station with the gateway in
the same state and with the same dice. It leaves the same behind too, but for the journal, to which
it adds the same entries. -/
theorem execute_ignores_history (g : Gateway ω) (config : Config) (history : List Engine.Call)
    (w : ω) (d : Dice) :
    (Engine.carryOut g config history (.new w d)).Meets
      (fun _ st => ∀ fuel lines,
        Engine.execute g config fuel lines st =
          (Engine.execute g config fuel lines (.new st.state st.dice)).behind st.journal ∧
        Engine.execute g.transcribed config fuel lines st.transcribed =
          (Engine.execute g.transcribed config fuel lines
            (Station.new st.state st.dice).transcribed).behind st.journal)
      fun _ => False := by
  have hhistory := carryOut_recognizer g config history (s := .new w d) rfl
  refine hhistory.imp (fun _ st hnone fuel lines => ?_) fun _ hc => hc
  exact ⟨execute_behind g config fuel lines hnone,
    execute_behind g.transcribed config fuel lines hnone⟩

end TapScript
