import TapScript.Proofs.RunCorrespondence

/-! # Transcripts

A gateway can be watched without being disturbed: the gateway that keeps a transcript answers as the
other one does and writes down each request with its answer. Whatever is said of what a run has
asked for, and in which order, is then a property of the transcript at its end.

* `Gateway.transcribed` is the gateway that keeps a transcript. By `Gateway.mirrors_transcribed` it
  answers as before, so by `Station.execute_transcribed_alike` a run ends as before.
* `Station.transcript_answered` is what one request adds: itself with its answer and, if somebody
  else closes the engine meanwhile, the close of the recognizer. By `Station.filterMap_answered`,
  what is read off a transcript grows with each request.
* `Counterparts.of_transcript` says that nothing is ever taken back. -/

namespace TapScript

/-- A request with its answer, and with what somebody else did meanwhile. -/
structure Exchange where
  request : Request
  outcome : Except Crash request.Reply
  signal : Signal

variable {ω : Type}

namespace Gateway

/-- The answer of the gateway as an entry of a transcript. -/
def exchange (g : Gateway ω) (r : Request) (stopped : Bool) (w : ω) : Exchange :=
  ⟨r, (g.answer r stopped w).outcome, (g.answer r stopped w).signal⟩

/-- The gateway that answers as `g` does and keeps a transcript. -/
def transcribed (g : Gateway ω) : Gateway (ω × List Exchange) where
  answer r stopped w :=
    let turn := g.answer r stopped w.1
    ⟨turn.outcome, turn.signal, turn.state, w.2 ++ [g.exchange r stopped w.1]⟩

/-- A transcript changes no answer. -/
theorem mirrors_transcribed (g : Gateway ω) : g.transcribed.Mirrors g fun w w' => w.1 = w' := by
  rintro r stopped w w' rfl
  exact ⟨rfl, rfl, rfl⟩

/-- What is written down while somebody else releases the recognizer, if one is open. -/
def IsRelease (g : Gateway ω) (es : List Exchange) : Prop :=
  es = [] ∨ ∃ session stopped w, es = [g.exchange (.closeRecognizer session) stopped w]

end Gateway

namespace Station

/-- The station whose transcript starts now. -/
def transcribed (st : Station ω) : Station (ω × List Exchange) :=
  ⟨(st.state, []), st.stopped, st.recognizer, st.dice, st.journal⟩

/-- A run of the engine ends with a transcript as it does without: with the same report or crash,
and with the same station but for the transcript. -/
theorem execute_transcribed_alike (g : Gateway ω) (config : Config) (fuel : Nat) (lines : List Line)
    (st : Station ω) :
    (Engine.execute g.transcribed config fuel lines st.transcribed).Alike
      (Station.Mirrors (fun w w' => w.1 = w') st.journal st.journal)
      (fun _ => Station.Mirrors (fun w w' => w.1 = w') st.journal st.journal)
        (Engine.execute g config fuel lines st) :=
  g.mirrors_transcribed.execute_alike st.journal st.journal config fuel lines _ _
    ⟨rfl, rfl, rfl, rfl, #[], Array.append_empty.symm, Array.append_empty.symm⟩

/-- What has been asked and answered so far. -/
def transcript (st : Station (ω × List Exchange)) : List Exchange := st.state.2

/-- The transcript is read off the gateway's state alone. -/
theorem transcript_congr {s t : Station (ω × List Exchange)} (h : s.state = t.state) :
    s.transcript = t.transcript :=
  congrArg Prod.snd h

/-- The exchange in which the request would be answered now. -/
def exchange (g : Gateway ω) (r : Request) (st : Station (ω × List Exchange)) : Exchange :=
  g.exchange r st.stopped st.state.1

/-- Closing the recognizer adds that request to the transcript, or nothing. -/
theorem transcript_release (g : Gateway ω) (st : Station (ω × List Exchange)) :
    ∃ es, g.IsRelease es ∧ (st.release g.transcribed).transcript = st.transcript ++ es := by
  unfold release
  cases st.recognizer with
  | none => exact ⟨[], .inl rfl, (List.append_nil _).symm⟩
  | some session => exact ⟨_, .inr ⟨session, st.stopped, st.state.1, rfl⟩, rfl⟩

/-- A request is written down with its answer. If somebody else closes the engine meanwhile, then so
is the close of the recognizer. -/
theorem transcript_answered (g : Gateway ω) (r : Request) (st : Station (ω × List Exchange)) :
    ∃ es, g.IsRelease es ∧ (es ≠ [] → (st.exchange g r).signal = .close) ∧
      (st.answered g.transcribed r).transcript = st.transcript ++ st.exchange g r :: es := by
  let asked : Station (ω × List Exchange) :=
    { st with state := (g.transcribed.answer r st.stopped st.state).state }
  have hasked : asked.transcript = st.transcript ++ [st.exchange g r] := rfl
  unfold answered
  dsimp only
  cases hsignal : (g.transcribed.answer r st.stopped st.state).signal with
  | none => exact ⟨[], .inl rfl, nofun, hasked⟩
  | stop => exact ⟨[], .inl rfl, nofun, hasked⟩
  | close =>
    obtain ⟨es, hes, hreleased⟩ := transcript_release g { asked with stopped := true }
    refine ⟨es, hes, fun _ => hsignal, hreleased.trans ?_⟩
    show asked.transcript ++ es = _
    rw [hasked, List.append_assoc]
    rfl

/-- What is read off the transcript grows by what is read off the request with its answer, unless
something is read off the close of a recognizer. -/
theorem filterMap_answered {β : Type} {g : Gateway ω} {read : Exchange → Option β}
    (hread : ∀ session stopped w, read (g.exchange (.closeRecognizer session) stopped w) = none)
    (r : Request) (st : Station (ω × List Exchange)) :
    (st.answered g.transcribed r).transcript.filterMap read =
      st.transcript.filterMap read ++ (read (st.exchange g r)).toList := by
  obtain ⟨es, hes, -, htranscript⟩ := st.transcript_answered g r
  have hnone : es.filterMap read = [] := by
    rcases hes with rfl | ⟨session, stopped, w, rfl⟩
    · rfl
    · rw [List.filterMap_cons, hread]
      rfl
  rw [htranscript, List.filterMap_append, List.filterMap_cons, hnone]
  cases read (st.exchange g r) <;> rfl

/-- The stop flag is set behind a request if it was set before or somebody else has set it
meanwhile. -/
theorem stopped_answered_eq (g : Gateway ω) (r : Request) (st : Station ω) :
    (st.answered g r).stopped =
      (st.stopped || (g.answer r st.stopped st.state).signal != .none) := by
  have hrelease : ∀ t : Station ω, (t.release g).stopped = t.stopped := by
    intro t
    unfold release
    cases t.recognizer <;> rfl
  unfold answered
  dsimp only
  cases (g.answer r st.stopped st.state).signal with
  | none => exact (Bool.or_false _).symm
  | stop => exact (Bool.or_true _).symm
  | close => exact (hrelease _).trans (Bool.or_true _).symm

end Station

/-- What has been written down stays so, whatever a run does. -/
theorem Counterparts.of_transcript (g : Gateway ω) (es : List Exchange) :
    Counterparts g.transcribed g.transcribed (Held fun s => es <+: s.transcript)
      fun _ => Held fun s => es <+: s.transcript := by
  have hask : ∀ r, (ask g.transcribed r).Keeps (fun s => es <+: s.transcript)
      fun _ s => es <+: s.transcript := by
    intro r s hs
    have hanswered : es <+: (s.answered g.transcribed r).transcript := by
      obtain ⟨es', -, -, htranscript⟩ := s.transcript_answered g r
      exact htranscript ▸ hs.trans (List.prefix_append _ _)
    obtain ⟨reply, -, h⟩ | ⟨crash, -, h⟩ :=
      ask_cases g.transcribed r s <;> rw [h] <;> exact hanswered
  have hm : Matching (Held fun s : Station (ω × List Exchange) => es <+: s.transcript) :=
    .held fun hs hst => Station.transcript_congr hst ▸ hs
  exact .of_asks hm (fun r _ => Exec.alike_held_iff.2 (hask r)) fun a =>
    Exec.alike_held_iff.2 (hask (.act a))

end TapScript
