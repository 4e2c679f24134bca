import TapScript.Proofs.CrashReport
import TapScript.Proofs.Expansion
import TapScript.Proofs.Polling

/-! # Queries at a device that fails

A query looks at the device, and the device may refuse: there is no pixel, no picture of the screen,
no recognizer, no text. Such a failure is reported with the number of the line, and the query gives
the value that says "nothing found". Only a recognition that takes too long is no failure, since
another look may help. Whatever the device answers, the statement with the query goes on with a
value of the kind it counts on, unless the query itself panics: the center of a block of text is
computed with sums that may not fit, and so may the deadline of a wait.

* `Exchange.sensed?` reads a failure or a text off a request with its answer. `Diagnosed` says that
  all failures among some exchanges have been reported and all texts could be looked through,
  `Panicked` that there was a panic, and why.
* `Exec.Senses` says that a computation has sensed nothing but what its value tells of,
  `Exec.Diagnoses` that it has reported all failures, or panicked for a reason.
* `Poll.watch_diagnoses` is the loop that samples again and again, and `Command.perform_diagnoses`
  every query.
* `queries_fail_only_by_overflow` puts this together with the kinds of the values, and with the end
  of the loops; `getText_panics` is a query without a value. -/

namespace TapScript

variable {ω α β : Type}

/-! ## Failures, texts and reports -/

/-- What a look at the device has brought to light: a failure, or a text. -/
inductive Sensed where
  | failed (fault : Fault)
  | text (blocks : List TextBlock)

namespace Sensed

/-- The failure of a look, if it has failed. -/
def ofResult? : Except Fault α → Option Sensed
  | .error fault => some (.failed fault)
  | .ok _ => none

/-- The failure that a fault of a recognizer is, unless it took too long. -/
def ofFault? : Fault → Option Sensed
  | .timeout _ => none
  | fault => some (.failed fault)

/-- The failure to open a recognizer, if it was not opened. -/
def ofOpening? : Except Fault SessionId → Option Sensed
  | .error fault => ofFault? fault
  | .ok _ => none

/-- What the answer of a recognizer brings to light. -/
def ofRecognition? : Except Fault (List TextBlock) → Option Sensed
  | .error fault => ofFault? fault
  | .ok blocks => some (.text blocks)

end Sensed

namespace Request

/-- What the reply to a request brings to light. -/
def sensed? (r : Request) : r.Reply → Option Sensed :=
  match r with
  | .pixel _ | .screenshot | .findImage .. => Sensed.ofResult?
  | .openRecognizer => Sensed.ofOpening?
  | .recognize .. => fun
    | .answered result => Sensed.ofRecognition? result
    | _ => none
  | _ => fun _ => none

/-- The time that a request has read off the clock. -/
def reading? : (r : Request) → Except Crash r.Reply → Option Nat
  | .clock, .ok now => some now
  | _, _ => none

/-- Whether the request is a panic of the run itself. -/
def isPanic : Request → Bool
  | panic _ => true
  | _ => false

end Request

namespace Exchange

/-- What the exchange brings to light. -/
def sensed? (e : Exchange) : Option Sensed :=
  match e.outcome with
  | .ok reply => e.request.sensed? reply
  | .error _ => none

/-- The time that the exchange has read off the clock. -/
def reading? (e : Exchange) : Option Nat := e.request.reading? e.outcome

/-- All that the exchanges bring to light. -/
def sensed (es : List Exchange) : List Sensed := es.filterMap sensed?

/-- What two lists of exchanges bring to light together. -/
theorem sensed_append (es es' : List Exchange) : sensed (es ++ es') = sensed es ++ sensed es' :=
  List.filterMap_append

end Exchange

open Exchange (sensed sensed_append)

/-- Among the exchanges and the records, there is a complaint about the line with the given
number. -/
structure Complained (line : Nat) (message : String) (es : List Exchange) (rs : List Record) :
    Prop where
  logged : ∃ e ∈ es, e.request = .log s!"Line {line}: {message}"
  recorded : ⟨.error, message, [("line", toString line)]⟩ ∈ rs

/-- There is a complaint that tells of the fault. -/
def Fault.IsReported (fault : Fault) (line : Nat) (es : List Exchange) (rs : List Record) : Prop :=
  ∃ what : String, Complained line (what ++ fault.message) es rs

/-- A complaint remains one among more exchanges and records. -/
theorem Fault.IsReported.mono {fault : Fault} {line : Nat} {es es' : List Exchange}
    {rs rs' : List Record} (h : fault.IsReported line es rs) (hes : es ⊆ es') (hrs : rs ⊆ rs') :
    fault.IsReported line es' rs' :=
  h.imp fun _ h => ⟨h.logged.imp fun _ he => ⟨hes he.1, he.2⟩, hrs h.recorded⟩

/-- Each failure is reported, and if there is one then `P`. Each text is one that can be looked
through. -/
structure Diagnosed (line : Nat) (fits : List TextBlock → Prop) (P : Prop) (es : List Exchange)
    (rs : List Record) : Prop where
  failed : ∀ fault, .failed fault ∈ sensed es → P ∧ fault.IsReported line es rs
  text : ∀ blocks, .text blocks ∈ sensed es → fits blocks

/-- The run itself has panicked: there was a text that cannot be looked through, or a time too late
for the deadline of a wait. -/
inductive Panicked (fits : List TextBlock → Prop) (late : Nat → Prop) (es : List Exchange) : Prop
  | overflow {blocks : List TextBlock} (sensed : .text blocks ∈ sensed es) (large : ¬fits blocks)
      (panic : ∃ e ∈ es, e.request = .panic "attempt to add with overflow")
  | late {now : Nat} (reading : ∃ e ∈ es, e.reading? = some now) (late : late now)
      (panic : ∃ e ∈ es, e.request = .panic "overflow when adding duration to instant")

section Diagnosed

variable {line : Nat} {fits : List TextBlock → Prop} {late : Nat → Prop} {P Q R : Prop}
  {es es' : List Exchange} {rs rs' : List Record}

/-- Where nothing is sensed, there is nothing to report. -/
theorem Diagnosed.of_sensed_eq_nil (h : sensed es = []) : Diagnosed line fits P es rs := by
  constructor
  · intro fault hfault
    rw [h] at hfault
    cases hfault
  · intro blocks hblocks
    rw [h] at hblocks
    cases hblocks

/-- What is reported in two parts is reported altogether. -/
theorem Diagnosed.append (h : Diagnosed line fits P es rs) (h' : Diagnosed line fits Q es' rs')
    (hP : P → R) (hQ : Q → R) : Diagnosed line fits R (es ++ es') (rs ++ rs') := by
  constructor
  · intro fault hfault
    rw [sensed_append] at hfault
    rcases List.mem_append.1 hfault with hfault | hfault
    · obtain ⟨hp, hreported⟩ := h.failed fault hfault
      exact ⟨hP hp, hreported.mono (List.subset_append_left _ _) (List.subset_append_left _ _)⟩
    · obtain ⟨hq, hreported⟩ := h'.failed fault hfault
      exact ⟨hQ hq, hreported.mono (List.subset_append_right _ _) (List.subset_append_right _ _)⟩
  · intro blocks hblocks
    rw [sensed_append] at hblocks
    exact (List.mem_append.1 hblocks).elim (h.text blocks) (h'.text blocks)

/-- A panic remains one among more exchanges. -/
theorem Panicked.mono (h : Panicked fits late es) (hes : es ⊆ es') : Panicked fits late es' := by
  have hmem : ∀ {P : Exchange → Prop}, (∃ e ∈ es, P e) → ∃ e ∈ es', P e :=
    fun h => h.imp fun _ he => ⟨hes he.1, he.2⟩
  cases h with
  | overflow hsensed hlarge hpanic =>
    obtain ⟨e, he, htext⟩ := List.mem_filterMap.1 hsensed
    exact .overflow (List.mem_filterMap.2 ⟨e, hes he, htext⟩) hlarge (hmem hpanic)
  | late hreading hlate hpanic => exact .late (hmem hreading) hlate (hmem hpanic)

end Diagnosed

namespace Station

/-- From the first station to the second one there are these exchanges in the transcript and these
records in the journal. -/
structure Passes (s t : Station (ω × List Exchange)) (es : List Exchange) (rs : List Record) :
    Prop where
  transcript : t.transcript = s.transcript ++ es
  journal : t.journal.toList = s.journal.toList ++ rs

/-- Nothing passes between stations with the same transcript and the same journal. -/
theorem Passes.of_eq {s t : Station (ω × List Exchange)} (hstate : t.state = s.state)
    (hjournal : t.journal = s.journal) : s.Passes t [] [] :=
  ⟨(transcript_congr hstate).trans (List.append_nil _).symm, by rw [hjournal, List.append_nil]⟩

/-- An entry of the journal passes as a record. -/
theorem Passes.note (s : Station (ω × List Exchange)) (r : Record) : s.Passes (s.note r) [] [r] :=
  ⟨(List.append_nil _).symm, Array.toList_push⟩

/-- What passes on two stretches passes altogether. -/
theorem Passes.trans {s t u : Station (ω × List Exchange)} {es es' : List Exchange}
    {rs rs' : List Record} (h : s.Passes t es rs) (h' : t.Passes u es' rs') :
    s.Passes u (es ++ es') (rs ++ rs') := by
  constructor
  · rw [h'.transcript, h.transcript, List.append_assoc]
  · rw [h'.journal, h.journal, List.append_assoc]

/-- A request never removes records. -/
theorem journal_answered (g : Gateway ω) (r : Request) (s : Station ω) :
    ∃ rs, (s.answered g r).journal.toList = s.journal.toList ++ rs := by
  have hrelease : ∀ t : Station ω, ∃ rs, (t.release g).journal.toList = t.journal.toList ++ rs := by
    intro t
    unfold release
    cases t.recognizer with
    | none => exact ⟨[], (List.append_nil _).symm⟩
    | some session => exact ⟨_, Array.toList_push⟩
  unfold answered
  dsimp only
  cases (g.answer r s.stopped s.state).signal with
  | none => exact ⟨[], (List.append_nil _).symm⟩
  | stop => exact ⟨[], (List.append_nil _).symm⟩
  | close => exact hrelease _

/-- A request brings to light what its own answer does and nothing else, even if somebody else
closes the engine meanwhile. -/
theorem Passes.answered (g : Gateway ω) (r : Request) (s : Station (ω × List Exchange)) :
    ∃ es rs, s.Passes (s.answered g.transcribed r) es rs ∧ s.exchange g r ∈ es ∧
      sensed es = (s.exchange g r).sensed?.toList := by
  obtain ⟨es, hes, -, htranscript⟩ := s.transcript_answered g r
  obtain ⟨rs, hjournal⟩ := s.journal_answered g.transcribed r
  have hnone : sensed es = [] := by
    rcases hes with rfl | ⟨session, stopped, w, rfl⟩
    · rfl
    · refine List.filterMap_eq_nil_iff.2 (List.forall_mem_singleton.2 ?_)
      unfold Exchange.sensed?
      split <;> rfl
  refine ⟨s.exchange g r :: es, rs, ⟨htranscript, hjournal⟩, List.mem_cons_self, ?_⟩
  rw [← List.singleton_append, sensed_append, hnone, List.append_nil, sensed, List.filterMap_cons]
  cases (s.exchange g r).sensed? <;> rfl

end Station

/-! ## Computations that sense and report -/

namespace Exec

/-- Of every value that the computation ends with, together with the exchanges and the records on
the way, the first relation holds, and if it crashes, the second one holds of the exchanges. -/
def Tells (R : α → List Exchange → List Record → Prop) (E : List Exchange → Prop)
    (x : Exec (Station (ω × List Exchange)) α) : Prop :=
  ∀ s, (x s).Meets (fun a t => ∃ es rs, s.Passes t es rs ∧ R a es rs)
    fun t => ∃ es rs, s.Passes t es rs ∧ E es

/-- The computation never crashes, and senses nothing on the way but what the value tells of. -/
def Senses (what? : α → Option Sensed) (x : Exec (Station (ω × List Exchange)) α) : Prop :=
  x.Tells (fun a es _ => sensed es = (what? a).toList) fun _ => False

/-- The computation never crashes, and senses nothing on the way. -/
def IsCalm (x : Exec (Station (ω × List Exchange)) α) : Prop := x.Senses fun _ => none

/-- Each failure on the way is reported, and a value behind one has the property. If the computation
crashes, it was a panic. -/
def Diagnoses (line : Nat) (fits : List TextBlock → Prop) (late : Nat → Prop) (P : α → Prop)
    (x : Exec (Station (ω × List Exchange)) α) : Prop :=
  x.Tells (fun a es rs => Diagnosed line fits (P a) es rs) (Panicked fits late)

variable {x : Exec (Station (ω × List Exchange)) α} {f : α → Exec (Station (ω × List Exchange)) β}
  {line : Nat} {fits : List TextBlock → Prop} {late : Nat → Prop}

/-- A value without exchanges and records. -/
theorem tells_pure {R : α → List Exchange → List Record → Prop} {E : List Exchange → Prop} {a : α}
    (h : R a [] []) : (pure a : Exec (Station (ω × List Exchange)) α).Tells R E :=
  fun _ => ⟨[], [], .of_eq rfl rfl, h⟩

/-- Weaker relations hold too. -/
theorem Tells.imp {R R' : α → List Exchange → List Record → Prop} {E E' : List Exchange → Prop}
    (hx : x.Tells R E) (h : ∀ a es rs, R a es rs → R' a es rs) (hE : ∀ es, E es → E' es) :
    x.Tells R' E' := fun s =>
  (hx s).imp (fun a _ ⟨es, rs, hpasses, hr⟩ => ⟨es, rs, hpasses, h a es rs hr⟩)
    fun _ ⟨es, rs, hpasses, he⟩ => ⟨es, rs, hpasses, hE es he⟩

/-- What is told by the parts of a sequence is told by the sequence, of all exchanges and records
together. -/
theorem Tells.bind {R : α → List Exchange → List Record → Prop}
    {R' : α → β → List Exchange → List Record → Prop} {R'' : β → List Exchange → List Record → Prop}
    {E : List Exchange → Prop} {E' : α → List Exchange → Prop} (hx : x.Tells R E)
    (hf : ∀ a, (f a).Tells (R' a) (E' a))
    (h : ∀ a b es rs es' rs', R a es rs → R' a b es' rs' → R'' b (es ++ es') (rs ++ rs'))
    (hE : ∀ a es rs es', R a es rs → E' a es' → E (es ++ es')) : (x >>= f).Tells R'' E := by
  refine fun s => Outcome.Meets.bind ((hx s).imp (fun a t ht => ?_) fun _ hc => hc)
  obtain ⟨es, rs, hpasses, hr⟩ := ht
  refine (hf a t).imp (fun b u hu => ?_) fun u hu => ?_
  · obtain ⟨es', rs', hpasses', hr'⟩ := hu
    exact ⟨es ++ es', rs ++ rs', hpasses.trans hpasses', h a b es rs es' rs' hr hr'⟩
  · obtain ⟨es', rs', hpasses', he'⟩ := hu
    exact ⟨es ++ es', rs ++ rs', hpasses.trans hpasses', hE a es rs es' hr he'⟩

/-- A value that tells of nothing. -/
theorem senses_pure {what? : α → Option Sensed} {a : α} (h : what? a = none) :
    (pure a : Exec (Station (ω × List Exchange)) α).Senses what? :=
  tells_pure (by rw [h]; rfl)

/-- A value senses nothing. -/
theorem isCalm_pure (a : α) : (pure a : Exec (Station (ω × List Exchange)) α).IsCalm :=
  senses_pure rfl

/-- A sequence senses what its parts sense, if its value tells of it. -/
theorem Senses.bind {what? : α → Option Sensed} {what?' : β → Option Sensed} (hx : x.Senses what?)
    (hf : ∀ a, (f a).Tells (fun b es _ => (what? a).toList ++ sensed es = (what?' b).toList)
      fun _ => False) : (x >>= f).Senses what?' := by
  refine Tells.bind hx hf (fun a b es rs es' rs' h h' => ?_) fun _ _ _ _ _ h => h
  rw [sensed_append, h, h']

/-- Behind a calm first part, a sequence senses what its second part does. -/
theorem IsCalm.senses {what? : β → Option Sensed} (hx : x.IsCalm) (hf : ∀ a, (f a).Senses what?) :
    (x >>= f).Senses what? :=
  Senses.bind hx hf

/-- Where nothing is sensed, there is nothing to report. -/
theorem IsCalm.diagnoses (hx : x.IsCalm) (P : α → Prop) : x.Diagnoses line fits late P :=
  Tells.imp hx (fun _ _ _ h => .of_sensed_eq_nil h) fun _ h => h.elim

/-- A value reports nothing. -/
theorem diagnoses_pure (a : α) (P : α → Prop) :
    (pure a : Exec (Station (ω × List Exchange)) α).Diagnoses line fits late P :=
  (isCalm_pure a).diagnoses P

/-- If the first part of a sequence has met a failure, then the second part has to give a value with
the property. -/
theorem Diagnoses.bind {P : α → Prop} {Q : β → Prop} (hx : x.Diagnoses line fits late P)
    (hf : ∀ a, (f a).Diagnoses line fits late Q) (hr : ∀ a, P a → (f a).Returns Q) :
    (x >>= f).Diagnoses line fits late Q := by
  -- what the second part tells, with what the value has to be if the first part has met a failure
  have hf' : ∀ a, (f a).Tells (fun b es rs => Diagnosed line fits (Q b) es rs ∧ (P a → Q b))
      (Panicked fits late) := by
    intro a s
    by_cases ha : P a
    · refine ((hf a s).and (hr a ha s)).imp (fun b t ht => ?_) fun _ hc => hc.1
      obtain ⟨⟨es, rs, hpasses, hdiagnosed⟩, hb⟩ := ht
      exact ⟨es, rs, hpasses, hdiagnosed, fun _ => hb⟩
    · exact (hf a).imp (fun b es rs h => ⟨h, fun h' => absurd h' ha⟩) (fun _ h => h) s
  exact Tells.bind hx hf' (fun a b es rs es' rs' h h' => h.append h'.1 h'.2 id)
    fun _ _ _ _ _ h => h.mono (List.subset_append_right _ _)

/-- Behind a calm first part, a sequence reports what its second part does. -/
theorem IsCalm.bind_diagnoses {Q : β → Prop} (hx : x.IsCalm)
    (hf : ∀ a, (f a).Diagnoses line fits late Q) : (x >>= f).Diagnoses line fits late Q :=
  (hx.diagnoses fun _ => False).bind hf fun _ h => h.elim

/-- A result is reported if it is a fault. -/
theorem Senses.report_result {x : Exec (Station (ω × List Exchange)) (Except Fault α)}
    {f : Except Fault α → Exec (Station (ω × List Exchange)) β} {Q : β → Prop}
    (hx : x.Senses Sensed.ofResult?) (hok : ∀ a, (f (.ok a)).Diagnoses line fits late Q)
    (herror : ∀ fault, (f (.error fault)).Tells (fun b es rs =>
      Q b ∧ sensed es = [] ∧ fault.IsReported line es rs) fun _ => False) :
    (x >>= f).Diagnoses line fits late Q := by
  -- the second part either reports the fault and senses nothing, or has nothing to report
  have hf : ∀ result, (f result).Tells (fun b es rs => match (result : Except Fault α) with
      | .ok _ => Diagnosed line fits (Q b) es rs
      | .error fault => Q b ∧ sensed es = [] ∧ fault.IsReported line es rs)
      (Panicked fits late) := by
    intro result
    cases result with
    | ok a => exact hok a
    | error fault => exact (herror fault).imp (fun _ _ _ h => h) fun _ h => h.elim
  have hx' : x.Tells (fun result es _ => sensed es = (Sensed.ofResult? result).toList)
      (Panicked fits late) := Tells.imp hx (fun _ _ _ h => h) fun _ h => h.elim
  refine hx'.bind hf (fun result b es rs es' rs' h h' => ?_)
    fun _ _ _ _ _ h => h.mono (List.subset_append_right _ _)
  cases result with
  | ok a =>
    have hfirst : Diagnosed line fits False es rs := .of_sensed_eq_nil h
    exact hfirst.append h' False.elim id
  | error fault =>
    obtain ⟨hb, hnone, hreported⟩ := h'
    have hsensed : sensed (es ++ es') = [.failed fault] := by
      rw [sensed_append, h, hnone]
      rfl
    constructor
    · intro fault' hfault'
      rw [hsensed] at hfault'
      cases List.mem_singleton.1 hfault'
      exact ⟨hb, hreported.mono (List.subset_append_right _ _) (List.subset_append_right _ _)⟩
    · intro blocks hblocks
      rw [hsensed] at hblocks
      cases List.mem_singleton.1 hblocks

/-- Reading the station senses nothing. -/
theorem isCalm_gets (read : Station (ω × List Exchange) → α) : (gets read).IsCalm :=
  fun _ => ⟨[], [], .of_eq rfl rfl, rfl⟩

/-- A change of the station that leaves the transcript and the journal as they are. -/
theorem isCalm_modify {change : Station (ω × List Exchange) → Station (ω × List Exchange)}
    (hstate : ∀ s, (change s).state = s.state) (hjournal : ∀ s, (change s).journal = s.journal) :
    (modify change).IsCalm :=
  fun s => ⟨[], [], .of_eq (hstate s) (hjournal s), rfl⟩

/-- An entry of the journal senses nothing. -/
theorem isCalm_record (level : Level) (message : String) (fields : List (String × String)) :
    (record level message fields : Exec (Station (ω × List Exchange)) Unit).IsCalm :=
  fun s => ⟨[], [⟨level, message, fields⟩], .note s _, rfl⟩

/-- A draw senses nothing. -/
theorem isCalm_rollDice (lo hi : Int) :
    (rollDice lo hi : Exec (Station (ω × List Exchange)) Int).IsCalm :=
  fun _ => ⟨[], [], .of_eq rfl rfl, rfl⟩

end Exec

/-! ## Requests -/

/-- A panic of the run is a crash, with the message among the exchanges. -/
theorem raise_tells (g : Gateway ω) (message : String)
    (R : α → List Exchange → List Record → Prop) :
    (raise g.transcribed message).Tells R fun es => ∃ e ∈ es, e.request = .panic message := by
  intro s
  obtain ⟨es, rs, hpasses, hmem, -⟩ := Station.Passes.answered g (.panic message) s
  obtain ⟨never, -⟩ | ⟨crash, -, hask⟩ := ask_cases g.transcribed (.panic message) s
  · exact never.elim
  · refine Outcome.Meets.bind (?_ : (ask g.transcribed (.panic message) s).Meets _ _)
    rw [hask]
    exact ⟨es, rs, hpasses, _, hmem, rfl⟩

section Requests

open Exec

variable {g : Gateway ω} (hg : ∀ r : Request, r.isPanic = false → g.Answers r) {line : Nat}
  {fits : List TextBlock → Prop} {late : Nat → Prop}

include hg

/-- A request other than a panic is answered, and the answer is among the exchanges. -/
theorem ask_tells {r : Request} (hr : r.isPanic = false) :
    (ask g.transcribed r).Tells (fun reply es _ =>
      sensed es = (r.sensed? reply).toList ∧ ∃ signal, ⟨r, .ok reply, signal⟩ ∈ es)
      fun _ => False := by
  intro s
  obtain ⟨es, rs, hpasses, hmem, hsensed⟩ := Station.Passes.answered g r s
  obtain ⟨reply, houtcome, hask⟩ | ⟨crash, houtcome, -⟩ := ask_cases g.transcribed r s
  · have hexchange : s.exchange g r = ⟨r, .ok reply, (s.exchange g r).signal⟩ :=
      congrArg (Exchange.mk r · (s.exchange g r).signal) houtcome
    rw [hexchange] at hmem hsensed
    rw [hask]
    exact ⟨es, rs, hpasses, hsensed, _, hmem⟩
  · obtain ⟨reply, hreply⟩ := hg r hr s.stopped s.state.1
    exact absurd (hreply.symm.trans houtcome) nofun

/-- A request senses what its reply tells of. -/
theorem ask_senses {r : Request} (hr : r.isPanic = false) :
    (ask g.transcribed r).Senses r.sensed? :=
  (ask_tells hg hr).imp (fun _ _ _ h => h.1) fun _ h => h

/-- A look at the stop flag senses nothing. -/
theorem stopRequested_isCalm : (stopRequested g.transcribed).IsCalm :=
  IsCalm.senses (ask_senses hg (r := .checkpoint) rfl) fun _ => isCalm_gets _

/-- A line of the log senses nothing. -/
theorem log_isCalm (message : String) : (log g.transcribed message).IsCalm :=
  (isCalm_record _ _ _).senses fun _ => ask_senses hg (r := .log message) rfl

/-- A complaint is a line of the log and a record, both with the number of the line. -/
theorem fail_tells (line : Nat) (message : String) :
    (fail g.transcribed line message).Tells
      (fun _ es rs => sensed es = [] ∧ Complained line message es rs) fun _ => False := by
  have hrecord : (record .error message [("line", toString line)] :
      Exec (Station (ω × List Exchange)) Unit).Tells
      (fun _ es rs => es = [] ∧ rs = [⟨.error, message, [("line", toString line)]⟩])
      fun _ => False :=
    fun s => ⟨_, _, .note s _, rfl, rfl⟩
  refine hrecord.bind (fun _ => ask_tells hg (r := .log s!"Line {line}: {message}") rfl) ?_
    fun _ _ _ _ _ h => h
  rintro _ _ _ _ es rs ⟨rfl, rfl⟩ ⟨hnone, signal, hlogged⟩
  exact ⟨hnone, ⟨_, hlogged, rfl⟩, List.mem_cons_self⟩

/-- What is done about a fault: a complaint, and a value. -/
theorem fail_return_tells (line : Nat) (what : String) (fault : Fault) {Q : β → Prop} {b : β}
    (hb : Q b) :
    (do fail g.transcribed line (what ++ fault.message); return b).Tells (fun b es rs =>
      Q b ∧ sensed es = [] ∧ fault.IsReported line es rs) fun _ => False := by
  have hreturn : (pure b : Exec (Station (ω × List Exchange)) β).Tells
      (fun b' es rs => b' = b ∧ es = [] ∧ rs = []) fun _ => False :=
    tells_pure ⟨rfl, rfl, rfl⟩
  refine (fail_tells hg line _).bind (fun _ => hreturn) ?_ fun _ _ _ _ _ h => h
  rintro - b' es rs - - ⟨hnone, hcomplained⟩ ⟨rfl, rfl, rfl⟩
  rw [List.append_nil, List.append_nil]
  exact ⟨hb, hnone, what, hcomplained⟩

/-! ## Waiting -/

/-- Slices of sleep sense nothing. The induction is on the slices that are allowed. -/
theorem sleepUntil_isCalm (slice : Duration) (deadline fuel : Nat) :
    (sleepUntil g.transcribed slice deadline fuel).IsCalm := by
  induction fuel with
  | zero => exact fun _ => trivial
  | succ fuel ih =>
    refine (stopRequested_isCalm hg).senses fun stopped => ?_
    cases stopped with
    | true => exact isCalm_pure _
    | false =>
      refine IsCalm.senses (ask_senses hg (r := .clock) rfl) fun now => ?_
      show IsCalm (if deadline ≤ now then pure true else _)
      split
      · exact isCalm_pure _
      · exact IsCalm.senses (ask_senses hg (r := .pause _) rfl) fun _ => ih

/-- Sleeping senses nothing, and panics only at a time too late for its deadline. -/
theorem sleep_diagnoses (fuel : Nat) {duration : Duration} (slice : Duration)
    (hlate : ∀ now, endOfTime ≤ now + duration → late now) (P : Bool → Prop) :
    (sleep g.transcribed fuel duration slice).Diagnoses line fits late P := by
  have hclock : (clock g.transcribed).Tells (fun now es _ =>
      sensed es = [] ∧ ∃ e ∈ es, e.reading? = some now) (Panicked fits late) := by
    refine (ask_tells hg (r := .clock) rfl).imp ?_ fun _ h => h.elim
    rintro now es - ⟨hnone, signal, hmem⟩
    exact ⟨hnone, _, hmem, rfl⟩
  -- behind the reading: a panic that it is the cause of, or calm
  have hrest : ∀ now : Nat, Tells (fun (_ : Bool) es _ => sensed es = [])
      (fun es => late now ∧
        ∃ e ∈ es, e.request = .panic "overflow when adding duration to instant")
      (if endOfTime ≤ now + duration then
        raise g.transcribed "overflow when adding duration to instant"
      else sleepUntil g.transcribed slice (now + duration) fuel) := by
    intro now
    by_cases h : endOfTime ≤ now + duration
    · rw [if_pos h]
      exact (raise_tells g _ _).imp (fun _ _ _ h => h) fun _ hpanic => ⟨hlate now h, hpanic⟩
    · rw [if_neg h]
      exact Tells.imp (sleepUntil_isCalm hg slice _ fuel) (fun _ _ _ h => h) fun _ h => h.elim
  refine hclock.bind hrest (fun now b es rs es' rs' h h' => ?_) fun now es rs es' h h' => ?_
  · exact .of_sensed_eq_nil (by rw [sensed_append, h.1, h', List.append_nil])
  · obtain ⟨-, e, he, hreading⟩ := h
    obtain ⟨hlate, e', he', hpanic⟩ := h'
    exact .late ⟨e, List.mem_append_left _ he, hreading⟩ hlate
      ⟨e', List.mem_append_right _ he', hpanic⟩

/-- The turn of a timer senses nothing, and panics only at a time too late for its interval. -/
theorem timer_next_diagnoses (fuel : Nat) (timer : PollTimer) (slice : Duration)
    (hlate : ∀ now, endOfTime ≤ now + timer.interval → late now) (P : Bool → Prop) :
    (timer.next g.transcribed fuel slice).Diagnoses line fits late P := by
  have helapsed : (timer.elapsed g.transcribed).IsCalm :=
    IsCalm.senses (ask_senses hg (r := .clock) rfl) fun _ => isCalm_pure _
  refine (stopRequested_isCalm hg).bind_diagnoses fun stopped => ?_
  cases stopped with
  | true => exact diagnoses_pure _ _
  | false =>
    refine helapsed.bind_diagnoses fun elapsed => ?_
    show Diagnoses line fits late P (if timer.budget ≤ elapsed then pure false else _)
    split
    · exact diagnoses_pure _ _
    · refine helapsed.bind_diagnoses fun elapsed' => ?_
      refine (sleep_diagnoses hg fuel slice (fun now h => hlate now ?_) fun _ => False).bind
        (fun rested => ?_) fun _ h => h.elim
      · exact Nat.le_trans h (Nat.add_le_add_left (Nat.min_le_left _ _) now)
      · cases rested with
        | true => exact (stopRequested_isCalm hg).bind_diagnoses fun _ => diagnoses_pure _ _
        | false => exact diagnoses_pure _ _

/-! ## Looking at the screen -/

/-- The failure to open a recognizer is one that the value tells of. -/
theorem opened_senses : (Recognizer.opened g.transcribed).Senses Sensed.ofOpening? := by
  refine (isCalm_gets _).senses fun session => ?_
  cases session with
  | some session => exact senses_pure rfl
  | none =>
    refine (isCalm_record _ _ _).senses fun _ => ?_
    refine (ask_senses hg (r := .openRecognizer) rfl).bind fun reply => ?_
    cases reply with
    | error fault => exact tells_pure (List.append_nil _)
    | ok session =>
      refine IsCalm.senses (isCalm_modify (fun _ => rfl) fun _ => rfl) fun _ => ?_
      exact senses_pure rfl

/-- A recognizer that is consulted senses a text, or a failure to open it or to recognize a text. -/
theorem consult_senses (bound : Duration) (interval : Option Duration) (looked : Bool)
    (image : Screenshot) :
    (Recognizer.consult g.transcribed bound interval looked image).Senses fun result =>
      result.bind Sensed.ofRecognition? := by
  refine (opened_senses hg).bind fun opened => ?_
  cases opened with
  | error fault => exact tells_pure (List.append_nil _)
  | ok session =>
    refine (isCalm_gets _).senses fun stopped => ?_
    refine (ask_senses hg (r := .recognize session image bound _) rfl).bind fun recognition => ?_
    cases recognition with
    | answered result => exact tells_pure (List.append_nil _)
    | late => exact senses_pure rfl
    | dropped =>
      refine IsCalm.senses (isCalm_modify (fun _ => rfl) fun _ => rfl) fun _ => ?_
      exact senses_pure rfl

/-- The first look at the stop flag senses nothing. -/
theorem glance_isCalm (watched : Bool) : (Recognizer.glance g.transcribed watched).IsCalm := by
  cases watched with
  | false => exact isCalm_pure _
  | true =>
    refine (isCalm_rollDice 0 1).senses fun first => ?_
    split
    · exact isCalm_pure _
    · exact (stopRequested_isCalm hg).senses fun _ => isCalm_pure _

/-- A recognition senses what its result tells of. -/
theorem recognize?_senses (bound : Duration) (interval : Option Duration) (image : Screenshot) :
    (Recognizer.recognize? g.transcribed bound interval image).Senses fun result =>
      result.bind Sensed.ofRecognition? := by
  refine (glance_isCalm hg _).senses fun first => ?_
  split
  · exact senses_pure rfl
  · exact consult_senses hg bound interval _ image

end Requests

/-- What a look at the text of the screen brings to light. -/
def Sight.sensed? : Sight → Option Sensed
  | unseen fault => some (.failed fault)
  | read blocks => some (.text blocks)
  | unread fault => Sensed.ofFault? fault
  | stopped => none

/-- A look at the text of the screen senses what its value tells of. -/
theorem sight_senses {g : Gateway ω} (hg : ∀ r : Request, r.isPanic = false → g.Answers r)
    (config : Config) : (sight g.transcribed config).Senses Sight.sensed? := by
  open Exec in
  refine (ask_senses hg (r := .screenshot) rfl).bind fun reply => ?_
  cases reply with
  | error fault => exact tells_pure (List.append_nil _)
  | ok image =>
    refine (recognize?_senses hg _ _ image).bind fun recognized => ?_
    cases recognized with
    | none => exact senses_pure rfl
    | some result => cases result <;> exact tells_pure (List.append_nil _)

/-! ## Sampling -/

namespace Poll

open Exec

variable {g : Gateway ω} (hg : ∀ r : Request, r.isPanic = false → g.Answers r)
  {p : Poll (ω × List Exchange) β α} {line : Nat} {fits : List TextBlock → Prop}
  {late : Nat → Prop} {what? : β → Option Sensed}

/-- A sample has sensed what it tells of, and is reported if it has failed. -/
def IsSample (line : Nat) (what? : β → Option Sensed) (b : β) (es : List Exchange)
    (rs : List Record) : Prop :=
  sensed es = (what? b).toList ∧
    ∀ fault, what? b = some (.failed fault) → fault.IsReported line es rs

/-- What follows a sample reports the rest, knows what becomes of a failure, and panics at a text
that cannot be looked through. -/
theorem diagnoses_behind_sample {sample : Exec (Station (ω × List Exchange)) β} {γ : Type}
    {f : β → Exec (Station (ω × List Exchange)) γ} {Q : γ → Prop}
    (hsample : sample.Tells (IsSample line what?) fun _ => False)
    (hf : ∀ b, (f b).Tells (fun c es rs => Diagnosed line fits (Q c) es rs ∧
        (∀ fault, what? b = some (.failed fault) → Q c) ∧
        ∀ blocks, what? b = some (.text blocks) → fits blocks)
      fun es => Panicked fits late es ∨ (∃ blocks, what? b = some (.text blocks) ∧ ¬fits blocks) ∧
        ∃ e ∈ es, e.request = .panic "attempt to add with overflow") :
    (sample >>= f).Diagnoses line fits late Q := by
  have hsample' : sample.Tells (IsSample line what?) (Panicked fits late) :=
    hsample.imp (fun _ _ _ h => h) fun _ h => h.elim
  refine hsample'.bind hf (fun b c es rs es' rs' h h' => ?_) fun b es rs es' h h' => ?_
  · obtain ⟨hsensed, hreported⟩ := h
    obtain ⟨hrest, hfailed, htext⟩ := h'
    have hfirst : Diagnosed line fits (Q c) es rs := by
      constructor
      · intro fault hfault
        rw [hsensed, Option.mem_toList] at hfault
        exact ⟨hfailed fault hfault, hreported fault hfault⟩
      · intro blocks hblocks
        rw [hsensed, Option.mem_toList] at hblocks
        exact htext blocks hblocks
    exact hfirst.append hrest id id
  · rcases h' with hpanicked | ⟨⟨blocks, htext, hlarge⟩, e, he, hpanic⟩
    · exact hpanicked.mono (List.subset_append_right _ _)
    · have hmem : .text blocks ∈ sensed (es ++ es') := by
        rw [sensed_append, h.1, htext]
        exact List.mem_cons_self
      exact .overflow hmem hlarge ⟨e, List.mem_append_right _ he, hpanic⟩

/-- A sample that has failed is reported, and decides that nothing is found. A text is a panic
exactly if it cannot be looked through. -/
structure Reports (p : Poll ω β α) (what? : β → Option Sensed) (fits : List TextBlock → Prop) :
    Prop where
  failed : ∀ b fault, what? b = some (.failed fault) →
    p.finding b = .hopeless ∧ ∃ what : String, p.complaint b = some (what ++ fault.message)
  text : ∀ b blocks, what? b = some (.text blocks) →
    fits blocks ∨ ∃ message, p.finding b = .broken message
  broken : ∀ b message, p.finding b = .broken message → message = "attempt to add with overflow" ∧
    ∃ blocks, what? b = some (.text blocks) ∧ ¬fits blocks

include hg in
/-- Taking a sample. -/
theorem sample_tells (hlook : p.look.Senses what?)
    (hcomplaint : ∀ b fault, what? b = some (.failed fault) →
      ∃ what : String, p.complaint b = some (what ++ fault.message)) :
    (p.sample g.transcribed line).Tells (IsSample line what?) fun _ => False := by
  -- the report senses nothing, and is there if the sample has failed
  have hreport : ∀ b, (p.report g.transcribed line b).Tells (fun b' es rs => b' = b ∧
      sensed es = [] ∧ ∀ fault, what? b = some (.failed fault) → fault.IsReported line es rs)
      fun _ => False := by
    intro b
    have hreturn : (pure b : Exec (Station (ω × List Exchange)) β).Tells
        (fun b' es rs => b' = b ∧ es = [] ∧ rs = []) fun _ => False :=
      tells_pure ⟨rfl, rfl, rfl⟩
    unfold report
    cases hb : p.complaint b with
    | none =>
      refine tells_pure ⟨rfl, rfl, fun fault hfault => ?_⟩
      obtain ⟨what, hwhat⟩ := hcomplaint b fault hfault
      rw [hb] at hwhat
      cases hwhat
    | some message =>
      refine (fail_tells hg line message).bind (fun _ => hreturn) ?_ fun _ _ _ _ _ h => h
      rintro - b' es rs - - ⟨hnone, hcomplained⟩ ⟨rfl, rfl, rfl⟩
      rw [List.append_nil, List.append_nil]
      refine ⟨rfl, hnone, fun fault hfault => ?_⟩
      obtain ⟨what, hwhat⟩ := hcomplaint b' fault hfault
      rw [hb] at hwhat
      cases hwhat
      exact ⟨what, hcomplained⟩
  refine Tells.bind hlook hreport ?_ fun _ _ _ _ _ h => h
  rintro b b' es rs es' rs' h ⟨rfl, hnone, hreported⟩
  refine ⟨by rw [sensed_append, h, hnone, List.append_nil], fun fault hfault => ?_⟩
  exact (hreported fault hfault).mono (List.subset_append_right _ _) (List.subset_append_right _ _)

/-- The loop, by induction on the samples that are allowed. Behind a failure there is no other
sample, and a text that cannot be looked through is a panic. -/
theorem watch_diagnoses {sample : Exec (Station (ω × List Exchange)) β}
    {turn : Exec (Station (ω × List Exchange)) Bool} (hp : p.Reports what? fits)
    (hsample : sample.Tells (IsSample line what?) fun _ => False)
    (hturn : turn.Diagnoses line fits late fun _ => False) (samples : Nat) :
    (watch g.transcribed sample p.finding turn samples).Diagnoses line fits late
      fun found => found = none := by
  induction samples with
  | zero => exact fun _ => trivial
  | succ samples ih =>
    refine diagnoses_behind_sample hsample fun b => ?_
    -- unless the sample decides so, nothing has failed and every text can be looked through
    have hfailed : p.finding b ≠ .hopeless → ∀ fault, what? b ≠ some (.failed fault) :=
      fun hb fault hfault => hb (hp.failed b fault hfault).1
    have htext : (∀ message, p.finding b ≠ .broken message) →
        ∀ blocks, what? b = some (.text blocks) → fits blocks := fun hb blocks hblocks =>
      (hp.text b blocks hblocks).resolve_right fun ⟨message, hmessage⟩ => hb message hmessage
    have hbroken := hp.broken b
    generalize p.finding b = decided at hfailed htext hbroken ⊢
    cases decided with
    | found a =>
      refine tells_pure ⟨.of_sensed_eq_nil rfl, fun fault hfault => ?_, htext nofun⟩
      exact absurd hfault (hfailed nofun fault)
    | hopeless => exact tells_pure ⟨.of_sensed_eq_nil rfl, fun _ _ => rfl, htext nofun⟩
    | broken message =>
      obtain ⟨rfl, hlarge⟩ := hbroken message rfl
      exact (raise_tells g _ _).imp (fun _ _ _ h => h) fun _ hpanic => .inr ⟨hlarge, hpanic⟩
    | undecided =>
      have hagain : Diagnoses line fits late (fun found => found = none) (do
          if ← turn then watch g.transcribed sample p.finding turn samples else return none) := by
        refine hturn.bind (fun more => ?_) fun _ h => h.elim
        cases more with
        | true => exact ih
        | false => exact diagnoses_pure _ _
      refine hagain.imp (fun found es rs h => ⟨h, fun fault hfault => ?_, htext nofun⟩)
        fun _ h => .inl h
      exact absurd hfault (hfailed nofun fault)

/-- What is said of a look at the text of the screen that has failed. -/
theorem complaint_of_failed {sight : Sight} {fault : Fault}
    (h : sight.sensed? = some (.failed fault)) :
    ∃ what : String, sight.complaint = some (what ++ fault.message) := by
  cases sight with
  | unseen =>
    cases h
    exact ⟨_, rfl⟩
  | read => cases h
  | unread fault' => cases fault' <;> cases h <;> exact ⟨_, rfl⟩
  | stopped => cases h

/-- A pixel that cannot be read is reported, and there is no text. -/
theorem reports_ofColor (q : Point) (color : Color) :
    (ofColor g.transcribed q color).Reports Sensed.ofResult? fits where
  failed reply fault h := by
    cases reply with
    | error =>
      cases h
      exact ⟨rfl, _, rfl⟩
    | ok => cases h
  text reply blocks h := by cases reply <;> cases h
  broken reply message h := by
    cases reply with
    | error => cases h
    | ok actual =>
      have h : (if actual = color then Finding.found () else .undecided) = .broken message := h
      split at h <;> cases h

/-- A text that is not recognized is reported, and one is a panic if the block that the check comes
to has no center. -/
theorem reports_ofText (config : Config) (q : TextBlock → Bool) (found : TextBlock → α) :
    (ofText g.transcribed config (firstBlock q found)).Reports Sight.sensed?
      fun blocks => (blocks.find? q).all (·.bounds.hasCenter) where
  failed sight fault h := by
    refine ⟨?_, complaint_of_failed h⟩
    cases sight with
    | unread fault' => cases fault' <;> cases h <;> rfl
    | read => cases h
    | _ => rfl
  text sight blocks h := by
    cases sight with
    | read =>
      cases h
      show _ ∨ ∃ message, Sight.finding (firstBlock q found) (.read blocks) = .broken message
      -- the check comes to the first block that it looks for, and to no other one
      rw [Sight.finding, firstBlock]
      cases blocks.find? q with
      | none => exact .inl rfl
      | some b =>
        cases hcenter : b.bounds.hasCenter with
        | true => exact .inl hcenter
        | false => exact .inr ⟨_, by simp only [hcenter]; rfl⟩
    | unread fault => cases fault <;> cases h
    | _ => cases h
  broken sight message h := by
    cases sight with
    | read blocks =>
      have h : Sight.finding (firstBlock q found) (.read blocks) = .broken message := h
      rw [Sight.finding, firstBlock] at h
      cases hfind : blocks.find? q with
      | none =>
        rw [hfind] at h
        cases h
      | some b =>
        rw [hfind] at h
        cases hcenter : b.bounds.hasCenter with
        | true => simp [hcenter] at h
        | false =>
          simp only [hcenter] at h
          cases h
          exact ⟨rfl, blocks, rfl, by rw [hfind]; simp [hcenter]⟩
    | unread fault => cases fault <;> cases h
    | _ => cases h

end Poll

/-! ## Queries -/

namespace Command

open Exec

/-- The value of a query that says "nothing found". -/
def sentinel : Command → Value
  | getVar .. | getText .. => .text []
  | getColor .. | findText .. | findImage .. => .null
  | _ => .bool false

/-- Whether a query samples the screen until its time is over. -/
def polls : Command → Bool
  | waitForColor .. | waitForText .. | findText .. => true
  | _ => false

/-- Whether a query can look through the text: each block that it comes to, and that it takes the
center of, has one. -/
def copes (blocks : List TextBlock) : Command → Bool
  | getText _ => blocks.all (·.bounds.hasCenter)
  | waitForText area text _ =>
    (blocks.find? (TextBlock.endsSearch area text)).all (·.bounds.hasCenter)
  | findText text _ => (blocks.find? (·.holds text)).all (·.bounds.hasCenter)
  | _ => true

/-- Whether it is too late for a query to wait for the next sample. -/
def IsLate (config : Config) (c : Command) (now : Nat) : Prop :=
  c.polls = true ∧ endOfTime ≤ now + config.pollInterval

/-- The blocks in an area are found exactly if all blocks have a center. -/
theorem blocksIn_eq (area : Region) (blocks : List TextBlock) :
    blocksIn area blocks =
      if blocks.all (·.bounds.hasCenter) then
        .ok (blocks.filter fun b => area.contains b.bounds.center)
      else .error "attempt to add with overflow" := by
  induction blocks with
  | nil => rfl
  | cons b blocks ih =>
    rw [blocksIn, ih, Region.checkedCenter, List.all_cons, List.filter_cons]
    cases b.bounds.hasCenter with
    | false => rfl
    | true => cases blocks.all (·.bounds.hasCenter) <;> rfl

section Diagnoses

variable {g : Gateway ω} (hg : ∀ r : Request, r.isPanic = false → g.Answers r) (config : Config)
  (fuel line : Nat)

include hg

/-- A command that polls gives the value of "nothing found" behind a failure. -/
theorem carryOut_diagnoses {p : Poll (ω × List Exchange) β α} {what? : β → Option Sensed}
    {fits : List TextBlock → Prop} {late : Nat → Prop} (hlook : p.look.Senses what?)
    (hp : p.Reports what? fits) (hlate : ∀ now, endOfTime ≤ now + config.pollInterval → late now)
    (timeout : Duration) (trace : Option α → String) (value : Option α → Value) :
    (p.carryOut g.transcribed config fuel line timeout trace value).Diagnoses line fits late
      fun result => result = .ok (some (value none)) := by
  rw [Poll.carryOut, PollTimer.start, bind_assoc]
  refine IsCalm.bind_diagnoses (ask_senses hg (r := .clock) rfl) fun now => ?_
  rw [pure_bind]
  have hsample : (p.sample g.transcribed line).Tells (Poll.IsSample line what?) fun _ => False :=
    Poll.sample_tells hg hlook fun b fault h => (hp.failed b fault h).2
  refine (Poll.watch_diagnoses hp hsample (timer_next_diagnoses hg fuel _ _ hlate _) fuel).bind
    (fun found => ?_) fun found hfound => ?_
  · exact (log_isCalm hg _).bind_diagnoses fun _ => diagnoses_pure _ _
  · rw [hfound]
    exact returns_bind fun _ => returns_pure rfl

/-- `getText` looks once. -/
theorem getText_diagnoses (area : Region) :
    ((getText area).perform g.transcribed config fuel line).Diagnoses line
      (fun blocks => (getText area).copes blocks) ((getText area).IsLate config)
      fun result => result = .ok (some (getText area).sentinel) := by
  -- a single look is no search, so a check that finds nothing will do
  let check : List TextBlock → Except String (Option Unit) := fun _ => .ok none
  rw [perform, Poll.sampleText_eq g.transcribed config line check, bind_map_left]
  refine Poll.diagnoses_behind_sample
    (Poll.sample_tells hg (sight_senses hg config) fun _ _ => Poll.complaint_of_failed)
    fun sight => ?_
  cases sight with
  | read blocks =>
    show Tells _ _ (orPanic g.transcribed (blocksIn area blocks) >>= fun inside => pure _)
    rw [blocksIn_eq]
    by_cases hcenter : blocks.all (·.bounds.hasCenter)
    · rw [if_pos hcenter]
      refine tells_pure ⟨.of_sensed_eq_nil rfl, fun _ h => ?_, fun _ h => ?_⟩
      · cases h
      · cases h
        exact hcenter
    · rw [if_neg hcenter, orPanic, raise_bind]
      exact (raise_tells g _ _).imp (fun _ _ _ h => h)
        fun _ hpanic => .inr ⟨⟨blocks, rfl, hcenter⟩, hpanic⟩
  | unseen fault =>
    refine tells_pure ⟨.of_sensed_eq_nil rfl, fun _ _ => rfl, fun _ h => ?_⟩
    cases h
  | unread fault =>
    cases fault <;>
    · refine tells_pure ⟨.of_sensed_eq_nil rfl, fun _ _ => rfl, fun _ h => ?_⟩
      cases h
  | stopped =>
    refine tells_pure ⟨.of_sensed_eq_nil rfl, fun _ _ => rfl, fun _ h => ?_⟩
    cases h

/-- A query reports every failure that it meets, and then it says "nothing found". It panics only at
a text that it cannot look through, or too late for another sample. -/
theorem perform_diagnoses {c : Command} (hc : c.isQuery) :
    (c.perform g.transcribed config fuel line).Diagnoses line (fun blocks => c.copes blocks)
      (c.IsLate config) fun result => result = .ok (some c.sentinel) := by
  have hlogged : ∀ (message : String) (result : Except Mishap (Option Value))
      (P : Except Mishap (Option Value) → Prop) {fits : List TextBlock → Prop} {late : Nat → Prop},
      (do TapScript.log g.transcribed message; return result).Diagnoses line fits late P :=
    fun message _ _ => (log_isCalm hg message).bind_diagnoses fun _ => diagnoses_pure _ _
  -- the queries that wait are polls, and the others sense something at most once
  cases c with
  | getVar name =>
    exact IsCalm.bind_diagnoses (ask_senses hg (r := .load name) rfl) fun _ => diagnoses_pure _ _
  | getColor p =>
    refine Senses.report_result (ask_senses hg (r := .pixel p) rfl) (fun _ => diagnoses_pure _ _)
      fun fault => ?_
    exact fail_return_tells hg line "getColor failed: " fault rfl
  | compareColor p color tolerance =>
    refine Senses.report_result (ask_senses hg (r := .pixel p) rfl) (fun _ => diagnoses_pure _ _)
      fun fault => ?_
    exact fail_return_tells hg line "compareColor failed: " fault rfl
  | findImage path threshold =>
    refine Senses.report_result (ask_senses hg (r := .findImage path threshold) rfl)
      (fun _ => hlogged _ _ _) fun fault => ?_
    exact fail_return_tells hg line "findImage failed: " fault rfl
  | waitForColor p color timeout =>
    rw [perform_waitForColor]
    exact carryOut_diagnoses hg config fuel line (ask_senses hg (r := .pixel p) rfl)
      (Poll.reports_ofColor p color) (fun _ h => ⟨rfl, h⟩) _ _ _
  | waitForText area text timeout =>
    rw [perform_waitForText]
    exact carryOut_diagnoses hg config fuel line (sight_senses hg config)
      (Poll.reports_ofText config _ _) (fun _ h => ⟨rfl, h⟩) _ _ _
  | findText text timeout =>
    rw [perform_findText]
    exact carryOut_diagnoses hg config fuel line (sight_senses hg config)
      (Poll.reports_ofText config _ _) (fun _ h => ⟨rfl, h⟩) _ _ _
  | getText area => exact getText_diagnoses hg config fuel line area
  | _ => cases hc

end Diagnoses

/-- Only a query that polls depends on the time. -/
theorem perform_stepless (g : Gateway ω) (config : Config) (fuel line : Nat) {c : Command}
    (hc : c.isQuery) (hpolls : c.polls = false) : (c.perform g config fuel line).Stepless := by
  have hfailed : ∀ (message : String) (v : Value),
      (do fail g line message; return (.ok (some v) : Except Mishap (Option Value))).Stepless :=
    fun message v => (complain_stepless g _ line message).bind fun _ => stepless_pure _
  cases c with
  | getVar name => exact (ask_stepless g _).bind fun _ => stepless_pure _
  | getColor p =>
    refine (ask_stepless g (.pixel p)).bind fun reply => ?_
    cases reply with
    | ok color => exact stepless_pure _
    | error fault => exact hfailed _ _
  | compareColor p color tolerance =>
    refine (ask_stepless g (.pixel p)).bind fun reply => ?_
    cases reply with
    | ok actual => exact stepless_pure _
    | error fault => exact hfailed _ _
  | findImage path threshold =>
    refine (ask_stepless g (.findImage path threshold)).bind fun reply => ?_
    cases reply with
    | ok found => exact (log_stepless g _).bind fun _ => stepless_pure _
    | error fault => exact hfailed _ _
  | getText area =>
    refine (sampleText_stepless g config line).bind fun sample => ?_
    cases sample with
    | text blocks => exact (orPanic_stepless g _).bind fun _ => stepless_pure _
    | retry => exact stepless_pure _
    | abort => exact stepless_pure _
  -- what is left polls, or is no query
  | waitForColor => cases hpolls
  | waitForText => cases hpolls
  | findText => cases hpolls
  | _ => cases hc

/-- The query has given a value of one of its kinds, each failure on the way is reported, and behind
one the value is the one that says "nothing found". Every text could be looked through. -/
def HasAnswered (c : Command) (line : Nat) (s t : Station (ω × List Exchange)) (v : Value) : Prop :=
  v.kind ∈ c.kinds ∧ ∃ es rs, s.Passes t es rs ∧
    Diagnosed line (fun blocks => c.copes blocks) (v = c.sentinel) es rs

/-- The query has panicked: there was a text that it cannot look through, or it was too late to wait
for another sample. -/
def HasPanicked (c : Command) (config : Config) (s t : Station (ω × List Exchange)) : Prop :=
  ∃ es rs, s.Passes t es rs ∧ Panicked (fun blocks => c.copes blocks) (c.IsLate config) es

end Command

/-- A transcript does not stop the clock. -/
theorem Gateway.Runs.transcribed {g : Gateway ω} {time : ω → Nat} (h : g.Runs time) :
    g.transcribed.Runs fun w => time w.1 where
  onward r stopped w := h.onward r stopped w.1
  look stopped w := h.look stopped w.1
  shown stopped w := h.shown stopped w.1

/-- **Queries fail only by overflow, and keep the kind of their value.** At a gateway that answers
whatever it likes but never crashes by itself, a query gives a value of one of its kinds, from every
station, and never an error. If something that it has looked at has failed, and not because a
recognition took too long, the value is the one that says "nothing found", and the failure is
reported with the number of the line.

The one way to have no value is a panic of the query itself. It panics at a text with a block that
it takes the center of, if the edges of that block are too far out for their sums, and in a wait for
another sample, if the deadline is beyond the end of the clock. Where the clock runs, a query that
polls ends, in one of these two ways. -/
theorem queries_fail_only_by_overflow {g : Gateway ω}
    (hg : ∀ r : Request, r.isPanic = false → g.Answers r) (config : Config) (line : Nat)
    {c : Command} (hc : c.isQuery) (s : Station (ω × List Exchange)) :
    (∀ fuel, (c.perform g.transcribed config fuel line s).Meets
      (fun result t => ∃ v : Value, result = .ok (some v) ∧ c.HasAnswered line s t v)
      (fun t => c.HasPanicked config s t) (c.polls = true)) ∧
    ∀ time, g.Runs time → ∃ n t,
      (∃ v, (∀ fuel, n ≤ fuel →
        c.perform g.transcribed config fuel line s = .done (.ok (some v)) t) ∧
          c.HasAnswered line s t v) ∨
      ∃ crash, (∀ fuel, n ≤ fuel →
        c.perform g.transcribed config fuel line s = .crashed crash t) ∧
          c.HasPanicked config s t := by
  have hmeets : ∀ fuel, (c.perform g.transcribed config fuel line s).Meets
      (fun result t => ∃ v : Value, result = .ok (some v) ∧ c.HasAnswered line s t v)
      (fun t => c.HasPanicked config s t) (c.polls = true) := by
    intro fuel
    have hkinds := c.perform_kinds g.transcribed config fuel line hc s
    have hdiagnosed := Command.perform_diagnoses hg config fuel line hc s
    cases hperform : c.perform g.transcribed config fuel line s with
    | done result t =>
      rw [hperform] at hkinds hdiagnosed
      obtain ⟨v, rfl, hkind⟩ := hkinds
      obtain ⟨es, rs, hpasses, hdiagnosed⟩ := hdiagnosed
      refine ⟨v, rfl, hkind, es, rs, hpasses, fun fault hfault => ?_, hdiagnosed.text⟩
      obtain ⟨hvalue, hreported⟩ := hdiagnosed.failed fault hfault
      exact ⟨Option.some.inj (Except.ok.inj hvalue), hreported⟩
    | crashed crash t =>
      rw [hperform] at hdiagnosed
      exact hdiagnosed
    | exhausted =>
      -- only a loop can run out of steps
      cases hpolls : c.polls with
      | true => rfl
      | false =>
        exact absurd hperform (Command.perform_stepless g.transcribed config fuel line hc hpolls s)
  refine ⟨hmeets, fun time hruns => ?_⟩
  -- with enough steps the query ends in one and the same way
  obtain ⟨o, n, ho, hends⟩ := (hruns.transcribed.perform_settles config line c s).ends
  have hmeets := hmeets n
  rw [hends n (Nat.le_refl n)] at hmeets
  cases o with
  | done result t =>
    obtain ⟨v, rfl, hv⟩ := hmeets
    exact ⟨n, t, .inl ⟨v, hends, hv⟩⟩
  | crashed crash t => exact ⟨n, t, .inr ⟨crash, hends, hmeets⟩⟩
  | exhausted => exact absurd rfl ho

/-- The device as a gateway that never crashes by itself, however large its screen is. -/
def Device.steady : Gateway Device where
  answer r stopped d :=
    match r with
    | .screenshot => .reply d.screenshot d
    | r => gateway.answer r stopped d

/-- The device that never crashes by itself answers everything but a panic. -/
theorem Device.steady_answers (r : Request) (hr : r.isPanic = false) : Device.steady.Answers r := by
  intro stopped d
  cases r with
  | panic message => cases hr
  | _ => exact ⟨_, rfl⟩

/-- The clock of the device that never crashes by itself runs. -/
theorem Device.steady_runs : Device.steady.Runs Device.clock where
  onward r stopped d := by
    have hclock := clock_le_answer r stopped d
    cases r with
    | screenshot => exact Nat.le_refl _
    | _ => exact hclock
  look _ _ := Nat.lt_add_of_pos_right (by decide)
  shown := by
    intro stopped d now hnow
    cases hnow
    exact Nat.le_refl _

/-- A device that is not ready cannot tell a color. The query says so, on its line, and goes on with
`null`. -/
theorem queries_fail_only_by_overflow_getColor :
    let s : Station (Device × List Exchange) := Station.transcribed { state := { ready := false } }
    let c : Command := .getColor ⟨1, 2⟩
    (∃ t es rs, c.perform Device.steady.transcribed {} 0 3 s = .done (.ok (some .null)) t ∧
      s.Passes t es rs ∧ Fault.notReady.IsReported 3 es rs) ∧
    ∃ n t, (∃ v, (∀ fuel, n ≤ fuel →
      c.perform Device.steady.transcribed {} fuel 3 s = .done (.ok (some v)) t) ∧
        c.HasAnswered 3 s t v) ∨
      ∃ crash, (∀ fuel, n ≤ fuel →
        c.perform Device.steady.transcribed {} fuel 3 s = .crashed crash t) ∧
          c.HasPanicked {} s t := by
  intro s c
  obtain ⟨hmeets, hends⟩ := queries_fail_only_by_overflow Device.steady_answers {} 3 (c := c) rfl s
  refine ⟨?_, hends Device.clock Device.steady_runs⟩
  obtain ⟨t, hperform, hsensed⟩ : ∃ t,
      c.perform Device.steady.transcribed {} 0 3 s = .done (.ok (some .null)) t ∧
        sensed t.transcript = [.failed .notReady] := ⟨_, rfl, rfl⟩
  have hvalue := hmeets 0
  rw [hperform] at hvalue
  obtain ⟨v, -, -, es, rs, hpasses, hdiagnosed⟩ := hvalue
  have hes : t.transcript = es := hpasses.transcript
  rw [hes] at hsensed
  have hmem : .failed .notReady ∈ sensed es := hsensed ▸ List.mem_cons_self
  exact ⟨t, es, rs, hperform, hpasses, (hdiagnosed.failed .notReady hmem).2⟩

/-- A query without a value. Nothing that the device is asked for fails, but the text that it shows
has a block whose edges are too far out, and `getText` takes the center of each block. -/
theorem getText_panics :
    let d : Device :=
      { width := 1, height := 1, texts := [⟨"a", ⟨2000000000, 0, 2000000000, 10⟩⟩] }
    ∃ t, ∀ fuel, (Command.getText ⟨0, 0, 1, 1⟩).perform Device.steady {} fuel 1 { state := d } =
      .crashed ⟨some "attempt to add with overflow"⟩ t :=
  ⟨_, fun _ => rfl⟩

end TapScript
