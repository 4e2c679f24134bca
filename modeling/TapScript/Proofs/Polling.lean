import TapScript.Proofs.Sleeping

/-! # Polling

The commands that wait for something on the screen take a sample, and another one after each turn of
a timer, until a sample decides or the timer refuses. They differ only in what a sample is and in
what it decides.

* `Poll` is a way of sampling, with what each sample decides; `Poll.ofColor` samples a pixel,
  `Poll.ofText` the text of the screen.
* `Poll.Sampled` are samples and turns of the timer in alternation, and `Poll.Decides` says, of the
  samples and the answers of the timer alone, which of them are taken and what follows from them.
* `Poll.exists_watch_eq_done_iff` is the loop: it ends exactly with samples and answers that decide.
* `Station.notices` are the samples and the lines of the log, read off the transcript.
* `polls_return_first_decisive_sample` puts this together for `waitForColor`, `waitForText` and
  `findText`. -/

namespace TapScript

variable {ω σ α β : Type}

/-- A sequence ends with a value exactly if both of its parts do. -/
theorem Exec.bind_eq_done_iff {x : Exec σ α} {f : α → Exec σ β} {s u : σ} {b : β} :
    (x >>= f) s = .done b u ↔ ∃ a t, x s = .done a t ∧ f a t = .done b u := by
  rw [bind_apply]
  cases hx : x s with
  | done a t =>
    refine ⟨fun h => ⟨a, t, rfl, h⟩, ?_⟩
    rintro ⟨a', t', hdone, h⟩
    cases hdone
    exact h
  | crashed c t => exact ⟨nofun, nofun⟩
  | exhausted => exact ⟨nofun, nofun⟩

/-- What has ended ends in the same way if it may take longer. -/
theorem Exec.Prolongs.eq_done {x y : Exec σ α} {s t : σ} {a : α} (h : y.Prolongs x)
    (hx : x s = .done a t) : y s = .done a t :=
  (h s (hx ▸ nofun)).trans hx

/-- A panic gives no value. -/
theorem raise_ne_done (g : Gateway ω) (message : String) (s t : Station ω) (a : α) :
    raise g message s ≠ .done a t := by
  intro h
  obtain ⟨never, -⟩ := Exec.bind_eq_done_iff.1 h
  exact never.elim

/-- Nothing follows a panic. -/
theorem raise_bind (g : Gateway ω) (message : String) (f : α → Exec (Station ω) β) :
    raise g message >>= f = raise g message :=
  (bind_assoc ..).trans (bind_congr fun never => never.elim)

/-! ## Samples and what they decide -/

/-- What a sample decides. -/
inductive Finding (α : Type) where
  | found (a : α)
  /-- Nothing is found, and nothing is to be expected. -/
  | hopeless
  /-- Looking for something in the sample is a panic. -/
  | broken (message : String)
  /-- Another sample may tell more. -/
  | undecided

/-- What is returned, if `again` is done where the case is undecided. -/
def Finding.resolve (g : Gateway ω) (again : Exec (Station ω) (Option α)) :
    Finding α → Exec (Station ω) (Option α)
  | found a => return some a
  | hopeless => return none
  | broken message => raise g message
  | undecided => again

/-- How the case is closed, with what is found or the message of a panic: by a sample that decides,
without another answer of the timer, or by a refusal of the timer behind a sample that does not. -/
inductive Finding.Closes : Finding α → List Bool → Except String (Option α) → Prop
  | found (a : α) : Closes (.found a) [] (.ok (some a))
  | hopeless : Closes .hopeless [] (.ok none)
  | broken (message : String) : Closes (.broken message) [] (.error message)
  | refused : Closes .undecided [false] (.ok none)

/-- A way of sampling the screen, with what is said of a sample that has failed and what a sample
decides. -/
structure Poll (ω β α : Type) where
  look : Exec (Station ω) β
  complaint : β → Option String
  finding : β → Finding α

namespace Poll

variable (p : Poll ω β α)

/-- The line of the log about a sample that has failed. -/
def diagnostic (line : Nat) (b : β) : Option String :=
  (p.complaint b).map fun message => s!"Line {line}: {message}"

/-- Reporting a sample if it has failed. -/
def report (g : Gateway ω) (line : Nat) (b : β) : Exec (Station ω) β :=
  match p.complaint b with
  | some message => do
    fail g line message
    return b
  | none => return b

/-- Taking a sample. -/
def sample (g : Gateway ω) (line : Nat) : Exec (Station ω) β := do p.report g line (← p.look)

/-- The loop: samples and turns of a timer, until one of them decides. -/
def watch (g : Gateway ω) (sample : Exec (Station ω) β) (finding : β → Finding α)
    (turn : Exec (Station ω) Bool) : (samples : Nat) → Exec (Station ω) (Option α)
  | 0 => Exec.exhausted
  | samples + 1 => do
    (finding (← sample)).resolve g do
      if ← turn then watch g sample finding turn samples else return none

/-- The next round, with the sample and the report on it apart. -/
theorem watch_sample_succ (g : Gateway ω) (line : Nat) (turn : Exec (Station ω) Bool)
    (samples : Nat) :
    watch g (p.sample g line) p.finding turn (samples + 1) =
      p.look >>= fun b => p.report g line b >>= fun b => (p.finding b).resolve g do
        if ← turn then watch g (p.sample g line) p.finding turn samples else return none :=
  bind_assoc ..

/-- A command that polls: it starts a timer, watches, and logs what has come of it. -/
def carryOut (g : Gateway ω) (config : Config) (fuel line : Nat) (timeout : Duration)
    (trace : Option α → String) (value : Option α → Value) :
    Exec (Station ω) (Except Mishap (Option Value)) := do
  let timer ← PollTimer.start g timeout config.pollInterval
  let found ← watch g (p.sample g line) p.finding (timer.next g fuel config.slice) fuel
  log g (trace found)
  return .ok (some (value found))

/-! ## The order of samples and answers -/

/-- Samples and turns of the timer in alternation: a first sample in any case, and one more behind
each turn that allows it. What the samples are plays no part here. -/
inductive Sampled (sample : Exec σ β) (turn : Nat → Exec σ Bool) :
    σ → List β → List Bool → σ → Prop
  | last {s t : σ} {b : β} (hb : sample s = .done b t) : Sampled sample turn s [b] [] t
  | refused {s t u : σ} {b : β} (hb : sample s = .done b t)
      (hturn : ∃ fuel, turn fuel t = .done false u) : Sampled sample turn s [b] [false] u
  | again {s t u v : σ} {b : β} {seen : List β} {answers : List Bool} (hb : sample s = .done b t)
      (hturn : ∃ fuel, turn fuel t = .done true u) (hrest : Sampled sample turn u seen answers v) :
      Sampled sample turn s (b :: seen) (true :: answers) v

/-- The samples and the answers of the timer decide how it ends: every sample but the last leaves it
undecided and is followed by an answer that allows another one, and the last one closes the case. -/
def Decides (finding : β → Finding α) (seen : List β) (answers : List Bool)
    (ending : Except String (Option α)) : Prop :=
  ∃ earlier last closing, seen = earlier ++ [last] ∧ (∀ b ∈ earlier, finding b = .undecided) ∧
    answers = List.replicate earlier.length true ++ closing ∧ (finding last).Closes closing ending

section Decides

variable {finding : β → Finding α} {b : β} {seen : List β} {answers : List Bool}
  {ending : Except String (Option α)}

/-- A single sample decides if it closes the case. -/
theorem decides_singleton_iff :
    Decides finding [b] answers ending ↔ (finding b).Closes answers ending := by
  constructor
  · rintro ⟨earlier, last, closing, hseen, -, rfl, hlast⟩
    cases earlier with
    | nil =>
      obtain rfl := List.singleton_inj.1 hseen
      exact hlast
    | cons c earlier => simp at hseen
  · exact fun h => ⟨[], b, answers, rfl, nofun, rfl, h⟩

/-- A sample with others behind it leaves the case undecided, and the others decide. -/
theorem decides_cons_iff (hseen : seen ≠ []) :
    Decides finding (b :: seen) answers ending ↔
      finding b = .undecided ∧ ∃ rest, answers = true :: rest ∧
        Decides finding seen rest ending := by
  constructor
  · rintro ⟨earlier, last, closing, hcons, hearlier, rfl, hlast⟩
    cases earlier with
    | nil => exact absurd (List.cons.inj hcons).2 hseen
    | cons c earlier =>
      obtain ⟨rfl, rfl⟩ := List.cons.inj hcons
      obtain ⟨hb, hearlier⟩ := List.forall_mem_cons.1 hearlier
      exact ⟨hb, _, rfl, earlier, last, closing, rfl, hearlier, rfl, hlast⟩
  · rintro ⟨hb, rest, rfl, earlier, last, closing, rfl, hearlier, rfl, hlast⟩
    exact ⟨b :: earlier, last, closing, rfl, List.forall_mem_cons.2 ⟨hb, hearlier⟩, rfl, hlast⟩

end Decides

/-! ## The loop -/

section Watch

variable {g : Gateway ω} {sample : Exec (Station ω) β} {turn : Nat → Exec (Station ω) Bool}
  {finding : β → Finding α} {s t : Station ω} {found : Option α}

/-- There is always a sample. -/
theorem Sampled.ne_nil {seen : List β} {answers : List Bool}
    (h : Sampled sample turn s seen answers t) : seen ≠ [] := by
  cases h <;> exact List.cons_ne_nil _ _

/-- One round of the loop: the sample closes the case, alone or with a refusal of the timer, or the
loop goes on behind it. -/
theorem watch_succ_eq_done_iff {x : Exec (Station ω) Bool} {samples : Nat} :
    watch g sample finding x (samples + 1) s = .done found t ↔
      ∃ b u, sample s = .done b u ∧
        (((finding b).Closes [] (.ok found) ∧ u = t) ∨
          ((finding b).Closes [false] (.ok found) ∧ x u = .done false t) ∨
          (finding b = .undecided ∧ ∃ v, x u = .done true v ∧
            watch g sample finding x samples v = .done found t)) := by
  rw [watch, Exec.bind_eq_done_iff]
  refine exists_congr fun b => exists_congr fun u => and_congr_right fun _ => ?_
  -- two of the three cases on the right fall away, by how the finding can be closed
  cases finding b with
  | found a =>
    constructor
    · rintro ⟨⟩
      exact .inl ⟨.found a, rfl⟩
    · rintro (⟨⟨⟩, rfl⟩ | ⟨⟨⟩, -⟩ | ⟨⟨⟩, -⟩)
      rfl
  | hopeless =>
    constructor
    · rintro ⟨⟩
      exact .inl ⟨.hopeless, rfl⟩
    · rintro (⟨⟨⟩, rfl⟩ | ⟨⟨⟩, -⟩ | ⟨⟨⟩, -⟩)
      rfl
  | broken message =>
    constructor
    · exact fun h => absurd h (raise_ne_done g message u t found)
    · rintro (⟨⟨⟩, -⟩ | ⟨⟨⟩, -⟩ | ⟨⟨⟩, -⟩)
  | undecided =>
    refine (Exec.bind_eq_done_iff (x := x)).trans ?_
    constructor
    · rintro ⟨more, v, hturn, hrest⟩
      cases more with
      | true => exact .inr (.inr ⟨rfl, v, hturn, hrest⟩)
      | false =>
        cases hrest
        exact .inr (.inl ⟨.refused, hturn⟩)
    · rintro (⟨⟨⟩, -⟩ | ⟨⟨⟩, hturn⟩ | ⟨-, v, hturn, hwatch⟩)
      · exact ⟨false, t, hturn, rfl⟩
      · exact ⟨true, v, hturn, hwatch⟩

/-- What the loop has sampled, by induction on the samples that are allowed. -/
theorem exists_sampled_of_watch_eq_done {fuel samples : Nat}
    (h : watch g sample finding (turn fuel) samples s = .done found t) :
    ∃ seen answers, Sampled sample turn s seen answers t ∧
      Decides finding seen answers (.ok found) := by
  induction samples generalizing s with
  | zero => cases h
  | succ samples ih =>
    obtain ⟨b, u, hb, ⟨hclose, rfl⟩ | ⟨hclose, hturn⟩ | ⟨hundecided, v, hturn, hwatch⟩⟩ :=
      watch_succ_eq_done_iff.1 h
    · exact ⟨[b], [], .last hb, decides_singleton_iff.2 hclose⟩
    · exact ⟨[b], [false], .refused hb ⟨fuel, hturn⟩, decides_singleton_iff.2 hclose⟩
    · obtain ⟨seen, answers, hsampled, hdecides⟩ := ih hwatch
      exact ⟨b :: seen, true :: answers, .again hb ⟨fuel, hturn⟩ hsampled,
        (decides_cons_iff hsampled.ne_nil).2 ⟨hundecided, answers, rfl, hdecides⟩⟩

/-- Samples and answers that decide are those of the loop, if it is allowed enough of them: it ends
with what is found, or in the panic. -/
theorem Sampled.exists_watch_eq (hturn : ∀ {m n}, m ≤ n → (turn n).Prolongs (turn m))
    {seen : List β} {answers : List Bool} {ending : Except String (Option α)}
    (h : Sampled sample turn s seen answers t) (hdecides : Decides finding seen answers ending) :
    ∃ fuel, ∀ n, fuel ≤ n → ∀ samples, seen.length ≤ samples →
      watch g sample finding (turn n) samples s = orPanic g ending t := by
  have hpositive : ∀ {samples : Nat} {b : β} {seen : List β}, (b :: seen).length ≤ samples →
      ∃ k, samples = k + 1 ∧ seen.length ≤ k := fun {samples} _ _ h => ⟨samples - 1, by grind⟩
  induction h with
  | last hb =>
    refine ⟨0, fun n _ samples hsamples => ?_⟩
    obtain ⟨k, rfl, -⟩ := hpositive hsamples
    have hclose := decides_singleton_iff.1 hdecides
    rw [watch, Exec.bind_done hb]
    generalize finding _ = decided at hclose
    cases hclose <;> rfl
  | refused hb hrefused =>
    obtain ⟨fuel, hrefused⟩ := hrefused
    refine ⟨fuel, fun n hn samples hsamples => ?_⟩
    obtain ⟨k, rfl, -⟩ := hpositive hsamples
    have hclose := decides_singleton_iff.1 hdecides
    rw [watch, Exec.bind_done hb]
    generalize finding _ = decided at hclose
    cases hclose
    exact Exec.bind_done ((hturn hn).eq_done hrefused)
  | again hb hallowed hrest ih =>
    obtain ⟨fuel, hallowed⟩ := hallowed
    obtain ⟨hundecided, rest, hanswers, hdecides⟩ := (decides_cons_iff hrest.ne_nil).1 hdecides
    obtain ⟨-, rfl⟩ := List.cons.inj hanswers
    obtain ⟨fuel', hwatch⟩ := ih hdecides
    -- each turn needs steps of its own, and with the larger number both this one and those behind
    -- it end
    refine ⟨max fuel fuel', fun n hn samples hsamples => ?_⟩
    obtain ⟨k, rfl, hk⟩ := hpositive hsamples
    have hmore := (hturn (Nat.le_trans (Nat.le_max_left _ _) hn)).eq_done hallowed
    rw [watch, Exec.bind_done hb, hundecided]
    exact (Exec.bind_done hmore).trans (hwatch n (Nat.le_trans (Nat.le_max_right _ _) hn) k hk)

/-- The loop gives a value exactly with samples and answers that decide on it. -/
theorem exists_watch_eq_done_iff (hturn : ∀ {m n}, m ≤ n → (turn n).Prolongs (turn m)) :
    (∃ fuel, watch g sample finding (turn fuel) fuel s = .done found t) ↔
      ∃ seen answers, Sampled sample turn s seen answers t ∧
        Decides finding seen answers (.ok found) := by
  constructor
  · rintro ⟨fuel, h⟩
    exact exists_sampled_of_watch_eq_done h
  · rintro ⟨seen, answers, hsampled, hdecides⟩
    obtain ⟨fuel, hwatch⟩ := hsampled.exists_watch_eq hturn hdecides
    exact ⟨max fuel seen.length, hwatch _ (Nat.le_max_left _ _) _ (Nat.le_max_right _ _)⟩

end Watch

/-! ## A whole command -/

/-- The beginning of a command that polls: it starts its timer and takes the samples between the
turns of the timer. -/
def Samples (g : Gateway ω) (config : Config) (line : Nat) (timeout : Duration) (seen : List β)
    (answers : List Bool) (st u : Station ω) : Prop :=
  ∃ timer s, PollTimer.start g timeout config.pollInterval st = .done timer s ∧
    Sampled (p.sample g line) (fun fuel => timer.next g fuel config.slice) s seen answers u

/-- The course of a command that polls: behind the samples it ends with an entry of the log. -/
def Course (g : Gateway ω) (config : Config) (line : Nat) (timeout : Duration) (seen : List β)
    (answers : List Bool) (entry : String) (st st' : Station ω) : Prop :=
  ∃ u, p.Samples g config line timeout seen answers st u ∧ log g entry u = .done () st'

/-- Behind samples and answers that decide, a command that polls goes on with what they decide. -/
theorem Samples.exists_carryOut_eq {p : Poll ω β α} {g : Gateway ω} {config : Config} {line : Nat}
    {timeout : Duration} {seen : List β} {answers : List Bool} {st u : Station ω}
    {ending : Except String (Option α)} (h : p.Samples g config line timeout seen answers st u)
    (hdecides : Decides p.finding seen answers ending) (trace : Option α → String)
    (value : Option α → Value) :
    ∃ fuel, p.carryOut g config fuel line timeout trace value st =
      (orPanic g ending >>= fun found => do
        log g (trace found)
        return .ok (some (value found))) u := by
  obtain ⟨timer, s, hstart, hsampled⟩ := h
  obtain ⟨fuel, hwatch⟩ := hsampled.exists_watch_eq (g := g)
    (fun hmn => timer_next_prolongs g hmn timer config.slice) hdecides
  have hwatch := hwatch (max fuel seen.length) (Nat.le_max_left _ _) (max fuel seen.length)
    (Nat.le_max_right _ _)
  refine ⟨max fuel seen.length, ?_⟩
  rw [carryOut, Exec.bind_done hstart, Exec.bind_apply, hwatch]
  rfl

/-- A command that polls gives a value exactly with samples and answers that decide on it. -/
theorem exists_carryOut_eq_done_iff (g : Gateway ω) (config : Config) (line : Nat)
    (timeout : Duration) (trace : Option α → String) (value : Option α → Value)
    (st st' : Station ω) (r : Except Mishap (Option Value)) :
    (∃ fuel, p.carryOut g config fuel line timeout trace value st = .done r st') ↔
      ∃ seen answers found, Decides p.finding seen answers (.ok found) ∧
        p.Course g config line timeout seen answers (trace found) st st' ∧
        r = .ok (some (value found)) := by
  constructor
  · rintro ⟨fuel, h⟩
    obtain ⟨timer, s, hstart, h⟩ := Exec.bind_eq_done_iff.1 h
    obtain ⟨found, u, hwatch, h⟩ := Exec.bind_eq_done_iff.1 h
    obtain ⟨⟨⟩, v, hlog, h⟩ := Exec.bind_eq_done_iff.1 h
    cases h
    obtain ⟨seen, answers, hsampled, hdecides⟩ : ∃ seen answers,
        Sampled (p.sample g line) (fun fuel => timer.next g fuel config.slice) s seen answers u ∧
          Decides p.finding seen answers (.ok found) := exists_sampled_of_watch_eq_done hwatch
    exact ⟨seen, answers, found, hdecides, ⟨u, ⟨timer, s, hstart, hsampled⟩, hlog⟩, rfl⟩
  · rintro ⟨seen, answers, found, hdecides, ⟨u, hsamples, hlog⟩, rfl⟩
    obtain ⟨fuel, hcarryOut⟩ := hsamples.exists_carryOut_eq hdecides trace value
    exact ⟨fuel, hcarryOut.trans (Exec.bind_done hlog)⟩

/-- Samples and answers that decide on a panic end a command that polls in it. -/
theorem Samples.exists_carryOut_eq_raise {p : Poll ω β α} {g : Gateway ω} {config : Config}
    {line : Nat} {timeout : Duration} {seen : List β} {answers : List Bool} {st u : Station ω}
    {message : String} (h : p.Samples g config line timeout seen answers st u)
    (hdecides : Decides p.finding seen answers (.error message)) (trace : Option α → String)
    (value : Option α → Value) :
    ∃ fuel, p.carryOut g config fuel line timeout trace value st = raise g message u := by
  obtain ⟨fuel, hcarryOut⟩ := h.exists_carryOut_eq hdecides trace value
  exact ⟨fuel, hcarryOut.trans (congrFun (raise_bind g message _) u)⟩

/-! ## Sampling a pixel -/

/-- Sampling a pixel until it has the color. -/
def ofColor (g : Gateway ω) (q : Point) (color : Color) : Poll ω (Except Fault Color) Unit where
  look := ask g (.pixel q)
  complaint
    | .error fault => some s!"waitForColor failed: {fault.message}"
    | .ok _ => none
  finding
    | .error _ => .hopeless
    | .ok actual => if actual = color then .found () else .undecided

/-- The loop of `waitForColor` is the common one. -/
theorem watchColor_eq (g : Gateway ω) (config : Config) (fuel line : Nat) (q : Point)
    (color : Color) (timer : PollTimer) (samples : Nat) :
    watchColor g config fuel line q color timer samples =
      Option.isSome <$> watch g ((ofColor g q color).sample g line) (ofColor g q color).finding
        (timer.next g fuel config.slice) samples := by
  induction samples with
  | zero => rfl
  | succ samples ih =>
    rw [watchColor, watch_sample_succ, map_bind]
    refine bind_congr fun reply => ?_
    cases reply with
    | error fault =>
      show (fail g line _ >>= fun _ => pure false) =
        Option.isSome <$> ((fail g line _ >>= fun _ => pure _) >>= _)
      rw [bind_assoc, map_bind]
      rfl
    | ok actual =>
      show (if decide (actual = color) = true then pure true else _) =
        Option.isSome <$> Finding.resolve g _ (if actual = color then .found () else .undecided)
      by_cases heq : actual = color
      · rw [decide_eq_true heq, if_pos rfl, if_pos heq]
        rfl
      · rw [decide_eq_false heq, if_neg nofun, if_neg heq, Finding.resolve, map_bind]
        refine bind_congr fun more => ?_
        cases more with
        | true => exact ih
        | false => rfl

end Poll

/-! ## Sampling the text of the screen -/

/-- What a look at the text of the screen comes to. -/
inductive Sight where
  /-- There is no picture of the screen. -/
  | unseen (fault : Fault)
  | read (blocks : List TextBlock)
  /-- There is a picture, but its text is not recognized. -/
  | unread (fault : Fault)
  /-- A stop has ended the recognition. -/
  | stopped

namespace Sight

/-- What is said of a look that has failed. -/
def complaint : Sight → Option String
  | unseen fault => some s!"Screenshot failed: {fault.message}"
  | unread fault => some s!"Text recognition failed: {fault.message}"
  | _ => none

/-- What a look decides: a text in which the check finds something or panics, and any failure but
that of a recognition that takes too long. -/
def finding (check : List TextBlock → Except String (Option α)) : Sight → Finding α
  | read blocks =>
    match check blocks with
    | .ok (some a) => .found a
    | .ok none => .undecided
    | .error message => .broken message
  | unread (.timeout _) => .undecided
  | _ => .hopeless

/-- What the loop is told of a look. -/
def sample : Sight → Sample
  | read blocks => .text blocks
  | unread (.timeout _) => .retry
  | _ => .abort

end Sight

/-- A look at the text of the screen. -/
def sight (g : Gateway ω) (config : Config) : Exec (Station ω) Sight := do
  match ← ask g .screenshot with
  | .error fault => return .unseen fault
  | .ok image =>
    match ← Recognizer.recognize? g config.recognitionBound (some config.slice) image with
    | none => return .stopped
    | some (.ok blocks) => return .read blocks
    | some (.error fault) => return .unread fault

namespace Poll

/-- Sampling the text of the screen until the check finds something in it. -/
def ofText (g : Gateway ω) (config : Config) (check : List TextBlock → Except String (Option α)) :
    Poll ω Sight α where
  look := sight g config
  complaint := Sight.complaint
  finding := Sight.finding check

/-- A sample of the text is a look with the report on it. -/
theorem sampleText_eq (g : Gateway ω) (config : Config) (line : Nat)
    (check : List TextBlock → Except String (Option α)) :
    sampleText g config line = Sight.sample <$> (ofText g config check).sample g line := by
  show _ = Sight.sample <$> (sight g config >>= _)
  rw [map_bind, sight, sampleText, bind_assoc]
  refine bind_congr fun reply => ?_
  cases reply with
  | error fault =>
    show (fail g line _ >>= fun _ => pure .abort) =
      Sight.sample <$> (fail g line _ >>= fun _ => pure (.unseen fault))
    rw [map_bind]
    rfl
  | ok image =>
    refine Eq.trans (bind_congr fun recognized => ?_) (bind_assoc ..).symm
    cases recognized with
    | none => rfl
    | some result =>
      cases result with
      | ok blocks => rfl
      | error fault =>
        show (fail g line _ >>= _) =
          Sight.sample <$> (fail g line _ >>= fun _ => pure (.unread fault))
        rw [map_bind]
        cases fault <;> rfl

/-- The loop over texts is the common one. -/
theorem watchText_eq (g : Gateway ω) (config : Config) (fuel line : Nat)
    (check : List TextBlock → Except String (Option α)) (timer : PollTimer) (samples : Nat) :
    watchText g config fuel line check timer samples =
      watch g ((ofText g config check).sample g line) (ofText g config check).finding
        (timer.next g fuel config.slice) samples := by
  induction samples with
  | zero => rfl
  | succ samples ih =>
    rw [watchText, ih, sampleText_eq g config line check, bind_map_left, watch]
    refine bind_congr fun sight => ?_
    cases sight with
    | unseen fault => rfl
    | stopped => rfl
    | unread fault => cases fault <;> rfl
    | read blocks =>
      show (orPanic g (check blocks) >>= _) =
        Finding.resolve g _ (Sight.finding check (.read blocks))
      rw [Sight.finding]
      cases check blocks with
      | error message => exact raise_bind g message _
      | ok found => cases found <;> rfl

end Poll

/-! ## Samples and lines in the transcript -/

/-- What somebody who watches the gateway sees of a command that polls: samples and lines of the
log. -/
inductive Notice where
  | sample
  | line (text : String)
deriving DecidableEq, Repr

/-- What a request shows. -/
def Request.notice? : Request → Option Notice
  | .pixel _ | .screenshot => some .sample
  | .log text => some (.line text)
  | _ => none

/-- Neither waiting nor closing the recognizer is noticed. -/
theorem Request.notice?_eq_none {r : Request} (h : r.isWait ∨ r.isClose) : r.notice? = none := by
  cases r with
  | pixel q => simp [isWait, isClose] at h
  | screenshot => simp [isWait, isClose] at h
  | log text => simp [isWait, isClose] at h
  | _ => rfl

/-- The samples and lines so far. -/
def Station.notices (st : Station (ω × List Exchange)) : List Notice :=
  st.transcript.filterMap fun e => e.request.notice?

/-- The notices are read off the gateway's state alone. -/
theorem Station.notices_congr {s t : Station (ω × List Exchange)} (h : s.state = t.state) :
    s.notices = t.notices :=
  congrArg (List.filterMap _) (transcript_congr h)

/-- Waiting shows nothing. -/
theorem Station.Waits.notices_eq {g : Gateway ω} {s t : Station (ω × List Exchange)}
    {ts : List Tick} (h : s.Waits g t ts) : t.notices = s.notices := by
  obtain ⟨es, htranscript, hwaits, -⟩ := h
  have hnone : es.filterMap (fun e => e.request.notice?) = [] :=
    List.filterMap_eq_nil_iff.2 fun e he => Request.notice?_eq_none (hwaits e he)
  rw [Station.notices, htranscript, List.filterMap_append, hnone, List.append_nil]
  rfl

/-- A computation that ends with `a` shows `shown a`. -/
def Exec.Shows (x : Exec (Station (ω × List Exchange)) α) (shown : α → List Notice) : Prop :=
  ∀ s a t, x s = .done a t → t.notices = s.notices ++ shown a

namespace Exec.Shows

/-- Returning a value shows nothing. -/
theorem pure (a : α) : (Pure.pure a : Exec (Station (ω × List Exchange)) α).Shows fun _ => [] := by
  rintro s b t ⟨⟩
  exact (List.append_nil _).symm

/-- A change that the gateway does not see shows nothing. -/
theorem modify {change : Station (ω × List Exchange) → Station (ω × List Exchange)}
    (h : ∀ s, (change s).state = s.state) : (Exec.modify change).Shows fun _ => [] := by
  rintro s b t ⟨⟩
  exact (Station.notices_congr (h s)).trans (List.append_nil _).symm

/-- Reading the station shows nothing. -/
theorem gets (read : Station (ω × List Exchange) → α) : (Exec.gets read).Shows fun _ => [] := by
  rintro s b t ⟨⟩
  exact (List.append_nil _).symm

/-- A sequence shows what its parts show, one after the other. -/
theorem bind {x : Exec (Station (ω × List Exchange)) α}
    {f : α → Exec (Station (ω × List Exchange)) β} {first : List Notice} {shown : β → List Notice}
    (hx : x.Shows fun _ => first) (hf : ∀ a, (f a).Shows shown) :
    (x >>= f).Shows fun b => first ++ shown b := by
  intro s b u h
  obtain ⟨a, t, ha, hb⟩ := Exec.bind_eq_done_iff.1 h
  rw [hf a t b u hb, hx s a t ha, List.append_assoc]

/-- A request shows what is noticed of it. -/
theorem ask (g : Gateway ω) (r : Request) :
    (TapScript.ask g.transcribed r).Shows fun _ => r.notice?.toList := by
  intro s reply t h
  have hanswered : (s.answered g.transcribed r).notices = s.notices ++ r.notice?.toList :=
    Station.filterMap_answered (fun _ _ _ => rfl) r s
  obtain ⟨reply', -, hask⟩ | ⟨crash, -, hask⟩ := ask_cases g.transcribed r s
  · rw [hask] at h
    cases h
    exact hanswered
  · rw [hask] at h
    cases h

/-- A first part that shows nothing. -/
theorem behind {x : Exec (Station (ω × List Exchange)) α}
    {f : α → Exec (Station (ω × List Exchange)) β} {shown : β → List Notice}
    (hx : x.Shows fun _ => []) (hf : ∀ a, (f a).Shows shown) : (x >>= f).Shows shown :=
  hx.bind hf

/-- A second part that shows nothing. -/
theorem ahead {x : Exec (Station (ω × List Exchange)) α}
    {f : α → Exec (Station (ω × List Exchange)) β} {first : List Notice}
    (hx : x.Shows fun _ => first) (hf : ∀ a, (f a).Shows fun _ => []) :
    (x >>= f).Shows fun _ => first := by
  intro s b t h
  have hbind := hx.bind hf s b t h
  rwa [List.append_nil] at hbind

/-- Taking down a record shows nothing at the gateway. -/
theorem record (level : Level) (message : String) (fields : List (String × String)) :
    (TapScript.record level message fields : Exec (Station (ω × List Exchange)) Unit).Shows
      fun _ => [] :=
  modify fun _ => rfl

/-- Setting the flag shows nothing at the gateway. -/
theorem requestStop :
    (TapScript.requestStop : Exec (Station (ω × List Exchange)) Unit).Shows fun _ => [] :=
  modify fun _ => rfl

/-- A draw shows nothing. -/
theorem roll (lo hi : Int) :
    (rollDice lo hi : Exec (Station (ω × List Exchange)) Int).Shows fun _ => [] := by
  rintro s n t ⟨⟩
  exact (Station.notices_congr rfl).trans (List.append_nil _).symm

/-- A line that is logged is shown. -/
theorem log (g : Gateway ω) (text : String) :
    (TapScript.log g.transcribed text).Shows fun _ => [.line text] :=
  (record _ _ _).behind fun _ => ask g (.log text)

/-- A failure shows one line, with the number of the line that failed. -/
theorem fail (g : Gateway ω) (line : Nat) (message : String) :
    (TapScript.fail g.transcribed line message).Shows fun _ => [.line s!"Line {line}: {message}"] :=
  (record _ _ _).behind fun _ => ask g (.log _)

/-- Opening the recognizer shows nothing. -/
theorem opened (g : Gateway ω) : (Recognizer.opened g.transcribed).Shows fun _ => [] := by
  refine (gets _).behind fun session => ?_
  cases session with
  | some session => exact pure _
  | none =>
    refine (record _ _ _).behind fun _ => (ask g .openRecognizer).behind fun reply => ?_
    cases reply with
    | error fault => exact pure _
    | ok session =>
      refine behind (modify ?_) fun _ => pure _
      exact fun _ => rfl

/-- Looking at the flag shows nothing. -/
theorem stopRequested (g : Gateway ω) :
    (TapScript.stopRequested g.transcribed).Shows fun _ => [] :=
  (ask g .checkpoint).behind fun _ => gets _

/-- Consulting the recognizer shows nothing. -/
theorem consult (g : Gateway ω) (bound : Duration) (interval : Option Duration) (looked : Bool)
    (image : Screenshot) :
    (Recognizer.consult g.transcribed bound interval looked image).Shows fun _ => [] := by
  refine (opened g).behind fun session => ?_
  cases session with
  | error fault => exact pure _
  | ok session =>
    refine (gets _).behind fun stopped => (ask g (.recognize ..)).behind fun recognition => ?_
    cases recognition with
    | answered blocks => exact pure _
    | late => exact pure _
    | dropped => exact requestStop.behind fun _ => pure _

/-- Recognizing a text shows nothing. -/
theorem recognize? (g : Gateway ω) (bound : Duration) (interval : Option Duration)
    (image : Screenshot) :
    (Recognizer.recognize? g.transcribed bound interval image).Shows fun _ => [] := by
  have glance : (Recognizer.glance g.transcribed interval.isSome).Shows fun _ => [] := by
    cases interval.isSome with
    | false => exact pure _
    | true =>
      refine (roll 0 1).behind fun first => ?_
      split
      · exact pure _
      · exact (stopRequested g).behind fun _ => pure _
  refine glance.behind fun first => ?_
  split
  · exact pure _
  · exact consult g _ _ _ _

/-- Starting a timer shows nothing. -/
theorem start (g : Gateway ω) (budget interval : Duration) :
    (PollTimer.start g.transcribed budget interval).Shows fun _ => [] :=
  (ask g .clock).behind fun _ => pure _

/-- Waiting for the next sample shows nothing. -/
theorem next (g : Gateway ω) (fuel : Nat) (timer : PollTimer) (slice : Duration) :
    (timer.next g.transcribed fuel slice).Shows fun _ => [] := by
  intro s more t h
  have hmeets := timer.next_meets g fuel slice s
  rw [h] at hmeets
  obtain ⟨ts, hwaits, -⟩ := hmeets
  exact hwaits.notices_eq.trans (List.append_nil _).symm

end Exec.Shows

namespace Poll

/-- What a sample shows: itself, and a diagnostic if it has failed. -/
def notices (p : Poll ω β α) (line : Nat) (b : β) : List Notice :=
  .sample :: ((p.diagnostic line b).map Notice.line).toList

/-- One look for a color takes one sample. -/
theorem shows_look_ofColor (g : Gateway ω) (q : Point) (color : Color) :
    (ofColor g.transcribed q color).look.Shows fun _ => [.sample] :=
  .ask g (.pixel q)

/-- One look for a text takes one sample. -/
theorem shows_look_ofText (g : Gateway ω) (config : Config)
    (check : List TextBlock → Except String (Option α)) :
    (ofText g.transcribed config check).look.Shows fun _ => [.sample] := by
  refine Exec.Shows.ahead (.ask g .screenshot) fun reply => ?_
  cases reply with
  | error fault => exact .pure _
  | ok image =>
    refine (Exec.Shows.recognize? g _ _ image).behind fun recognized => ?_
    cases recognized with
    | none => exact .pure _
    | some result => cases result <;> exact .pure _

section Shows

variable {g : Gateway ω} {p : Poll (ω × List Exchange) β α}

/-- A sample that has failed is reported once, and no other one is. -/
theorem shows_report (line : Nat) (b : β) :
    (p.report g.transcribed line b).Shows fun b =>
      ((p.diagnostic line b).map Notice.line).toList := by
  intro s b' t h
  show t.notices = s.notices ++ ((p.diagnostic line b').map Notice.line).toList
  unfold report at h
  cases hcomplaint : p.complaint b with
  | none =>
    rw [hcomplaint] at h
    cases h
    rw [diagnostic, hcomplaint]
    exact (List.append_nil _).symm
  | some message =>
    rw [hcomplaint] at h
    obtain ⟨⟨⟩, u, hfail, h⟩ := Exec.bind_eq_done_iff.1 h
    cases h
    rw [diagnostic, hcomplaint]
    exact Exec.Shows.fail g line message s () t hfail

variable (hlook : p.look.Shows fun _ => [.sample])

include hlook

/-- A sample shows the look and what is reported of it. -/
theorem shows_sample (line : Nat) : (p.sample g.transcribed line).Shows (p.notices line) :=
  hlook.bind (shows_report line)

/-- A series of samples shows what its samples do, and the waits between them nothing. -/
theorem Sampled.notices_eq {line : Nat} {timer : PollTimer} {slice : Duration}
    {s t : Station (ω × List Exchange)} {seen : List β} {answers : List Bool}
    (h : Sampled (p.sample g.transcribed line) (fun fuel => timer.next g.transcribed fuel slice) s
      seen answers t) : t.notices = s.notices ++ seen.flatMap (p.notices line) := by
  have hsample := shows_sample hlook (g := g) line
  have hquiet : ∀ {fuel s more t}, timer.next g.transcribed fuel slice s = .done more t →
      t.notices = s.notices :=
    fun hturn => (Exec.Shows.next g _ timer slice _ _ _ hturn).trans (List.append_nil _)
  induction h with
  | last hb => rw [hsample _ _ _ hb, List.flatMap_singleton]
  | refused hb hturn =>
    obtain ⟨fuel, hturn⟩ := hturn
    rw [hquiet hturn, hsample _ _ _ hb, List.flatMap_singleton]
  | again hb hturn hrest ih =>
    obtain ⟨fuel, hturn⟩ := hturn
    rw [ih, hquiet hturn, hsample _ _ _ hb, List.flatMap_cons, List.append_assoc]

/-- The samples of a command that polls are in its transcript, each with its diagnostic if it has
failed, and behind them stands the entry of the log. -/
theorem Course.notices_eq {config : Config} {line : Nat} {timeout : Duration} {seen : List β}
    {answers : List Bool} {entry : String} {st st' : Station (ω × List Exchange)}
    (h : p.Course g.transcribed config line timeout seen answers entry st st') :
    st'.notices = st.notices ++ (seen.flatMap (p.notices line) ++ [.line entry]) := by
  obtain ⟨u, ⟨timer, s, hstart, hsampled⟩, hlog⟩ := h
  have hbegun : s.notices = st.notices :=
    (Exec.Shows.start g timeout config.pollInterval st timer s hstart).trans (List.append_nil _)
  rw [Exec.Shows.log g entry u () st' hlog, hsampled.notices_eq hlook, hbegun, List.append_assoc]

end Shows

end Poll

/-! ## The commands that poll -/

/-- The check that looks for the first block with the property and gives what is read off it. It
panics if that block has no center. -/
def firstBlock (p : TextBlock → Bool) (found : TextBlock → α) (blocks : List TextBlock) :
    Except String (Option α) :=
  match blocks.find? p with
  | none => .ok none
  | some b =>
    if b.bounds.hasCenter then .ok (some (found b)) else .error "attempt to add with overflow"

/-- Whether the search for a text in an area comes to its end at the block: it has no center, or its
center is in the area and it holds the text. -/
def TextBlock.endsSearch (area : Region) (text : String) (b : TextBlock) : Bool :=
  !b.bounds.hasCenter || area.contains b.bounds.center && b.holds text

/-- The search for a text in an area goes as far as to the first block at which it ends. -/
theorem sightIn?_eq (area : Region) (text : String) (blocks : List TextBlock) :
    sightIn? area text blocks = firstBlock (TextBlock.endsSearch area text)
      (fun _ => ()) blocks := by
  induction blocks with
  | nil => rfl
  | cons b blocks ih =>
    rw [sightIn?, firstBlock, List.find?_cons, Region.checkedCenter, TextBlock.endsSearch]
    cases hcenter : b.bounds.hasCenter with
    | false =>
      simp only [Bool.not_false, Bool.true_or, hcenter]
      rfl
    | true =>
      cases hhit : area.contains b.bounds.center && b.holds text with
      | true =>
        simp only [Bool.not_true, Bool.false_or, hcenter]
        exact if_pos hhit
      | false =>
        simp only [Bool.not_true, Bool.false_or]
        exact (if_neg (Bool.eq_false_iff.1 hhit)).trans ih

/-- The search for a text goes as far as to the first block that holds it. -/
theorem placeOf?_eq (text : String) (blocks : List TextBlock) :
    placeOf? text blocks = firstBlock (·.holds text) (·.bounds.center) blocks := by
  unfold placeOf? firstBlock
  cases blocks.find? fun b => b.holds text with
  | none => rfl
  | some b =>
    show (b.bounds.checkedCenter >>= fun center => pure (some center)) =
      if b.bounds.hasCenter then .ok (some b.bounds.center)
      else .error "attempt to add with overflow"
    rw [Region.checkedCenter]
    cases b.bounds.hasCenter <;> rfl

/-- The command polls: it gives a value exactly if samples and answers of the timer decide on what
is found, and then its value and the entry of the log are those of what is found. If they decide on
a panic, it panics. What it shows are its samples, a diagnostic behind each one that has failed, and
the entry. -/
structure Command.PollsBy (g : Gateway ω) (config : Config) (c : Command) (timeout : Duration)
    (p : Poll (ω × List Exchange) β α) (trace : Option α → String) (value : Option α → Value) :
    Prop where
  perform_iff : ∀ line st st' r,
    (∃ fuel, c.perform g.transcribed config fuel line st = .done r st') ↔
      ∃ seen answers found, Poll.Decides p.finding seen answers (.ok found) ∧
        p.Course g.transcribed config line timeout seen answers (trace found) st st' ∧
        r = .ok (some (value found))
  perform_eq_raise : ∀ line st u seen answers message,
    Poll.Decides p.finding seen answers (.error message) →
    p.Samples g.transcribed config line timeout seen answers st u →
      ∃ fuel, c.perform g.transcribed config fuel line st = raise g.transcribed message u
  notices_eq : ∀ line st st' seen answers entry,
    p.Course g.transcribed config line timeout seen answers entry st st' →
      st'.notices = st.notices ++ (seen.flatMap (p.notices line) ++ [.line entry])

/-- A command that is carried out as a poll polls by it. -/
theorem Command.pollsBy_of_perform_eq {g : Gateway ω} {config : Config} {c : Command}
    {timeout : Duration} {p : Poll (ω × List Exchange) β α} {trace : Option α → String}
    {value : Option α → Value}
    (hperform : ∀ fuel line, c.perform g.transcribed config fuel line =
      p.carryOut g.transcribed config fuel line timeout trace value)
    (hlook : p.look.Shows fun _ => [.sample]) : c.PollsBy g config timeout p trace value where
  perform_iff line st st' r := by
    simp only [hperform]
    exact p.exists_carryOut_eq_done_iff g.transcribed config line timeout trace value st st' r
  perform_eq_raise line st u seen answers message hdecides hsamples := by
    simp only [hperform]
    exact hsamples.exists_carryOut_eq_raise hdecides trace value
  notices_eq _ _ _ _ _ _ := Poll.Course.notices_eq hlook

section Perform

variable (g : Gateway ω) (config : Config) (fuel line : Nat)

/-- `waitForColor` is carried out as a poll. -/
theorem Command.perform_waitForColor (q : Point) (color : Color) (timeout : Duration) :
    (Command.waitForColor q color timeout).perform g config fuel line =
      (Poll.ofColor g q color).carryOut g config fuel line timeout
        (fun found =>
          let ending := if found.isSome then "matched" else "timed out"
          s!"waitForColor({q.x}, {q.y}, {String.ofList color.text}): {ending}")
        fun found => .bool found.isSome := by
  simp only [Command.perform, TapScript.waitForColor, Poll.watchColor_eq, bind_assoc, bind_map_left]
  rfl

/-- `waitForText` is carried out as a poll. -/
theorem Command.perform_waitForText (area : Region) (text : String) (timeout : Duration) :
    (Command.waitForText area text timeout).perform g config fuel line =
      (Poll.ofText g config (firstBlock (TextBlock.endsSearch area text) fun _ => ())).carryOut g
        config fuel line timeout
        (fun found =>
          let ending := if found.isSome then "found" else "timed out"
          s!"waitForText(\"{text}\"): {ending}")
        fun found => .bool found.isSome := by
  rw [← funext (sightIn?_eq area text)]
  simp only [Command.perform, pollText, Poll.watchText_eq, bind_assoc]
  rfl

/-- `findText` is carried out as a poll. -/
theorem Command.perform_findText (text : String) (timeout : Duration) :
    (Command.findText text timeout).perform g config fuel line =
      (Poll.ofText g config (firstBlock (·.holds text) (·.bounds.center))).carryOut g config fuel
        line timeout (fun found => s!"findText(\"{text}\"): {foundText found}") Value.ofPoint? := by
  rw [← funext (placeOf?_eq text)]
  simp only [Command.perform, pollText, Poll.watchText_eq, bind_assoc]
  rfl

end Perform

/-- `waitForColor`, `waitForText` and `findText` return what the first decisive sample gives. The
first sample is taken in any case, and one more behind each turn of the timer that allows it. A
pixel of the color decides, and so does a pixel that cannot be read. Of the text of the screen, a
text in which the check finds something decides, and so does any failure but that of a recognition
that takes too long, or a stop; behind a text in which nothing is found and behind such a
recognition, the timer is asked. No sample is taken behind the one that decides or behind a refusal
of the timer.

A check goes through the blocks of a text in order, `waitForText` up to the first one with its
center in the area that holds the text, `findText` up to the first one that holds the text. It
computes the centers of the blocks, `findText` only that of the last one. If the edges of a block
are so far out that the center cannot be computed, that is decisive too: the command panics, and
gives no value. -/
theorem polls_return_first_decisive_sample (g : Gateway ω) (config : Config) :
    (∀ q color timeout, (Command.waitForColor q color timeout).PollsBy g config timeout
      (.ofColor g.transcribed q color)
      (fun found =>
        let ending := if found.isSome then "matched" else "timed out"
        s!"waitForColor({q.x}, {q.y}, {String.ofList color.text}): {ending}")
      fun found => .bool found.isSome) ∧
    (∀ area text timeout, (Command.waitForText area text timeout).PollsBy g config timeout
      (.ofText g.transcribed config (firstBlock (TextBlock.endsSearch area text) fun _ => ()))
      (fun found =>
        let ending := if found.isSome then "found" else "timed out"
        s!"waitForText(\"{text}\"): {ending}")
      fun found => .bool found.isSome) ∧
    ∀ text timeout, (Command.findText text timeout).PollsBy g config timeout
      (.ofText g.transcribed config (firstBlock (·.holds text) (·.bounds.center)))
      (fun found => s!"findText(\"{text}\"): {foundText found}") Value.ofPoint? := by
  refine ⟨fun q color timeout => ?_, fun area text timeout => ?_, fun text timeout => ?_⟩
  · exact Command.pollsBy_of_perform_eq
      (fun fuel line => Command.perform_waitForColor g.transcribed config fuel line q color timeout)
      (Poll.shows_look_ofColor g q color)
  · exact Command.pollsBy_of_perform_eq
      (fun fuel line =>
        Command.perform_waitForText g.transcribed config fuel line area text timeout)
      (Poll.shows_look_ofText g config _)
  · exact Command.pollsBy_of_perform_eq
      (fun fuel line => Command.perform_findText g.transcribed config fuel line text timeout)
      (Poll.shows_look_ofText g config _)

/-- A wait that ends without a value. The only block of the text does not hold what is looked for,
so that nothing is found in it, but its edges are too far out and `waitForText` takes its center. -/
theorem waitForText_panics :
    let d : Device :=
      { width := 1, height := 1, texts := [⟨"b", ⟨2000000000, 0, 2000000000, 10⟩⟩] }
    ∃ t, ∀ fuel, (Command.waitForText ⟨0, 0, 1, 1⟩ "a" 0).perform Device.gateway {} (fuel + 1) 1
      { state := d } = .crashed ⟨some "attempt to add with overflow"⟩ t :=
  ⟨_, fun _ => rfl⟩

end TapScript
