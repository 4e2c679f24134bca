import Mathlib.Algebra.Ring.Nat
import TapScript.Gateway.Device
import TapScript.Proofs.Transcript

/-! # The books of a run

A run keeps books: what the gateway has accepted and refused to do, and the lines of the log, in the
order of the transcript. A command that acts makes one posting to them. For a single action this is
the action and the line that traces it, or the refusal alone. For a `tap` it is its clicks and one
line with their number; but if a click is refused, the clicks before it are in the books without a
line.

* `Entry` is what the books hold, `Station.entries` reads them off the transcript.
* `Posting` is what one command adds, and `perform_posts` says so for each command that acts.
* `Accounts` says that the books are made of postings and of lines that have nothing to do with an
  action; then they can be balanced (`Accounts.sublist`, `Accounts.actions_eq`,
  `Accounts.clicks_eq`).
* `execute_keeps_accounts` is the main result, and `tap_leaves_clicks_untraced` is a run with clicks
  that no line accounts for. -/

namespace TapScript

variable {ω : Type}

/-! ## Entries -/

/-- An entry of the books. -/
inductive Entry where
  | accepted (a : Action)
  | refused (a : Action)
  | line (text : String)
deriving DecidableEq, Repr

namespace Entry

/-- Whether the entry is a line of the log. -/
def isLine : Entry → Bool
  | line _ => true
  | _ => false

/-- Whether the entry is a click that was accepted. -/
def isClick : Entry → Bool
  | accepted (.click _) => true
  | _ => false

/-- A line of the log is no click. -/
theorem isClick_eq_false_of_isLine {e : Entry} (h : e.isLine) : e.isClick = false := by
  cases e with
  | line text => rfl
  | _ => cases h

end Entry

/-- What an answer adds to the books. -/
def Request.booked? : (r : Request) → Except Crash r.Reply → Option Entry
  | .act a, .ok (.ok _) => some (.accepted a)
  | .act a, .ok (.error _) => some (.refused a)
  | .log text, _ => some (.line text)
  | _, _ => none

/-- What an exchange adds to the books. -/
def Exchange.booked? (e : Exchange) : Option Entry := e.request.booked? e.outcome

/-- Actions apart, only lines of the log are entered. -/
theorem Request.isLine_of_booked? {r : Request} (hr : ∀ a, r ≠ .act a)
    {outcome : Except Crash r.Reply} {e : Entry} (he : e ∈ r.booked? outcome) :
    e.isLine = true := by
  cases r with
  | act a => exact absurd rfl (hr a)
  | log text =>
    cases he
    rfl
  | _ => cases he

/-- Waiting is not booked. -/
theorem Request.booked?_of_isWait {r : Request} (hr : r.isWait) (outcome : Except Crash r.Reply) :
    r.booked? outcome = none := by
  cases r with
  | checkpoint => rfl
  | clock => rfl
  | pause duration => rfl
  | panic message => rfl
  | _ => cases hr

namespace Station

/-- The books so far. -/
def entries (st : Station (ω × List Exchange)) : List Entry :=
  st.transcript.filterMap Exchange.booked?

/-- The entries are read off the gateway's state alone. -/
theorem entries_congr {s t : Station (ω × List Exchange)} (h : s.state = t.state) :
    s.entries = t.entries :=
  congrArg (List.filterMap Exchange.booked?) (transcript_congr h)

/-- A request adds what is booked for it, at the end. -/
theorem entries_answered (g : Gateway ω) (r : Request) (s : Station (ω × List Exchange)) :
    (s.answered g.transcribed r).entries = s.entries ++ (s.exchange g r).booked?.toList :=
  Station.filterMap_answered (fun _ _ _ => rfl) r s

end Station

/-! ## Postings -/

/-- What a command that acts adds to the books. -/
inductive Posting where
  /-- An action with its line. -/
  | traced (a : Action)
  /-- An action that was refused. -/
  | refused (a : Action)
  /-- The clicks of a `tap` with its line. -/
  | tapped (p : Point) (count : Nat)
  /-- The clicks of a `tap` of which the next one was refused. -/
  | torn (p : Point) (count : Nat)
deriving DecidableEq, Repr

namespace Posting

/-- The entries of a posting. -/
def entries : Posting → List Entry
  | traced a => [.accepted a, .line a.trace]
  | refused a => [.refused a]
  | tapped p count => List.replicate count (.accepted (.click p)) ++
      [.line s!"tap({p.x}, {p.y}) x{count}"]
  | torn p count => List.replicate count (.accepted (.click p)) ++ [.refused (.click p)]

/-- The clicks that the line of the posting tells of. -/
def reported : Posting → Nat
  | traced (.click _) => 1
  | tapped _ count => count
  | _ => 0

/-- The clicks that no line tells of. -/
def unreported : Posting → Nat
  | torn _ count => count
  | _ => 0

/-- The clicks of a posting are those that are reported and those that are not. -/
theorem countP_entries (p : Posting) :
    p.entries.countP Entry.isClick = p.reported + p.unreported := by
  cases p with
  | traced a => cases a <;> rfl
  | refused a => rfl
  | tapped p count =>
    rw [entries, List.countP_append, List.countP_replicate]
    rfl
  | torn p count =>
    rw [entries, List.countP_append, List.countP_replicate]
    exact (Nat.zero_add _).symm

end Posting

/-- The postings of a command that has ended with the result. -/
def Command.Posts : Command → Except Mishap (Option Value) → Posting → Prop
  | act a, .ok _, posting => posting = .traced a
  | act a, .error _, posting => posting = .refused a
  | tap p count _, .ok _, posting => ∃ n ≤ count, posting = .tapped p n
  | tap p count _, .error _, posting => ∃ n < count, posting = .torn p n
  | _, _, _ => False

/-! ## Commands that act -/

section Commands

variable (g : Gateway ω)

/-- A request that is made adds at most one entry, also if the gateway crashes at it. -/
theorem ask_entries (r : Request) (s : Station (ω × List Exchange)) :
    (ask g.transcribed r s).Ends
      (fun reply t => t.entries = s.entries ++ (r.booked? (.ok reply)).toList)
      (fun c t => t.entries = s.entries ++ (r.booked? (.error c)).toList) False := by
  have hanswered := s.entries_answered g r
  obtain ⟨reply, houtcome, hask⟩ | ⟨crash, houtcome, hask⟩ := ask_cases g.transcribed r s
  · have houtcome : (s.exchange g r).outcome = .ok reply := houtcome
    rw [hask]
    rw [Exchange.booked?, houtcome] at hanswered
    exact hanswered
  · have houtcome : (s.exchange g r).outcome = .error crash := houtcome
    rw [hask]
    rw [Exchange.booked?, houtcome] at hanswered
    exact hanswered

/-- A wait leaves the books alone. -/
theorem wait_keeps_entries (es : List Entry) (r : Request) (hr : r.isWait) :
    Exec.Alike (Held fun s => s.entries = es) (fun _ => Held fun _ => True) (ask g.transcribed r)
      (ask g.transcribed r) := by
  refine Exec.alike_held_iff.2 fun s hs => (ask_entries g r s).imp (fun reply t ht => ?_)
    (fun _ _ _ => trivial) False.elim
  rw [Request.booked?_of_isWait hr] at ht
  exact ht.trans ((List.append_nil _).trans hs)

/-- Looking at the stop flag books nothing. -/
theorem stopRequested_entries (s : Station (ω × List Exchange)) :
    (stopRequested g.transcribed s).Ends (fun _ t => t.entries = s.entries) fun _ _ => True :=
  Exec.alike_held_iff.1 (stopRequested_alike (fun h => congrArg _ h.1)
    (wait_keeps_entries g s.entries)) s rfl

/-- Sleeping books nothing, however many slices it takes. -/
theorem sleep_entries (fuel : Nat) (duration slice : Duration) (s : Station (ω × List Exchange)) :
    (sleep g.transcribed fuel duration slice s).Ends (fun _ t => t.entries = s.entries)
      fun _ _ => True :=
  Exec.alike_held_iff.1 (sleep_alike (fun h => congrArg _ h.1) (wait_keeps_entries g s.entries) fuel
    duration slice) s rfl

/-- A line that is logged is booked. -/
theorem log_entries (line : String) (s : Station (ω × List Exchange)) :
    (log g.transcribed line s).Ends (fun _ t => t.entries = s.entries ++ [.line line])
      fun _ _ => True := by
  rw [log, record, Exec.modify_bind]
  exact (ask_entries g (.log line) _).imp (fun _ _ ht => ht) (fun _ _ _ => trivial) False.elim

/-- What `remaining` clicks, of which `done` were made before, have added to the books: clicks, and
then a refusal if it has come to that. -/
def Clicked (p : Point) (remaining done : Nat) (s : Station (ω × List Exchange)) :
    Except Fault Nat → Station (ω × List Exchange) → Prop
  | .ok n, t => ∃ k ≤ remaining, n = done + k ∧
      t.entries = s.entries ++ List.replicate k (.accepted (.click p))
  | .error _, t => ∃ k < remaining,
      t.entries = s.entries ++ (List.replicate k (.accepted (.click p)) ++ [.refused (.click p)])

/-- Where no click was made, as many are done as before. -/
theorem Clicked.nil {p : Point} {remaining done : Nat} {s t : Station (ω × List Exchange)}
    (ht : t.entries = s.entries) : Clicked p remaining done s (.ok done) t :=
  ⟨0, Nat.zero_le _, rfl, ht.trans (List.append_nil _).symm⟩

/-- One click and what comes behind it. -/
theorem Clicked.cons {p : Point} {remaining done : Nat} {s u : Station (ω × List Exchange)}
    (hu : u.entries = s.entries ++ [.accepted (.click p)]) {result : Except Fault Nat}
    {t : Station (ω × List Exchange)} (h : Clicked p remaining (done + 1) u result t) :
    Clicked p (remaining + 1) done s result t := by
  cases result with
  | ok n =>
    obtain ⟨k, hk, hn, ht⟩ := h
    refine ⟨k + 1, by omega, by omega, ?_⟩
    rw [ht, hu, List.append_assoc, List.replicate_succ]
    rfl
  | error fault =>
    obtain ⟨k, hk, ht⟩ := h
    refine ⟨k + 1, by omega, ?_⟩
    rw [ht, hu, List.append_assoc, List.replicate_succ]
    rfl

/-- The clicks of a `tap`, by induction on how many are left. Each one is entered as it is made. -/
theorem clicks_entries (config : Config) (fuel : Nat) (p : Point) (delay : Duration)
    (remaining done : Nat) (s : Station (ω × List Exchange)) :
    (clicks g.transcribed config fuel p delay remaining done s).Ends (Clicked p remaining done s)
      fun _ _ => True := by
  induction remaining generalizing done s with
  | zero => exact .nil rfl
  | succ remaining ih =>
    refine Outcome.Ends.bind ((stopRequested_entries g s).imp (fun stopped u hu => ?_)
      fun _ _ hc => hc)
    cases stopped with
    | true => exact .nil hu
    | false =>
      refine Outcome.Ends.bind ((ask_entries g (.act (.click p)) u).imp (fun reply v hv => ?_)
        (fun _ _ _ => trivial) False.elim)
      rw [hu] at hv
      cases reply with
      | error fault => exact ⟨0, Nat.succ_pos _, hv⟩
      | ok _ =>
        -- behind the last click there is no pause
        by_cases hremaining : remaining = 0
        · subst hremaining
          exact Clicked.cons hv (.nil rfl)
        · rw [if_neg hremaining]
          refine Outcome.Ends.bind ((sleep_entries g fuel delay config.slice v).imp
            (fun slept t ht => ?_) fun _ _ hc => hc)
          rw [hv] at ht
          cases slept with
          | true => exact (ih (done + 1) t).imp (fun _ _ h => h.cons ht) fun _ _ hc => hc
          | false => exact Clicked.cons ht (.nil rfl)

/-- **A command that acts makes one posting.** -/
theorem perform_posts (config : Config) (fuel line : Nat) {c : Command} (hc : c.acts)
    (s : Station (ω × List Exchange)) :
    (c.perform g.transcribed config fuel line s).Ends
      (fun result t => ∃ posting, c.Posts result posting ∧ t.entries = s.entries ++ posting.entries)
      fun _ _ => True := by
  cases c with
  | act a =>
    refine Outcome.Ends.bind ((ask_entries g (.act a) s).imp (fun reply t ht => ?_)
      (fun _ _ _ => trivial) False.elim)
    cases reply with
    | error fault => exact ⟨.refused a, rfl, ht⟩
    | ok _ =>
      refine Outcome.Ends.bind ((log_entries g a.trace t).imp (fun _ u hu => ⟨.traced a, rfl, ?_⟩)
        fun _ _ h => h)
      rw [hu, ht, List.append_assoc]
      rfl
  | tap p count delay =>
    refine Outcome.Ends.bind ((clicks_entries g config fuel p delay count 0 s).imp
      (fun result t ht => ?_) fun _ _ h => h)
    cases result with
    | error fault =>
      obtain ⟨k, hk, ht⟩ := ht
      exact ⟨.torn p k, ⟨k, hk, rfl⟩, ht⟩
    | ok n =>
      -- no click was made before the tap, so the number that it reports is that of its own
      obtain ⟨k, hk, hn, ht⟩ := ht
      rw [Nat.zero_add] at hn
      subst hn
      refine Outcome.Ends.bind ((log_entries g s!"tap({p.x}, {p.y}) x{n}" t).imp
        (fun _ u hu => ⟨.tapped p n, ⟨n, hk, rfl⟩, ?_⟩) fun _ _ h => h)
      rw [hu, ht, List.append_assoc]
      rfl
  | _ => cases hc

end Commands

/-! ## Runs -/

/-- From the station `s` on, books were kept. They are made of the postings, in this order, each
made by the command that has issued its actions, and of lines of the log between them. -/
inductive Accounts (g : Gateway ω) (s : Station (ω × List Exchange)) :
    List Posting → Station (ω × List Exchange) → Prop
  | start : Accounts g s [] s
  | aside {ps : List Posting} {t u : Station (ω × List Exchange)} {es : List Entry}
      (h : Accounts g s ps t)
    (hu : u.entries = t.entries ++ es) (hlines : ∀ e ∈ es, e.isLine) : Accounts g s ps u
  | perform {ps : List Posting} {t u : Station (ω × List Exchange)} {config : Config}
      {fuel line : Nat} {c : Command}
    {result : Except Mishap (Option Value)} {posting : Posting} (h : Accounts g s ps t)
    (hrun : c.perform g.transcribed config fuel line t = .done result u)
    (hposts : c.Posts result posting)
    (hu : u.entries = t.entries ++ posting.entries) : Accounts g s (ps ++ [posting]) u

namespace Accounts

variable {g : Gateway ω} {s t u : Station (ω × List Exchange)} {ps : List Posting}

/-- The accounts depend on the gateway's state alone. -/
theorem congr (h : Accounts g s ps t) (htu : t.state = u.state) : Accounts g s ps u := by
  have hu : u.entries = t.entries ++ [] := by rw [List.append_nil, Station.entries_congr htu]
  exact h.aside hu nofun

/-- The postings stand in the books. -/
theorem sublist (h : Accounts g s ps t) :
    (s.entries ++ ps.flatMap Posting.entries).Sublist t.entries := by
  induction h with
  | start => exact (List.append_nil _).symm ▸ List.Sublist.refl _
  | aside h hu hlines ih => exact hu ▸ ih.trans (List.sublist_append_left _ _)
  | perform h hrun hposts hu ih =>
    rw [hu, List.flatMap_append, ← List.append_assoc]
    exact ih.append ((List.flatMap_singleton _ _).symm ▸ List.Sublist.refl _)

/-- All actions in the books are those of the postings. -/
theorem actions_eq (h : Accounts g s ps t) :
    t.entries.filter (!·.isLine) =
      s.entries.filter (!·.isLine) ++ ps.flatMap fun posting =>
        posting.entries.filter (!·.isLine) := by
  induction h with
  | start => exact (List.append_nil _).symm
  | @aside ps t u es h hu hlines ih =>
    have hnone : es.filter (!·.isLine) = [] := List.filter_eq_nil_iff.2 fun e he => by
      simp [hlines e he]
    rw [hu, List.filter_append, hnone, List.append_nil, ih]
  | perform h hrun hposts hu ih =>
    rw [hu, List.filter_append, ih, List.flatMap_append, List.flatMap_singleton, List.append_assoc]

/-- The clicks in the books are those that lines tell of and those of taps that were torn. -/
theorem clicks_eq (h : Accounts g s ps t) :
    t.entries.countP Entry.isClick =
      s.entries.countP Entry.isClick + ((ps.map Posting.reported).sum +
        (ps.map Posting.unreported).sum) := by
  induction h with
  | start => rfl
  | @aside ps t u es h hu hlines ih =>
    have hnone : es.countP Entry.isClick = 0 :=
      List.countP_eq_zero.2 fun e he => by simp [Entry.isClick_eq_false_of_isLine (hlines e he)]
    rw [hu, List.countP_append, hnone, ih]
    rfl
  | @perform ps t u config fuel line c result posting h hrun hposts hu ih =>
    have hposting := posting.countP_entries
    simp only [hu, List.countP_append, List.map_append, List.sum_append,
      List.map_cons, List.map_nil, List.sum_singleton]
    omega

/-- A request that is no action adds no more than a line. -/
theorem ask_alike (g : Gateway ω) (s : Station (ω × List Exchange)) {r : Request}
    (hr : ∀ a, r ≠ .act a) :
    Exec.Alike (Held fun t => ∃ ps, Accounts g s ps t) (fun _ => Held fun _ => True)
      (ask g.transcribed r) (ask g.transcribed r) := by
  refine Exec.alike_held_iff.2 fun t ht => (ask_entries g r t).imp (fun reply u hu => ?_)
    (fun _ _ _ => trivial) False.elim
  obtain ⟨ps, h⟩ := ht
  exact ⟨ps, h.aside hu fun e he => Request.isLine_of_booked? hr (Option.mem_toList.1 he)⟩

/-- All moves of a run keep the books, where a command that acts is one move. -/
theorem counterparts (g : Gateway ω) (s : Station (ω × List Exchange)) :
    Counterparts g.transcribed g.transcribed (Held fun t => ∃ ps, Accounts g s ps t)
      fun _ => Held fun _ => True := by
  refine Counterparts.of_moves (Matching.held ?_) (fun r hr => ask_alike g s ?_)
    fun config fuel line c hc => ?_
  · rintro t u ⟨ps, h⟩ htu
    exact ⟨ps, h.congr htu⟩
  · rintro a rfl
    cases hr
  · refine Exec.alike_held_iff.2 fun t ht => ?_
    obtain ⟨ps, h⟩ := ht
    have hposts := perform_posts g config fuel line hc t
    cases hrun : c.perform g.transcribed config fuel line t with
    | done result u =>
      rw [hrun] at hposts
      obtain ⟨posting, hposting, hu⟩ := hposts
      exact ⟨ps ++ [posting], h.perform hrun hposting hu⟩
    | crashed crash u => trivial
    | exhausted => trivial

end Accounts

/-- Behind a crash of the script the engine reports a crash, if it reports anything. -/
theorem finish_error_returns (g : Gateway ω) (crash : Crash) :
    (Engine.finish g (.error crash)).Returns fun status => status = .crashed crash.message := by
  refine Exec.returns_bind fun _ s => ?_
  have hconclude : (Engine.conclude g (.error crash)).Returns fun status => status =
      .crashed crash.message :=
    Exec.returns_bind fun _ => Exec.returns_bind fun _ => Exec.returns_pure rfl
  exact Outcome.Meets.bind ((hconclude s).imp (fun status t ht => ht) fun _ h => h)

/-- **The log accounts for what was done, torn taps apart.** Unless a run reports a crash, its books
are made of postings and of lines between them. An action that was accepted stands in the posting of
the command that has issued it: as a single action with its line, as a click of a `tap` with one
line for all its clicks, or as a click of a `tap` whose next click was refused, without a line. An
action that was refused has no line. So the clicks that were accepted are as many as the lines of
the postings tell of, and those of the torn taps. -/
theorem execute_keeps_accounts (g : Gateway ω) (config : Config) (fuel : Nat) (lines : List Line)
    (st : Station ω) :
    (Engine.execute g.transcribed config fuel lines st.transcribed).Meets
      (fun report t => (∃ message, report.status = .crashed message) ∨
        ∃ ps, Accounts g st.transcribed ps t ∧ (ps.flatMap Posting.entries).Sublist t.entries ∧
          t.entries.filter (!·.isLine) =
            (ps.flatMap fun posting => posting.entries.filter (!·.isLine)) ∧
          t.entries.countP Entry.isClick =
            (ps.map Posting.reported).sum + (ps.map Posting.unreported).sum)
      fun _ => True := by
  let cleared : Station (ω × List Exchange) := { st.transcribed with stopped := false }
  have hcleared : Accounts g st.transcribed [] cleared := Accounts.start.congr rfl
  have h := Accounts.counterparts g st.transcribed
  show (Engine.proceed g.transcribed config fuel lines cleared).Meets _ _
  refine Outcome.ends_iff_meets.1 (Outcome.Ends.bind ?_)
  have hannounce := Exec.alike_held_iff.1 (h.announce_alike (Accounts.ask_alike g _ nofun) lines)
  refine (hannounce cleared ⟨[], hcleared⟩).imp (fun _ s hs => ?_) fun _ _ hc => hc
  refine Outcome.Ends.bind ((h.interpret_ends config fuel lines hs).imp (fun result u hu => ?_)
    (fun _ _ hc => hc.elim) fun _ => trivial)
  obtain ⟨outcome, frame⟩ := result
  cases outcome with
  | error crash =>
    -- nothing is said about the books of a run that has crashed
    have hstatus := finish_error_returns g.transcribed crash u
    refine Outcome.Ends.bind ((Outcome.ends_iff_meets.2 hstatus).imp (fun status t ht => ?_)
      fun _ _ hc => hc)
    exact .inl ⟨_, ht⟩
  | ok flow =>
    have hfinish := Exec.alike_held_iff.1 (h.finish_alike (.ok flow)) u hu
    refine Outcome.Ends.bind (hfinish.imp (fun status t ht => ?_) fun _ _ hc => hc)
    obtain ⟨ps, hps⟩ := ht
    have hclicks := hps.clicks_eq
    exact .inr ⟨ps, hps, hps.sublist, hps.actions_eq, hclicks.trans (Nat.zero_add _)⟩

/-! ## Clicks without a line -/

/-- The device that refuses all actions but the first few. -/
def Device.gatewayUpTo (limit : Nat) : Gateway Device where
  answer r stopped d :=
    match r with
    | .act a =>
      if d.actions.size < limit then Device.gateway.answer (.act a) stopped d
      else .reply (.error (.failed "worn out")) d
    | r => Device.gateway.answer r stopped d

/-- How a run was reported, with its books. -/
def Outcome.books? : Outcome (Station (ω × List Exchange)) Report → Option (Status × List Entry)
  | .done report t => some (report.status, t.entries)
  | _ => none

/-- If the second of three clicks is refused, then the first one was made and no line tells of it:
the only line is the one about the refusal. -/
theorem tap_leaves_clicks_untraced :
    (Engine.execute (Device.gatewayUpTo 1).transcribed {} 20 [⟨1, "tap(5, 5, 3, 0)".toList⟩]
        (Station.transcribed { state := {} })).books? =
      some (.completed, [.accepted (.click ⟨5, 5⟩), .refused (.click ⟨5, 5⟩),
        .line "Line 1: Gateway error: Action failed: worn out"]) := by
  decide +kernel

end TapScript
