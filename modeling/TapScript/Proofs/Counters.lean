import Mathlib.Logic.Function.Basic
import TapScript.Proofs.Atomicity
import TapScript.Proofs.ColorText

/-! # Counters

A variable that outlives the run is kept as a text. `incVar` and `decVar` read it as an integer of
64 bits, with zero for whatever is none, and store the decimal text of the next integer. So the
counter behind the text obeys the arithmetic of integers, up to the two limits.

* `Counter.Counts` says as what a stored text counts, and `Counter.counts_iff` that it is what
  `stepVar` reads.
* `Counter.counts_decimal` says that the text that is stored is read back.
* `Direction.perform_of_ne` and `Direction.perform_of_eq` are one step, away from the limit and at
  it, and `Direction.performAll_eq` is a sequence of steps.
* `counter_arithmetic` puts them together, over every gateway that keeps variables. -/

namespace TapScript

variable {ω : Type}

/-- The gateway keeps the variables that outlive a run, where `stored` reads them off its states.
They are loaded as they are stored, and nothing but storing changes them. -/
structure Gateway.KeepsStore (g : Gateway ω) (stored : ω → String → Option String) : Prop where
  loads : ∀ name stopped w, (g.answer (.load name) stopped w).outcome = .ok (stored w name)
  stores : ∀ name value stopped w, (g.answer (.store name value) stopped w).outcome = .ok ()
  puts : ∀ name value stopped w,
    stored (g.answer (.store name value) stopped w).state =
      Function.update (stored w) name (some value)
  only : g.StoreOnly stored

namespace Device

/-- A search does not see that the entries of another name were removed. -/
theorem lookup_filter_of_ne {name other : String} (h : other ≠ name) (es : List (String × String)) :
    (es.filter fun e => e.1 != name).lookup other = es.lookup other := by
  induction es with
  | nil => rfl
  | cons e es ih =>
    obtain ⟨key, value⟩ := e
    by_cases hkey : key = name
    · rw [List.filter_cons_of_neg (by simp [hkey]), ih, List.lookup_cons, hkey,
        beq_eq_false_iff_ne.2 h]
    · rw [List.filter_cons_of_pos (by simp [hkey]), List.lookup_cons, List.lookup_cons, ih]

/-- What is stored is loaded, and all other variables are as before. -/
theorem load_store (d : Device) (name value : String) :
    (d.store name value).load = Function.update d.load name (some value) := by
  funext other
  rw [load, store, List.lookup_cons]
  by_cases h : other = name
  · subst h
    rw [beq_self_eq_true, Function.update_self]
  · rw [beq_eq_false_iff_ne.2 h, Function.update_of_ne h, lookup_filter_of_ne h, load]

/-- The simulated device keeps its variables. -/
theorem keepsStore : gateway.KeepsStore load where
  loads _ _ _ := rfl
  stores _ _ _ _ := rfl
  puts name value _ d := d.load_store name value
  only r stopped d hr := by
    funext name
    rw [load, load, storeOnly_stored r stopped d hr]

end Device

namespace Counter

/-! ## Integers in texts -/

/-- The integer has 64 bits. -/
def Fits (n : Int) : Prop := Number.minInt64 ≤ n ∧ n ≤ Number.maxInt64

instance (n : Int) : Decidable (Fits n) := inferInstanceAs (Decidable (_ ∧ _))

/-- As what a stored text counts: as the integer that it spells without the blanks around it, and as
zero if there is no text or if it spells no integer of 64 bits. -/
inductive Counts : Option String → Int → Prop
  | absent : Counts none 0
  | spelled {text : String} {n : Int} (h : Integer.IsDecimal (Text.trim text.toList) n)
      (hfits : Fits n) :
      Counts (some text) n
  | unreadable {text : String} (h : ∀ n, Fits n → ¬Integer.IsDecimal (Text.trim text.toList) n) :
      Counts (some text) 0

/-- As what a text counts is what is read from it, and zero if nothing is. -/
theorem counts_iff {stored : Option String} {n : Int} :
    Counts stored n ↔
      (stored.bind fun v => Integer.readWithin? Number.minInt64 Number.maxInt64
        (Text.trim v.toList)).getD 0 = n := by
  cases stored with
  | none =>
    constructor
    · rintro ⟨⟩
      rfl
    · rintro rfl
      exact .absent
  | some text =>
    rw [Option.bind_some]
    cases hread : Integer.readWithin? Number.minInt64 Number.maxInt64 (Text.trim text.toList) with
    | none =>
      -- nothing is read, so there is no integer of 64 bits that the text spells
      have hnone : ∀ m, Fits m → ¬Integer.IsDecimal (Text.trim text.toList) m := by
        intro m hfits hm
        rw [Integer.readWithin?_eq_some_iff.2 ⟨hm, hfits⟩] at hread
        cases hread
      constructor
      · rintro (_ | ⟨h, hfits⟩ | _)
        · exact absurd h (hnone n hfits)
        · rfl
      · rintro rfl
        exact .unreadable hnone
    | some m =>
      obtain ⟨hm, hfits⟩ := Integer.readWithin?_eq_some_iff.1 hread
      constructor
      · rintro (_ | ⟨h, hfits'⟩ | h)
        · rw [Integer.readWithin?_eq_some_iff.2 ⟨h, hfits'⟩] at hread
          cases hread
          rfl
        · exact absurd hm (h m hfits)
      · rintro rfl
        exact .spelled hm hfits

/-- What is stored counts as exactly one integer. -/
theorem Counts.iff_eq {stored : Option String} {n : Int} (h : Counts stored n) (m : Int) :
    Counts stored m ↔ m = n := by
  rw [counts_iff, counts_iff.1 h, eq_comm]

/-- What a text counts as has 64 bits. -/
theorem Counts.fits {stored : Option String} {n : Int} (h : Counts stored n) : Fits n := by
  cases h with
  | absent => decide
  | spelled _ hfits => exact hfits
  | unreadable => decide

/-- The decimal text of an integer. -/
def decimal (n : Int) : String := String.ofList (Integer.render n)

/-- The digits of an integer are a decimal notation of it. -/
theorem isDecimal_render (n : Int) : Integer.IsDecimal (Integer.render n) n := by
  have hdigit : ∀ d < 10, Integer.decimalDigit? (Nat.digitChar d) = some d := by decide
  have hspells : Integer.Spells Integer.IsDecimalDigit 10 (Nat.toDigits 10 n.natAbs) n.natAbs :=
    (Integer.digits?_eq_some_iff Integer.decimalDigit?_eq_some_iff).1
      (Integer.digits?_toDigits (by decide) hdigit _)
  have hne : Nat.toDigits 10 n.natAbs ≠ [] := Nat.toDigits_ne_nil
  unfold Integer.render
  split
  · have hminus := Integer.IsDecimal.minus hne hspells
    rwa [show -(n.natAbs : Int) = n by omega] at hminus
  · have hbare := Integer.IsDecimal.bare hne hspells
    rwa [show (n.natAbs : Int) = n by omega] at hbare

/-- There are no blanks around the digits. -/
theorem trim_render (n : Int) : Text.trim (Integer.render n) = Integer.render n := by
  have hplain : ∀ c ∈ Integer.render n, Text.isBlank c = false := by
    intro c hc
    rcases Integer.isDigit_of_mem_render hc with rfl | hdigit
    · rfl
    · have hnumber : Token.Pending.isNumberChar c := by
        rw [Token.Pending.isNumberChar, hdigit, Bool.true_or]
      rcases Token.isWordChar_of_isNumberChar hnumber with hword | rfl
      · exact Text.isBlank_eq_false_of_isWordChar hword
      · rfl
  exact Text.trim_eq_self (fun c hc => hplain c (List.mem_of_mem_head? hc))
    fun c hc => hplain c (List.mem_of_mem_getLast? hc)

/-- What is stored for an integer counts as this integer. -/
theorem counts_decimal {n : Int} (h : Fits n) : Counts (some (decimal n)) n := by
  refine .spelled ?_ h
  rw [decimal, String.toList_ofList, trim_render]
  exact isDecimal_render n

end Counter

open Counter

/-! ## One step -/

/-- The two ways of stepping a counter. -/
inductive Direction where
  | up
  | down
deriving DecidableEq

namespace Direction

/-- The command that steps this way. -/
def builtin : Direction → Builtin
  | up => .incVar
  | down => .decVar

/-- What a step adds. -/
def step : Direction → Int
  | up => 1
  | down => -1

/-- The integer from which no step is possible. -/
def limit : Direction → Int
  | up => Number.maxInt64
  | down => Number.minInt64

/-- Stepping the counter with the given name. -/
def command (d : Direction) (name : String) : Command := .stepVar d.builtin name d.step

/-- Whatever its arguments are, the command steps a counter. -/
theorem exists_eq_command {d : Direction} {config : Config} {c : Command}
    (h : d.builtin.Issues config c) : ∃ name, c = d.command name := by
  obtain ⟨args, env, d₁, d₂, hread⟩ := h
  refine (?_ : Reading.Yields (fun c => ∃ name, c = d.command name)
    (d.builtin.read args env config)) d₁ c d₂ hread
  unfold Builtin.read
  dsimp only
  split
  · open Reading in
    cases d with
    | up => exact yields_bind fun name => yields_pure ⟨name, rfl⟩
    | down => exact yields_bind fun name => yields_pure ⟨name, rfl⟩
  · exact Reading.yields_throw _

/-- Only from the limit does a step lead out of 64 bits. -/
theorem fits_step_iff {n : Int} (hn : Fits n) (d : Direction) :
    Fits (n + d.step) ↔ n ≠ d.limit := by
  unfold Fits at *
  cases d with
  | up =>
    simp only [step, limit]
    omega
  | down =>
    simp only [step, limit]
    omega

variable {g : Gateway ω} {stored : ω → String → Option String} (hg : g.KeepsStore stored)
  (config : Config) (fuel line : Nat) {name : String} {n : Int}

section

include hg

/-- Loading gives what is stored and changes nothing of it. -/
theorem load_eq (name : String) (s : Station ω) :
    ask g (.load name) s = .done (stored s.state name) (s.answered g (.load name)) ∧
      stored (s.answered g (.load name)).state = stored s.state := by
  constructor
  · simp only [ask, Station.answered, hg.loads name s.stopped s.state]
  · rw [hg.only.read_answered, hg.only _ _ _ rfl]

/-- Storing changes the one variable and no other. -/
theorem store_eq (name value : String) (s : Station ω) :
    ask g (.store name value) s = .done () (s.answered g (.store name value)) ∧
      stored (s.answered g (.store name value)).state =
        Function.update (stored s.state) name (some value) := by
  constructor
  · simp only [ask, Station.answered, hg.stores name value s.stopped s.state]
  · rw [hg.only.read_answered, hg.puts]

/-- What a step does, by whether the next integer fits. -/
theorem stepVar_eq {s : Station ω} (hn : Counts (stored s.state name) n) (b : Builtin)
    (step : Int) :
    stepVar g b name step s =
      if Fits (n + step) then
        .done (.ok (.number (Float.ofInt (n + step))))
          (((s.answered g (.load name)).answered g (.store name (decimal (n + step)))).note
            ⟨.debug, "Persistent variable updated",
              [("name", name), ("value", toString (n + step))]⟩)
      else .done (.error (.invalid b.name (.overflow name n))) (s.answered g (.load name)) := by
  have hguard : (n + step < Number.minInt64 ∨ Number.maxInt64 < n + step) ↔ ¬Fits (n + step) := by
    unfold Fits
    omega
  -- the integer is the one that is read, so it is replaced by the reading itself
  obtain rfl := counts_iff.1 hn
  unfold stepVar
  refine (Exec.bind_done (load_eq hg name s).1).trans ?_
  simp only [hguard, ite_not]
  split
  · exact Exec.bind_done (store_eq hg name _ _).1
  · rfl

/-- Away from the limit the next integer is stored and given back. -/
theorem perform_of_ne {s : Station ω} (hn : Counts (stored s.state name) n) {d : Direction}
    (h : n ≠ d.limit) :
    ∃ s', (d.command name).perform g config fuel line s =
        .done (.ok (some (.number (Float.ofInt (n + d.step))))) s' ∧
      stored s'.state = Function.update (stored s.state) name (some (decimal (n + d.step))) := by
  have hstep := stepVar_eq hg hn d.builtin d.step
  rw [if_pos ((fits_step_iff hn.fits d).2 h)] at hstep
  refine ⟨_, Exec.bind_done hstep, ?_⟩
  rw [← (load_eq hg name s).2]
  exact (store_eq hg name _ _).2

/-- At the limit nothing is stored. -/
theorem perform_of_eq {s : Station ω} (hn : Counts (stored s.state name) n) {d : Direction}
    (h : n = d.limit) :
    ∃ s', (d.command name).perform g config fuel line s =
        .done (.error (.invalid d.builtin.name (.overflow name n))) s' ∧
      stored s'.state = stored s.state := by
  have hstep := stepVar_eq hg hn d.builtin d.step
  rw [if_neg (mt (fits_step_iff hn.fits d).1 (not_not_intro h))] at hstep
  exact ⟨_, Exec.bind_done hstep, (load_eq hg name s).2⟩

end

/-! ## Sequences of steps -/

/-- The integers that a counter passes from `n` on. -/
def values (n : Int) : List Direction → List Int
  | [] => []
  | d :: ds => (n + d.step) :: values (n + d.step) ds

/-- How far the steps lead, whatever their order is. -/
def total (ds : List Direction) : Int := ds.count up - ds.count down

/-- The first step counts once. -/
theorem total_cons (d : Direction) (ds : List Direction) : total (d :: ds) = d.step + total ds := by
  cases d with
  | up =>
    simp [total, step]
    omega
  | down =>
    simp [total, step]
    omega

/-- Stepping the counter with the given name again and again. -/
def performAll (g : Gateway ω) (config : Config) (fuel line : Nat) (name : String)
    (ds : List Direction) : Exec (Station ω) (List (Except Mishap (Option Value))) :=
  ds.mapM fun d => (d.command name).perform g config fuel line

/-- Steps that never leave the 64 bits are all carried out, and they lead to the total. -/
theorem performAll_eq (hg : g.KeepsStore stored) (ds : List Direction) {s : Station ω}
    (hn : Counts (stored s.state name) n) (hfits : ∀ m ∈ values n ds, Fits m) :
    ∃ s', performAll g config fuel line name ds s =
        .done ((values n ds).map fun m => .ok (some (.number (Float.ofInt m)))) s' ∧
      stored s'.state =
        if ds.isEmpty then stored s.state
        else Function.update (stored s.state) name (some (decimal (n + total ds))) := by
  induction ds generalizing n s with
  | nil => exact ⟨s, rfl, rfl⟩
  | cons d ds ih =>
    obtain ⟨hfirst, hothers⟩ := List.forall_mem_cons.1 hfits
    obtain ⟨s₁, hperform, hstored⟩ :=
      perform_of_ne hg config fuel line hn ((fits_step_iff hn.fits d).1 hfirst)
    -- the text behind the first step is read back by the second one
    have hcounts : Counts (stored s₁.state name) (n + d.step) := by
      rw [hstored, Function.update_self]
      exact counts_decimal hfirst
    obtain ⟨s₂, hall, hstored'⟩ := ih hcounts hothers
    unfold performAll at hall ⊢
    refine ⟨s₂, ?_, ?_⟩
    · rw [List.mapM_cons, Exec.bind_done hperform, Exec.bind_done hall]
      rfl
    · rw [hstored', hstored, Function.update_idem, total_cons, ← Int.add_assoc]
      cases ds with
      | nil =>
        rw [show total [] = 0 from rfl, Int.add_zero]
        rfl
      | cons => rfl

end Direction

/-- **Counters obey the arithmetic of integers up to the limits of 64 bits.** What is stored under a
name counts as one integer. A step stores the decimal text of the next integer, which counts as this
integer, and changes no other name; at its limit it is an error and changes nothing. Steps in any
order, none of which leaves the 64 bits, end with the decimal text of the integer that increments
and decrements add up to. -/
theorem counter_arithmetic {g : Gateway ω} {stored : ω → String → Option String}
    (hg : g.KeepsStore stored) (config : Config) (fuel line : Nat) (name : String) (s : Station ω) :
    (∀ (d : Direction) c, d.builtin.Issues config c → ∃ name, c = d.command name) ∧
    ∃ n, (∀ m, Counts (stored s.state name) m ↔ m = n) ∧
      (∀ d : Direction, n ≠ d.limit → ∃ s',
        (d.command name).perform g config fuel line s =
          .done (.ok (some (.number (Float.ofInt (n + d.step))))) s' ∧
        stored s'.state = Function.update (stored s.state) name (some (decimal (n + d.step))) ∧
        ∀ m, Counts (some (decimal (n + d.step))) m ↔ m = n + d.step) ∧
      (∀ d : Direction, n = d.limit → ∃ s',
        (d.command name).perform g config fuel line s =
          .done (.error (.invalid d.builtin.name (.overflow name n))) s' ∧
        stored s'.state = stored s.state) ∧
      ∀ ds : List Direction, (∀ m ∈ Direction.values n ds, Fits m) → ∃ s',
        Direction.performAll g config fuel line name ds s =
          .done ((Direction.values n ds).map fun m => .ok (some (.number (Float.ofInt m)))) s' ∧
        stored s'.state =
          if ds.isEmpty then stored s.state
          else Function.update (stored s.state) name
            (some (decimal (n + ds.count .up - ds.count .down))) := by
  obtain ⟨n, hn⟩ : ∃ n, Counts (stored s.state name) n := ⟨_, counts_iff.2 rfl⟩
  refine ⟨fun d c => Direction.exists_eq_command, n, hn.iff_eq, fun d hd => ?_, fun d hd => ?_,
    fun ds hds => ?_⟩
  · obtain ⟨s', hperform, hstored⟩ := Direction.perform_of_ne hg config fuel line hn hd
    exact ⟨s', hperform, hstored,
      (counts_decimal ((Direction.fits_step_iff hn.fits d).2 hd)).iff_eq⟩
  · exact Direction.perform_of_eq hg config fuel line hn hd
  · obtain ⟨s', hperform, hstored⟩ := Direction.performAll_eq config fuel line hg ds hn hds
    rw [Direction.total, ← Int.add_sub_assoc] at hstored
    exact ⟨s', hperform, hstored⟩

/-- A counter on a device, with blanks around its text, goes up twice and down once. -/
theorem counter_arithmetic_device :
    ∃ s', Direction.performAll Device.gateway {} 0 1 "n" [.up, .up, .down]
      { state := Device.store {} "n" " -1 " } =
        .done ([0, 1, 0].map fun m => .ok (some (.number (Float.ofInt m)))) s' ∧
      s'.state.load "n" = some "0" := by
  obtain ⟨-, n, hn, -, -, hall⟩ :=
    counter_arithmetic Device.keepsStore {} 0 1 "n" { state := Device.store {} "n" " -1 " }
  obtain rfl : -1 = n := (hn (-1)).1 (counts_iff.2 (by decide))
  obtain ⟨s', hperform, hstored⟩ := hall [.up, .up, .down] (by decide)
  exact ⟨s', hperform, by rw [hstored]; rfl⟩

end TapScript
