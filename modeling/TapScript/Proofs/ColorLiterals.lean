import Mathlib.Data.List.Forall2
import Mathlib.Data.Nat.Digits.Lemmas
import Mathlib.Tactic.IntervalCases
import TapScript.Color

/-! # Which texts are colors

A color is written as `#RRGGBB`, as `#AARRGGBB` or as the packed number. The reader accepts these,
with blanks around them, and one more form that looks like the first two: where six or eight digits
are expected behind the `#`, a plus sign may stand for the first of them.

* `Integer.Spells` says which number some digits spell, `Integer.IsDecimal` which integer a sign and
  digits do.
* `Color.IsLiteral` are the written forms of a color, and `Color.IsPlusLiteral` are the forms with
  the plus sign.
* `Color.read_eq_ok_iff` says that exactly these are read, and as which colors. -/

namespace TapScript

/-! ## Numbers -/

namespace Integer

/-- The character is the decimal digit of the value. -/
def IsDecimalDigit (c : Char) (d : Nat) : Prop := "0123456789".toList[d]? = some c

/-- The character is a hexadecimal digit of the value, in lower or upper case. -/
def IsHexDigit (c : Char) (d : Nat) : Prop :=
  "0123456789abcdef".toList[d]? = some c ∨ "0123456789ABCDEF".toList[d]? = some c

/-- The characters are digits, and in the base they spell the number. -/
def Spells (isDigit : Char → Nat → Prop) (base : Nat) (t : Text) (n : Nat) : Prop :=
  ∃ ds, List.Forall₂ isDigit t ds ∧ n = Nat.ofDigits base ds.reverse

/-- The text is an optional sign and decimal digits, which spell the integer. -/
inductive IsDecimal : Text → Int → Prop
  | bare {t : Text} {n : Nat} (hne : t ≠ []) (h : Spells IsDecimalDigit 10 t n) : IsDecimal t n
  | plus {t : Text} {n : Nat} (hne : t ≠ []) (h : Spells IsDecimalDigit 10 t n) :
      IsDecimal ('+' :: t) n
  | minus {t : Text} {n : Nat} (hne : t ≠ []) (h : Spells IsDecimalDigit 10 t n) :
      IsDecimal ('-' :: t) (-n)

instance (c : Char) (d : Nat) : Decidable (IsDecimalDigit c d) :=
  inferInstanceAs (Decidable (_ = _))

instance (c : Char) (d : Nat) : Decidable (IsHexDigit c d) := inferInstanceAs (Decidable (_ ∨ _))

/-- What holds of the characters of the ASCII range is found by looking at each of them. -/
theorem forall_ascii {P : Char → Prop} (h : ∀ n < 128, P (Char.ofNat n)) {c : Char}
    (hc : c.toNat < 128) : P c := by
  have hp := h c.toNat hc
  rwa [Char.ofNat_toNat] at hp

/-- Only characters of ASCII are hexadecimal digits. -/
theorem toNat_lt_of_hexDigit? {c : Char} {d : Nat} (h : hexDigit? c = some d) : c.toNat < 128 := by
  unfold hexDigit? at h
  split at h
  · rename_i hdigit
    simp only [Char.isDigit, Bool.and_eq_true, decide_eq_true_eq] at hdigit
    exact Nat.lt_of_le_of_lt hdigit.2 (by decide)
  · split at h
    · rename_i hlower
      exact Nat.lt_of_le_of_lt (m := 102) hlower.2 (by decide)
    · split at h
      · rename_i hupper
        exact Nat.lt_of_le_of_lt (m := 70) hupper.2 (by decide)
      · cases h

/-- A hexadecimal digit is worth less than sixteen. -/
theorem IsHexDigit.lt {c : Char} {d : Nat} (h : IsHexDigit c d) : d < 16 := by
  rcases h with h | h
  · exact (List.getElem?_eq_some_iff.1 h).1
  · exact (List.getElem?_eq_some_iff.1 h).1

/-- A character is read as the hexadecimal digit that it is. -/
theorem hexDigit?_eq_some_iff {c : Char} {d : Nat} : hexDigit? c = some d ↔ IsHexDigit c d := by
  constructor
  · intro h
    refine forall_ascii (P := fun c => ∀ d ∈ hexDigit? c, IsHexDigit c d) ?_
      (toNat_lt_of_hexDigit? h) d h
    decide +kernel
  · intro h
    have hd := h.lt
    rcases h with h | h <;> interval_cases d <;> cases h <;> rfl

/-- A character is read as the decimal digit that it is. -/
theorem decimalDigit?_eq_some_iff {c : Char} {d : Nat} :
    decimalDigit? c = some d ↔ IsDecimalDigit c d := by
  constructor
  · intro h
    have hhex : hexDigit? c = some d := by
      unfold decimalDigit? at h
      split at h
      · rename_i hdigit
        rw [hexDigit?, if_pos hdigit]
        exact h
      · cases h
    refine forall_ascii (P := fun c => ∀ d ∈ decimalDigit? c, IsDecimalDigit c d) ?_
      (toNat_lt_of_hexDigit? hhex) d h
    decide +kernel
  · intro h
    have hd : d < 10 := (List.getElem?_eq_some_iff.1 h).1
    interval_cases d <;> cases h <;> rfl

/-- One more digit at the end. -/
theorem digits?_concat (digit? : Char → Option Nat) (base : Nat) (t : Text) (c : Char) :
    digits? digit? base (t ++ [c]) =
      (digits? digit? base t).bind fun m => (digit? c).map fun d => m * base + d := by
  rw [digits?, List.foldl_append]
  rfl

/-- The number is read off the digits from the left. The induction is on the last digit. -/
theorem digits?_eq_some_iff {digit? : Char → Option Nat} {isDigit : Char → Nat → Prop}
    (hdigit : ∀ {c d}, digit? c = some d ↔ isDigit c d) {base : Nat} {t : Text} {n : Nat} :
    digits? digit? base t = some n ↔ Spells isDigit base t n := by
  induction t using List.reverseRecOn generalizing n with
  | nil =>
    constructor
    · intro h
      cases h
      exact ⟨[], .nil, rfl⟩
    · rintro ⟨ds, hds, rfl⟩
      cases hds
      rfl
  | append_singleton t c ih =>
    simp only [digits?_concat, Option.bind_eq_some_iff, Option.map_eq_some_iff]
    constructor
    · rintro ⟨m, hm, d, hd, rfl⟩
      obtain ⟨ds, hds, rfl⟩ := ih.1 hm
      refine ⟨ds ++ [d], List.rel_append hds (.cons (hdigit.1 hd) .nil), ?_⟩
      rw [List.reverse_append, List.reverse_singleton, List.singleton_append,
        Nat.ofDigits_cons, Nat.mul_comm, Nat.add_comm]
    · rintro ⟨ds, hds, rfl⟩
      -- the last digit is the first one of the reversed digits
      obtain ⟨d, ds, rfl⟩ : ∃ d es, ds = es ++ [d] := by
        have hlength := hds.length_eq
        rw [List.length_append, List.length_singleton] at hlength
        exact ⟨_, _,
          (List.dropLast_append_getLast (List.ne_nil_of_length_eq_add_one hlength.symm)).symm⟩
      have hsplit : List.Forall₂ isDigit t ds ∧ isDigit c d := by
        have hreverse := List.forall₂_reverse_iff.2 hds
        rw [List.reverse_append, List.reverse_append, List.reverse_singleton,
          List.reverse_singleton] at hreverse
        cases hreverse with
        | cons hc hrest => exact ⟨List.forall₂_reverse_iff.1 hrest, hc⟩
      refine ⟨_, ih.2 ⟨ds, hsplit.1, rfl⟩, d, hdigit.2 hsplit.2, ?_⟩
      rw [List.reverse_append, List.reverse_singleton, List.singleton_append,
        Nat.ofDigits_cons, Nat.mul_comm, Nat.add_comm]

/-- A number is read exactly from the texts that spell it, of which none is empty. -/
theorem natural?_eq_some_iff {digit? : Char → Option Nat} {isDigit : Char → Nat → Prop}
    (hdigit : ∀ {c d}, digit? c = some d ↔ isDigit c d) {base : Nat} {t : Text} {n : Nat} :
    natural? digit? base t = some n ↔ t ≠ [] ∧ Spells isDigit base t n := by
  rw [natural?, ← digits?_eq_some_iff hdigit]
  cases t with
  | nil => simp
  | cons c t => simp

/-- Digits spell no more than their number allows. -/
theorem Spells.lt_pow {t : Text} {n : Nat} (h : Spells IsHexDigit 16 t n) : n < 16 ^ t.length := by
  obtain ⟨ds, hds, rfl⟩ := h
  rw [hds.length_eq, ← List.length_reverse]
  refine Nat.ofDigits_lt_base_pow_length (by decide) fun d hd => ?_
  obtain ⟨k, hk, rfl⟩ := List.getElem_of_mem (List.mem_reverse.1 hd)
  exact (hds.get (hds.length_eq ▸ hk) hk).lt

/-- Nothing but digits spells a number. -/
theorem not_spells_cons {digit? : Char → Option Nat} {isDigit : Char → Nat → Prop}
    (hdigit : ∀ {c d}, digit? c = some d ↔ isDigit c d) {c : Char} (hc : digit? c = none)
    (base : Nat) (t : Text) (n : Nat) : ¬Spells isDigit base (c :: t) n := by
  rintro ⟨ds, hds, -⟩
  cases hds with
  | cons hd _ =>
    rw [← hdigit, hc] at hd
    cases hd

/-- An integer is read exactly from its decimal notations. -/
theorem read?_eq_some_iff {t : Text} {n : Int} : read? t = some n ↔ IsDecimal t n := by
  have hdigits : ∀ {r : Text} {m : Nat},
      natural? decimalDigit? 10 r = some m ↔ r ≠ [] ∧ Spells IsDecimalDigit 10 r m :=
    natural?_eq_some_iff decimalDigit?_eq_some_iff
  -- the text begins with a minus sign, with a plus sign or with neither
  unfold read?
  split
  · rename_i r
    simp only [Option.map_eq_some_iff, Option.bind_eq_bind, Option.bind_eq_some_iff,
      Option.pure_def, Option.some.injEq, hdigits]
    constructor
    · rintro ⟨_, ⟨m, ⟨hne, hspells⟩, rfl⟩, rfl⟩
      exact .minus hne hspells
    · intro h
      cases h with
      | bare _ h => exact absurd h (not_spells_cons decimalDigit?_eq_some_iff rfl _ _ _)
      | minus hne h => exact ⟨_, ⟨_, ⟨hne, h⟩, rfl⟩, rfl⟩
  · rename_i r
    simp only [Option.map_eq_some_iff, hdigits]
    constructor
    · rintro ⟨m, ⟨hne, hspells⟩, rfl⟩
      exact .plus hne hspells
    · intro h
      cases h with
      | bare _ h => exact absurd h (not_spells_cons decimalDigit?_eq_some_iff rfl _ _ _)
      | plus hne h => exact ⟨_, ⟨hne, h⟩, rfl⟩
  · rename_i hminus hplus
    simp only [Option.map_eq_some_iff, hdigits]
    constructor
    · rintro ⟨m, ⟨hne, hspells⟩, rfl⟩
      exact .bare hne hspells
    · intro h
      cases h with
      | bare hne h => exact ⟨_, ⟨hne, h⟩, rfl⟩
      | plus => exact absurd rfl (hplus _)
      | minus => exact absurd rfl (hminus _)

/-- With bounds, the integer has to lie between them too. -/
theorem readWithin?_eq_some_iff {lo hi : Int} {t : Text} {n : Int} :
    readWithin? lo hi t = some n ↔ IsDecimal t n ∧ lo ≤ n ∧ n ≤ hi := by
  rw [readWithin?, Option.filter_eq_some_iff, read?_eq_some_iff, Bool.and_eq_true,
    decide_eq_true_eq, decide_eq_true_eq]

/-- A sign or a digit comes first. -/
theorem not_isDecimal_hash (t : Text) (n : Int) : ¬IsDecimal ('#' :: t) n := by
  intro h
  cases h with
  | bare _ h => exact not_spells_cons decimalDigit?_eq_some_iff rfl _ _ _ h

end Integer

/-! ## Colors -/

namespace Color

open Integer (IsHexDigit Spells IsDecimal)

/-- The forms in which a color is written. -/
inductive IsLiteral : Text → Color → Prop
  /-- Three channels, of a color that nothing shines through. -/
  | rgb {t : Text} {n : Nat} {c : Color} (h : Spells IsHexDigit 16 t n) (hlength : t.length = 6)
      (hc : c.argb.toNat = 0xFF000000 + n) : IsLiteral ('#' :: t) c
  /-- All four channels. -/
  | argb {t : Text} {n : Nat} {c : Color} (h : Spells IsHexDigit 16 t n) (hlength : t.length = 8)
      (hc : c.argb.toNat = n) : IsLiteral ('#' :: t) c
  /-- The packed number, signed or not. -/
  | packed {t : Text} {n : Int} {c : Color} (h : IsDecimal t n) (hlo : -2 ^ 31 ≤ n)
      (hhi : n ≤ 2 ^ 32 - 1) (hc : (c.argb.toNat : Int) = n % 2 ^ 32) : IsLiteral t c

/-- The hexadecimal forms with a plus sign in the place of their first digit. -/
inductive IsPlusLiteral : Text → Color → Prop
  | rgb {t : Text} {n : Nat} {c : Color} (h : Spells IsHexDigit 16 t n) (hlength : t.length = 5)
      (hc : c.argb.toNat = 0xFF000000 + n) : IsPlusLiteral ('#' :: '+' :: t) c
  | argb {t : Text} {n : Nat} {c : Color} (h : Spells IsHexDigit 16 t n) (hlength : t.length = 7)
      (hc : c.argb.toNat = n) : IsPlusLiteral ('#' :: '+' :: t) c

/-- A color is determined by the number of its bits. -/
theorem eq_mk_iff {c : Color} {x : UInt32} : c = ⟨x⟩ ↔ c.argb.toNat = x.toNat := by
  obtain ⟨y⟩ := c
  rw [Color.mk.injEq, UInt32.toNat_inj]

/-- The alpha channel of the three-channel form is full. -/
theorem toNat_or {n : Nat} (hn : n < 2 ^ 24) :
    ((0xFF000000 : UInt32) ||| UInt32.ofNat n).toNat = 0xFF000000 + n := by
  rw [UInt32.toNat_or, UInt32.toNat_ofNat_of_lt' (Nat.lt_trans hn (by decide))]
  exact (Nat.two_pow_add_eq_or_of_lt hn 255).symm

/-- What is read behind the `#`: digits, or digits behind a plus sign. -/
theorem hexValue?_eq_some_iff {t : Text} {n : Nat} (hlength : t.length ≤ 8) :
    hexValue? t = some n ↔ t ≠ [] ∧ Spells IsHexDigit 16 t n ∨
      ∃ r, t = '+' :: r ∧ r ≠ [] ∧ Spells IsHexDigit 16 r n := by
  -- eight digits always fit into 32 bits
  have hdigits : ∀ {r : Text} {m : Nat}, r.length ≤ 8 →
      ((Integer.natural? Integer.hexDigit? 16 r).filter (· < 2 ^ 32) = some m ↔
        r ≠ [] ∧ Spells IsHexDigit 16 r m) := by
    intro r m hr
    rw [Option.filter_eq_some_iff, Integer.natural?_eq_some_iff Integer.hexDigit?_eq_some_iff,
      decide_eq_true_eq]
    constructor
    · exact And.left
    · intro h
      have hlt := h.2.lt_pow
      have hle : 16 ^ r.length ≤ 16 ^ 8 := Nat.pow_le_pow_right (by decide) hr
      exact ⟨h, Nat.lt_of_lt_of_le hlt hle⟩
  unfold hexValue?
  split
  · rename_i r
    rw [hdigits (Nat.le_of_succ_le hlength)]
    constructor
    · exact fun h => .inr ⟨r, rfl, h⟩
    · rintro (⟨-, h⟩ | ⟨r', hr', h⟩)
      · exact absurd h (Integer.not_spells_cons Integer.hexDigit?_eq_some_iff rfl _ _ _)
      · cases hr'
        exact h
  · rename_i hne
    rw [hdigits hlength]
    constructor
    · exact .inl
    · rintro (h | ⟨r, hr, -⟩)
      · exact h
      · exact absurd hr (hne r)

/-- So many hexadecimal digits have room for so large a number. -/
theorem lt_pow_of_hexValue? {t : Text} {n : Nat} (hlength : t.length ≤ 8)
    (h : hexValue? t = some n) : n < 16 ^ t.length := by
  rcases (hexValue?_eq_some_iff hlength).1 h with ⟨-, hspells⟩ | ⟨r, rfl, -, hspells⟩
  · exact hspells.lt_pow
  · exact Nat.lt_of_lt_of_le hspells.lt_pow (Nat.pow_le_pow_right (by decide) (Nat.le_succ _))

/-- The color is one that the number behind the `#` gives, by the count of characters that it is
written with. -/
def IsHexColor (t : Text) (c : Color) : Prop :=
  ∃ n, hexValue? t = some n ∧
    (t.length = 6 ∧ c.argb.toNat = 0xFF000000 + n ∨ t.length = 8 ∧ c.argb.toNat = n)

/-- Behind a hash, colors are read from hexadecimal digits. -/
theorem read_eq_ok_iff_of_hash {t u : Text} {c : Color} (ht : Text.trim t = '#' :: u) :
    read t = .ok c ↔ IsHexColor u c := by
  rw [read, ht, IsHexColor]
  cases hvalue : hexValue? u with
  | none => simp [hvalue]
  | some n =>
    have hlt := fun hlength => lt_pow_of_hexValue? hlength hvalue
    simp only [hvalue]
    by_cases hsix : u.length = 6
    · have hn : n < 2 ^ 24 := by simpa [hsix] using hlt (by omega)
      rw [if_pos hsix, Except.ok.injEq, eq_comm, eq_mk_iff, toNat_or hn]
      simp [hsix]
    · by_cases height : u.length = 8
      · have hn : n < 2 ^ 32 := by simpa [height] using hlt (by omega)
        rw [if_neg hsix, if_pos height, Except.ok.injEq, eq_comm, eq_mk_iff,
          UInt32.toNat_ofNat_of_lt' hn]
        simp [height]
      · rw [if_neg hsix, if_neg height]
        simp [hsix, height]

/-- The forms that start with `#`. -/
theorem isHexColor_iff {t : Text} {c : Color} :
    IsHexColor t c ↔ IsLiteral ('#' :: t) c ∨ IsPlusLiteral ('#' :: t) c := by
  constructor
  · rintro ⟨n, hn, ⟨hlength, hc⟩ | ⟨hlength, hc⟩⟩
    · rcases (hexValue?_eq_some_iff (by omega)).1 hn with ⟨-, hspells⟩ | ⟨r, rfl, -, hspells⟩
      · exact .inl (.rgb hspells hlength hc)
      · exact .inr (.rgb hspells (Nat.succ.inj hlength) hc)
    · rcases (hexValue?_eq_some_iff (by omega)).1 hn with ⟨-, hspells⟩ | ⟨r, rfl, -, hspells⟩
      · exact .inl (.argb hspells hlength hc)
      · exact .inr (.argb hspells (Nat.succ.inj hlength) hc)
  · -- digits alone, then digits behind a plus sign
    have hbare : ∀ {n : Nat}, Spells IsHexDigit 16 t n → 0 < t.length → t.length ≤ 8 →
        hexValue? t = some n :=
      fun h hpos hle => (hexValue?_eq_some_iff hle).2 (.inl ⟨List.ne_nil_of_length_pos hpos, h⟩)
    have hplus : ∀ {r : Text} {n : Nat}, Spells IsHexDigit 16 r n → 0 < r.length → r.length ≤ 7 →
        hexValue? ('+' :: r) = some n := by
      intro r n h hpos hle
      have hlength : ('+' :: r).length ≤ 8 := Nat.succ_le_succ hle
      exact (hexValue?_eq_some_iff hlength).2 (.inr ⟨r, rfl, List.ne_nil_of_length_pos hpos, h⟩)
    rintro (h | h)
    · cases h with
      | rgb h hlength hc => exact ⟨_, hbare h (by omega) (by omega), .inl ⟨hlength, hc⟩⟩
      | argb h hlength hc => exact ⟨_, hbare h (by omega) (by omega), .inr ⟨hlength, hc⟩⟩
      | packed h => exact absurd h (Integer.not_isDecimal_hash _ _)
    · cases h with
      | rgb h hlength hc =>
        exact ⟨_, hplus h (by omega) (by omega), .inl ⟨congrArg Nat.succ hlength, hc⟩⟩
      | argb h hlength hc =>
        exact ⟨_, hplus h (by omega) (by omega), .inr ⟨congrArg Nat.succ hlength, hc⟩⟩

/-- Without a hash, colors are read from their written forms only. -/
theorem read_eq_ok_iff_of_not_hash {t : Text} {c : Color} (ht : ∀ u, Text.trim t ≠ '#' :: u) :
    read t = .ok c ↔ IsLiteral (Text.trim t) c := by
  unfold read
  dsimp only
  -- without a hash, an integer is left, of which the last 32 bits count
  generalize Text.trim t = u at ht
  split
  · exact absurd rfl (ht _)
  · have hpacked : ∀ n : Int, (UInt32.ofNat (n % 2 ^ 32).toNat).toNat = (n % 2 ^ 32).toNat := by
      intro n
      have hlt : (n % 2 ^ 32).toNat < 2 ^ 32 := by omega
      exact UInt32.toNat_ofNat_of_lt' hlt
    constructor
    · intro h
      split at h
      · rename_i n hn
        obtain ⟨hdecimal, hlo, hhi⟩ := Integer.readWithin?_eq_some_iff.1 hn
        cases h
        refine .packed hdecimal hlo hhi ?_
        rw [hpacked, Int.toNat_of_nonneg (by omega)]
      · cases h
    · intro h
      cases h with
      | rgb => exact absurd rfl (ht _)
      | argb => exact absurd rfl (ht _)
      | @packed _ n _ hdecimal hlo hhi hc =>
        rw [Integer.readWithin?_eq_some_iff.2 ⟨hdecimal, hlo, hhi⟩]
        have heq : c = ⟨UInt32.ofNat (n % 2 ^ 32).toNat⟩ := by
          rw [eq_mk_iff, hpacked]
          omega
        rw [heq]

/-- No form of a color has a plus sign behind the `#`. -/
theorem not_isLiteral_plus (t : Text) (c : Color) : ¬IsLiteral ('#' :: '+' :: t) c := by
  have hplus : ∀ n, ¬Spells IsHexDigit 16 ('+' :: t) n :=
    Integer.not_spells_cons Integer.hexDigit?_eq_some_iff rfl 16 t
  intro h
  cases h with
  | rgb h => exact hplus _ h
  | argb h => exact hplus _ h
  | packed h => exact Integer.not_isDecimal_hash _ _ h

/-- **Which texts are read as colors.** Blanks around it apart, a text is read as a color exactly if
it is `#` and six hexadecimal digits, `#` and eight of them, a packed number from `-2 ^ 31` to `2 ^
32 - 1` with or without a sign, or one of the two hexadecimal forms with a plus sign in the place of
the first digit; and the color is then the one that the form says, where the plus sign counts for a
zero. What has the plus sign is none of the other forms. -/
theorem read_eq_ok_iff (t : Text) (c : Color) :
    (read t = .ok c ↔ IsLiteral (Text.trim t) c ∨ IsPlusLiteral (Text.trim t) c) ∧
      (IsPlusLiteral (Text.trim t) c → ∀ d, ¬IsLiteral (Text.trim t) d) := by
  generalize hu : Text.trim t = u
  refine ⟨?_, ?_⟩
  · by_cases hhash : ∃ v, u = '#' :: v
    · obtain ⟨v, rfl⟩ := hhash
      rw [read_eq_ok_iff_of_hash hu, isHexColor_iff]
    · have hne : ∀ v, u ≠ '#' :: v := fun v hv => hhash ⟨v, hv⟩
      have hread : read t = .ok c ↔ IsLiteral u c := hu ▸ read_eq_ok_iff_of_not_hash (hu ▸ hne)
      rw [hread]
      constructor
      · exact .inl
      · rintro (h | h)
        · exact h
        · cases h <;> exact absurd rfl (hne _)
  · intro h
    cases h with
    | rgb => exact not_isLiteral_plus _
    | argb => exact not_isLiteral_plus _

/-- Five digits behind `#+` are read, and are no written form of a color. -/
theorem read_plus_sign :
    read "#+12345".toList = .ok ⟨0xFF012345⟩ ∧ ¬∃ c, IsLiteral (Text.trim "#+12345".toList) c := by
  have htrim : Text.trim "#+12345".toList = '#' :: '+' :: "12345".toList := by decide +kernel
  refine ⟨by decide +kernel, ?_⟩
  rintro ⟨c, h⟩
  rw [htrim] at h
  exact not_isLiteral_plus _ c h

end Color

end TapScript
