import Mathlib.Algebra.Ring.Nat
import Mathlib.Algebra.Ring.Int.Defs
import TapScript.Number.Binary

/-! # Integers and doubles

A coordinate is a double that has been compared with bounds and has then lost its fraction. The two
steps look at a double in different ways: a comparison goes by sign, exponent and significand, the
integer is that of the exact value. They agree, so what lies between two bounds as a double lies
between them as an integer.

* `Double.unpack_cases` lists the doubles by their bits, `Double.ofFloat?_eq` gives the exact value
  of each.
* `Double.unpack_ofNat` says that a positive integer below `2 ^ 53` is a double,
  `Double.unpack_ofInt_negSucc` that a negative integer becomes a negative double, however large it
  is.
* `Number.clampTo_mem` is the range of the integer that a double within bounds becomes. -/

namespace TapScript

open Float.Model UnpackedFloat

namespace Double

/-! ## The bits of a double -/

/-- The significand has all its bits, and the exponent is at least the least one. -/
structure Normal (m : Nat) (e : Int) : Prop where
  le : 2 ^ 52 ≤ m
  lt : m < 2 ^ 53
  least : -1074 ≤ e

/-- A normal mantissa has 53 bits. -/
theorem log2_of_normal {m : Nat} {e : Int} (h : Normal m e) : m.log2 = 52 :=
  (Nat.log2_eq_iff (Nat.ne_of_gt (Nat.lt_of_lt_of_le (by decide) h.le))).2 ⟨h.le, h.lt⟩

/-- The sign of a double. -/
def sign (b : BitVec Format.binary64.numBits) : Sign :=
  if b.toNat < 2 ^ 63 then .positive else .negative

/-- The mantissa stands in the last 52 bits. -/
theorem toNat_unpackMantissa (b : BitVec Format.binary64.numBits) :
    (unpackMantissa b).toNat = b.toNat % 2 ^ 52 := by
  simp [unpackMantissa]

/-- The exponent stands in the 11 bits before the mantissa. -/
theorem toNat_unpackExponent (b : BitVec Format.binary64.numBits) :
    (unpackExponent b).toNat = b.toNat / 2 ^ 52 % 2 ^ 11 := by
  simp [unpackExponent, Nat.shiftRight_eq_div_pow]

/-- The first bit of a double. -/
theorem unpackSign_eq (b : BitVec Format.binary64.numBits) :
    unpackSign b = BitVec.cast (by decide) (BitVec.extractLsb 63 63 b) := rfl

/-- The first bit of a double is its sign. -/
theorem ofBitVec_unpackSign (b : BitVec Format.binary64.numBits) :
    Sign.ofBitVec (unpackSign b) = sign b := by
  have hlt : b.toNat < 2 ^ 64 := b.isLt
  have hbit : (unpackSign b).toNat = b.toNat / 2 ^ 63 := by
    simp [unpackSign_eq, Nat.shiftRight_eq_div_pow]
    omega
  have hzero : unpackSign b = 0#1 ↔ b.toNat < 2 ^ 63 := by
    rw [← BitVec.toNat_inj, hbit, BitVec.toNat_zero]
    omega
  simp only [Sign.ofBitVec, sign, hzero]

/-- The first bit of a normal significand is not among the bits of the double. -/
theorem toNat_first_append (v : BitVec 52) : (1#1 ++ v).toNat = v.toNat + 2 ^ 52 := by
  rw [BitVec.toNat_append, ← Nat.shiftLeft_add_eq_or_of_lt v.isLt, Nat.add_comm]
  rfl

/-- What a double with some but not all bits of the exponent is unpacked to. -/
theorem unpack_normal {b : BitVec Format.binary64.numBits} (hfull : unpackExponent b ≠ -1#_)
    (hnone : unpackExponent b ≠ 0#_) {s : Sign} {m : Nat} {e : Int}
    (hs : Sign.ofBitVec (unpackSign b) = s) (hm : (1#1 ++ unpackMantissa b).toNat = m)
    (he : ((unpackExponent b).toNat : Int) - 1075 = e) :
    ∃ h, unpack .binary64 b = .finite s m e h := by
  subst hs hm he
  have hpos : 0 < (1#1 ++ unpackMantissa b).toNat := by
    rw [toNat_first_append]
    exact Nat.add_pos_right _ (by decide)
  refine ⟨hpos, ?_⟩
  unfold UnpackedFloat.unpack
  dsimp only
  rw [if_neg hfull, if_neg hnone, UnpackedFloat.finite.injEq]
  exact ⟨rfl, rfl, rfl⟩

/-- A double is infinite or not a number, or it is zero, or it is too small to be normal, or it is
normal. -/
theorem unpack_cases (b : BitVec Format.binary64.numBits) :
    (b.toNat / 2 ^ 52 % 2 ^ 11 = 2047 ∧
        (unpack .binary64 b = .infinity (sign b) ∨ unpack .binary64 b = .notANumber)) ∨
      (b.toNat / 2 ^ 52 % 2 ^ 11 = 0 ∧ b.toNat % 2 ^ 52 = 0 ∧ unpack .binary64 b = .zero (sign b)) ∨
      (b.toNat / 2 ^ 52 % 2 ^ 11 = 0 ∧
        ∃ h, unpack .binary64 b = .finite (sign b) (b.toNat % 2 ^ 52) (-1074) h) ∨
      ∃ biased : Nat, b.toNat / 2 ^ 52 % 2 ^ 11 = biased ∧ 0 < biased ∧ biased < 2047 ∧
        ∃ h, unpack .binary64 b = .finite (sign b) (b.toNat % 2 ^ 52 + 2 ^ 52)
          ((biased : Int) - 1075) h := by
  have hm := toNat_unpackMantissa b
  have he := toNat_unpackExponent b
  have hfull : unpackExponent b = -1#_ ↔ b.toNat / 2 ^ 52 % 2 ^ 11 = 2047 := by
    rw [← BitVec.toNat_inj, he]
    rfl
  have hnone : unpackExponent b = 0#_ ↔ b.toNat / 2 ^ 52 % 2 ^ 11 = 0 := by
    rw [← BitVec.toNat_inj, he]
    rfl
  have hzero : unpackMantissa b = 0#_ ↔ b.toNat % 2 ^ 52 = 0 := by
    rw [← BitVec.toNat_inj, hm]
    rfl
  have hsign := ofBitVec_unpackSign b
  -- a full exponent is infinity or no number, an empty one is zero or a small number
  by_cases hinf : unpackExponent b = -1#_
  · refine .inl ⟨hfull.1 hinf, ?_⟩
    unfold UnpackedFloat.unpack
    dsimp only
    rw [if_pos hinf, hsign]
    by_cases h : unpackMantissa b = 0#_
    · exact .inl (if_pos h)
    · exact .inr (if_neg h)
  by_cases hsub : unpackExponent b = 0#_
  · by_cases h : unpackMantissa b = 0#_
    · refine .inr (.inl ⟨hnone.1 hsub, hzero.1 h, ?_⟩)
      unfold UnpackedFloat.unpack
      dsimp only
      rw [if_neg hinf, if_pos hsub, dif_pos h, hsign]
    · refine .inr (.inr (.inl ⟨hnone.1 hsub, Nat.pos_of_ne_zero fun h' => h (hzero.2 h'), ?_⟩))
      unfold UnpackedFloat.unpack
      dsimp only
      rw [if_neg hinf, if_pos hsub, dif_neg h, UnpackedFloat.finite.injEq, he, hnone.1 hsub]
      exact ⟨hsign, hm, rfl⟩
  · have hbiased : b.toNat / 2 ^ 52 % 2 ^ 11 < 2 ^ 11 := Nat.mod_lt _ (by decide)
    have hne : b.toNat / 2 ^ 52 % 2 ^ 11 ≠ 2047 := fun h => hinf (hfull.2 h)
    refine .inr (.inr (.inr ⟨_, rfl, Nat.pos_of_ne_zero fun h => hsub (hnone.2 h), by omega, ?_⟩))
    refine unpack_normal hinf hsub hsign ?_ (by rw [he])
    rw [toNat_first_append, hm]

/-- Whether the sign is the negative one. -/
def isNegative : Sign → Bool
  | .negative => true
  | .positive => false

/-- The sign is the first of the 64 bits. -/
theorem isNegative_sign (b : BitVec Format.binary64.numBits) :
    isNegative (sign b) = decide (2 ^ 63 ≤ b.toNat) := by
  by_cases h : b.toNat < 2 ^ 63
  · rw [sign, if_pos h, decide_eq_false (Nat.not_le.2 h)]
    rfl
  · rw [sign, if_neg h, decide_eq_true (Nat.not_lt.1 h)]
    rfl

/-- The exact value that the parts of a double stand for. -/
def value? : UnpackedFloat → Option Exact
  | .infinity _ => none
  | .notANumber => none
  | .zero s => some ⟨isNegative s, 0, -1074⟩
  | .finite s m e _ => some ⟨isNegative s, m, e⟩

/-- The exact value of a double is what its parts stand for. -/
theorem ofFloat?_eq (x : Float) : Exact.ofFloat? x = value? x.toModel.unpack := by
  let b : BitVec Format.binary64.numBits := x.toModel.toBits.toBitVec
  have hofFloat : Exact.ofFloat? x =
      if b.toNat / 2 ^ 52 % 2 ^ 11 = 2047 then none
      else if b.toNat / 2 ^ 52 % 2 ^ 11 = 0 then some ⟨isNegative (sign b), b.toNat % 2 ^ 52, -1074⟩
      else some ⟨isNegative (sign b), b.toNat % 2 ^ 52 + 2 ^ 52,
        ((b.toNat / 2 ^ 52 % 2 ^ 11 : Nat) : Int) - 1075⟩ := by
    rw [isNegative_sign]
    rfl
  show _ = value? (UnpackedFloat.unpack .binary64 b)
  rw [hofFloat]
  obtain ⟨he, h⟩ | ⟨he, hm, h⟩ | ⟨he, _, h⟩ | ⟨biased, he, hpos, hlt, _, h⟩ := unpack_cases b
  · rw [if_pos he]
    rcases h with h | h <;> rw [h] <;> rfl
  · rw [he, h, hm]
    rfl
  · rw [he, h]
    rfl
  · rw [he, h, if_neg (Nat.ne_of_lt hlt), if_neg (Nat.ne_of_gt hpos)]
    rfl

/-! ## The order of doubles -/

/-- The value `m · 2 ^ e` in units of the least double. -/
def units (m : Nat) (e : Int) : Nat := m * 2 ^ (e + 1074).toNat

/-- A double that is finite and not zero is normal, or its exponent is the least one. -/
theorem fits_of_unpack {b : BitVec Format.binary64.numBits} {s : Sign} {m : Nat} {e : Int}
    {hm : 0 < m} (h : unpack .binary64 b = .finite s m e hm) :
    m < 2 ^ 53 ∧ (Normal m e ∨ e = -1074) := by
  have hfraction : b.toNat % 2 ^ 52 < 2 ^ 52 := Nat.mod_lt _ (by decide)
  obtain ⟨-, h' | h'⟩ | ⟨-, -, h'⟩ | ⟨-, _, h'⟩ | ⟨biased, -, hpos, -, _, h'⟩ := unpack_cases b
  · cases h'.symm.trans h
  · cases h'.symm.trans h
  · cases h'.symm.trans h
  · cases h'.symm.trans h
    exact ⟨by omega, .inr rfl⟩
  · cases h'.symm.trans h
    exact ⟨by omega, .inl ⟨by omega, by omega, by omega⟩⟩

/-- Of two doubles, the one with the larger exponent is larger, and then the one with the larger
significand. -/
theorem units_le {m₁ m₂ : Nat} {e₁ e₂ : Int} (hlt : m₁ < 2 ^ 53) (hleast : -1074 ≤ e₁)
    (hfull : Normal m₂ e₂) (h : e₁ < e₂ ∨ e₁ = e₂ ∧ m₁ ≤ m₂) : units m₁ e₁ ≤ units m₂ e₂ := by
  rcases h with h | ⟨rfl, h⟩
  · have hexp : 53 + (e₁ + 1074).toNat ≤ 52 + (e₂ + 1074).toNat := by omega
    calc m₁ * 2 ^ (e₁ + 1074).toNat
        ≤ 2 ^ 53 * 2 ^ (e₁ + 1074).toNat := Nat.mul_le_mul_right _ (Nat.le_of_lt hlt)
      _ = 2 ^ (53 + (e₁ + 1074).toNat) := (Nat.pow_add ..).symm
      _ ≤ 2 ^ (52 + (e₂ + 1074).toNat) := Nat.pow_le_pow_right (by decide) hexp
      _ = 2 ^ 52 * 2 ^ (e₂ + 1074).toNat := Nat.pow_add ..
      _ ≤ m₂ * 2 ^ (e₂ + 1074).toNat := Nat.mul_le_mul_right _ hfull.le
  · exact Nat.mul_le_mul_right _ h

/-- The whole part of a value, from its units. -/
theorem wholePart_eq (negative : Bool) (m : Nat) {e : Int} (he : -1074 ≤ e) :
    (Exact.mk negative m e).wholePart = units m e / 2 ^ 1074 := by
  unfold Exact.wholePart units
  by_cases h : 0 ≤ e
  · rw [if_pos h]
    have hexp : (e + 1074).toNat = e.toNat + 1074 := by omega
    rw [hexp, Nat.pow_add, ← Nat.mul_assoc, Nat.mul_div_cancel _ (Nat.two_pow_pos 1074)]
  · rw [if_neg h]
    have hexp : 1074 = (-e).toNat + (e + 1074).toNat := by omega
    have hpow : (2 : Nat) ^ 1074 = 2 ^ (-e).toNat * 2 ^ (e + 1074).toNat := by
      rw [← Nat.pow_add, ← hexp]
    rw [hpow, Nat.mul_div_mul_right _ _ (Nat.two_pow_pos _)]

/-- Doubles are compared as their unpacked numbers are. -/
theorem lt_iff (x y : Float) : x < y ↔ x.toModel.unpack.compare y.toModel.unpack = some .lt := by
  show Float.lt x y = true ↔ _
  simp [Float.lt, LT.lt, Float.Model.lt, UnpackedFloat.lt]

/-! ## Packing -/

/-- The sign that is packed is unpacked again. -/
theorem unpackSign_packComponents (s : Sign) (e : BitVec 11) (m : BitVec 52) :
    Sign.ofBitVec (unpackSign (packComponents .binary64 s e m)) = s := by
  have hhigh : (s.toBitVec ++ e ++ m).getLsbD 63 = s.toBitVec.getLsbD 0 := by
    rw [BitVec.getLsbD_append, if_neg (by decide), BitVec.getLsbD_append, if_neg (by decide)]
  have hsign : ∀ b : BitVec Format.binary64.numBits, (unpackSign b).getLsbD 0 = b.getLsbD 63 := by
    intro b
    simp [unpackSign_eq]
  have hbit : unpackSign (packComponents .binary64 s e m) = s.toBitVec := by
    apply BitVec.eq_of_getLsbD_eq
    intro i hi
    obtain rfl : i = 0 := by omega
    exact (hsign _).trans hhigh
  rw [hbit]
  cases s <;> rfl

/-- What is packed as a normal double is unpacked as such, unless it is too large for a double. -/
theorem unpack_pack {m : Nat} {e : Int} (h : Normal m e) (s : Sign) (hm : 0 < m) :
    unpack .binary64 (pack .binary64 (.finite s m e hm)) =
      if e ≤ 971 then .finite s m e hm else .infinity s := by
  have hle := h.le
  have hlt := h.lt
  have hleast := h.least
  have hlog := log2_of_normal h
  have hbias :
      (e + Format.binary64.exponentBias + Format.binary64.mantissaBitsWithoutImplicit).toNat =
      (e + 1075).toNat := by
    rw [Int.add_assoc]
    rfl
  have hbits : (2 : Nat) ^ Format.binary64.exponentBits = 2048 := rfl
  -- the result is set aside, so that the only conditions left are those of `pack`
  generalize hresult : (if e ≤ 971 then UnpackedFloat.finite s m e hm else .infinity s) = result
  unfold UnpackedFloat.pack
  simp only [hlog, hbias, hbits]
  subst hresult
  by_cases he : e ≤ 971
  · have hbiased : (e + 1075).toNat < 2047 := by omega
    have hexp : (BitVec.ofNat 11 (e + 1075).toNat).toNat = (e + 1075).toNat :=
      Nat.mod_eq_of_lt (by omega)
    have hsignificand : (1#1 ++ BitVec.ofNat 52 m).toNat = m := by
      rw [toNat_first_append, BitVec.toNat_ofNat]
      omega
    have hfull : BitVec.ofNat 11 (e + 1075).toNat ≠ -1#11 := by
      rw [ne_eq, ← BitVec.toNat_inj, hexp]
      show ¬ (e + 1075).toNat = 2047
      omega
    have hnone : BitVec.ofNat 11 (e + 1075).toNat ≠ 0#11 := by
      rw [ne_eq, ← BitVec.toNat_inj, hexp]
      show ¬ (e + 1075).toNat = 0
      omega
    rw [if_pos he, if_neg (by omega), if_pos (show 52 + 1 = Format.binary64.mantissaBits from rfl)]
    -- the exponent is neither full nor empty, so a normal double is unpacked
    have hunpack : ∃ h, unpack .binary64 (packComponents .binary64 s
        (BitVec.ofNat 11 (e + 1075).toNat) (BitVec.ofNat 52 m)) = .finite s m e h := by
      refine unpack_normal ?_ ?_ (unpackSign_packComponents s _ _) ?_ ?_
      · rwa [unpackExponent_packComponents]
      · rwa [unpackExponent_packComponents]
      · rwa [unpackMantissa_packComponents]
      · rw [unpackExponent_packComponents, hexp]
        omega
    exact hunpack.elim fun _ h => h
  · rw [if_neg he, if_pos (by omega)]
    unfold UnpackedFloat.unpack packedInfinity
    dsimp only
    rw [unpackExponent_packComponents, if_pos rfl, unpackMantissa_packComponents,
      if_pos (show (0 : BitVec 52) = 0#52 from rfl), unpackSign_packComponents]

/-! ## Rounding -/

/-- A mantissa is rounded to 53 bits, but not beyond the smallest exponent. -/
theorem targetExponent_eq (t : Int) : Format.binary64.targetExponent t = max (t - 53) (-1074) := rfl

/-- Shifting a mantissa divides it. -/
theorem mantissa_shiftRight (em : ExtendedMantissa) (k : Nat) :
    (em >>> k).mantissa = em.mantissa / 2 ^ k := by
  induction k with
  | zero => exact (Nat.div_one _).symm
  | succ k ih =>
    show (em >>> k).mantissa / 2 = _
    rw [ih, Nat.div_div_eq_div_mul, ← Nat.pow_succ]

/-- Nothing is lost of a significand that ends with as many zeros as are dropped. -/
theorem shiftRight_exact (m k j : Nat) :
    (ExtendedMantissa.mk (m * 2 ^ (j + k)) false false) >>> k = ⟨m * 2 ^ j, false, false⟩ := by
  induction k generalizing j with
  | zero => rfl
  | succ k ih =>
    have hdrop := ih (j + 1)
    rw [Nat.add_assoc, Nat.add_comm 1 k] at hdrop
    show ((ExtendedMantissa.mk (m * 2 ^ (j + (k + 1))) false false) >>> k).shiftRightOne = _
    rw [hdrop]
    have heven : m * 2 ^ (j + 1) = m * 2 ^ j * 2 := by rw [Nat.pow_succ, Nat.mul_assoc]
    simp [ExtendedMantissa.shiftRightOne, heven]

/-- The first step of rounding drops what the significand has beyond 53 bits. -/
theorem shiftToTargetExponent_eq {m : Nat} {e : Int} (hm : 52 ≤ m.log2)
    (he : -1074 ≤ e + (m.log2 - 52 : Nat)) :
    shiftToTargetExponent .binary64 m e .exact =
      (ExtendedMantissa.mk m false false >>> (m.log2 - 52), e + (m.log2 - 52 : Nat)) := by
  have hshift : (Format.binary64.targetExponent (totalExponent m e) - e).toNat = m.log2 - 52 := by
    rw [targetExponent_eq, totalExponent]
    omega
  simp only [shiftToTargetExponent, shiftToExponent, hshift]
  rfl

/-- A normal significand is not shifted any more. -/
theorem shiftToTargetExponent_normal {m : Nat} {e : Int} (h : Normal m e) :
    shiftToTargetExponent .binary64 m e .exact = (⟨m, false, false⟩, e) := by
  have hlog := log2_of_normal h
  have hleast := h.least
  rw [shiftToTargetExponent_eq (by omega) (by omega), hlog]
  exact Prod.ext rfl (Int.add_zero e)

/-- A significand that has been rounded up to `2 ^ 53` is shifted once more. -/
theorem shiftToTargetExponent_carry {e : Int} (he : -1074 ≤ e) :
    shiftToTargetExponent .binary64 (2 ^ 53) e .exact = (⟨2 ^ 52, false, false⟩, e + 1) := by
  have hlog : (2 ^ 53 : Nat).log2 = 53 := Nat.log2_two_pow
  rw [shiftToTargetExponent_eq (by omega) (by omega), hlog]
  rfl

/-- Rounding drops bits, rounds what is left, and drops a bit more if that has become too long. -/
theorem roundWithAccuracy_eq (s : Sign) {m m₁ m₂ : Nat} {e e₁ e₂ : Int} {em : ExtendedMantissa}
    (hfirst : shiftToTargetExponent .binary64 m e .exact = (em, e₁))
    (hround : em.roundedMantissa = m₁)
    (hsecond : shiftToTargetExponent .binary64 m₁ e₁ .exact = (⟨m₂, false, false⟩, e₂))
    (hm : 0 < m₂) :
    roundWithAccuracy .binary64 s m e .exact = .finite s m₂ e₂ hm := by
  subst hround
  unfold roundWithAccuracy
  rw [hfirst]
  dsimp only
  rw [hsecond]
  exact dif_neg (Nat.ne_of_gt hm)

/-- A mantissa is rounded to itself or to the next one. -/
theorem roundedMantissa_cases (em : ExtendedMantissa) :
    em.roundedMantissa = em.mantissa ∨ em.roundedMantissa = em.mantissa + 1 := by
  obtain ⟨m, round, sticky⟩ := em
  cases round <;> cases sticky
  · exact .inl rfl
  · exact .inl rfl
  · show m + m % 2 = m ∨ m + m % 2 = m + 1
    omega
  · exact .inr rfl

/-- A significand of at least 53 bits is rounded to a normal double. -/
theorem roundWithAccuracy_normal (s : Sign) {m : Nat} {e : Int} (hm : 52 ≤ m.log2)
    (he : -1074 ≤ e + (m.log2 - 52 : Nat)) :
    ∃ m' e' h, roundWithAccuracy .binary64 s m e .exact = .finite s m' e' h ∧ Normal m' e' := by
  have hpos : m ≠ 0 := by
    rintro rfl
    exact absurd hm (by decide)
  have hle : 2 ^ 52 ≤ m / 2 ^ (m.log2 - 52) := by
    rw [Nat.le_div_iff_mul_le (Nat.two_pow_pos _), ← Nat.pow_add, Nat.add_sub_cancel' hm]
    exact Nat.log2_self_le hpos
  have hlt : m / 2 ^ (m.log2 - 52) < 2 ^ 53 := by
    rw [Nat.div_lt_iff_lt_mul (Nat.two_pow_pos _), ← Nat.pow_add,
      show 53 + (m.log2 - 52) = m.log2 + 1 by omega]
    exact Nat.lt_log2_self
  have hfirst := shiftToTargetExponent_eq hm he
  have hrounded := roundedMantissa_cases (ExtendedMantissa.mk m false false >>> (m.log2 - 52))
  simp only [mantissa_shiftRight] at hrounded
  generalize hr :
    (ExtendedMantissa.mk m false false >>> (m.log2 - 52)).roundedMantissa = r at hrounded
  by_cases hcarry : r < 2 ^ 53
  · have hnormal : Normal r (e + (m.log2 - 52 : Nat)) := ⟨by omega, hcarry, he⟩
    exact ⟨_, _, by omega,
      roundWithAccuracy_eq s hfirst hr (shiftToTargetExponent_normal hnormal) _, hnormal⟩
  · obtain rfl : r = 2 ^ 53 := by omega
    exact ⟨_, _, by decide, roundWithAccuracy_eq s hfirst hr (shiftToTargetExponent_carry he) _,
      Nat.le_refl _, by decide, by omega⟩

/-- A normal significand with zeros behind it is rounded to itself. -/
theorem roundWithAccuracy_exact (s : Sign) {m : Nat} {e : Int} (h : Normal m e) (j : Nat)
    (hm : 0 < m) : roundWithAccuracy .binary64 s (m * 2 ^ j) (e - j) .exact = .finite s m e hm := by
  have hleast := h.least
  have hlog : (m * 2 ^ j).log2 = 52 + j := by
    rw [Nat.log2_eq_iff (Nat.ne_of_gt (Nat.mul_pos hm (Nat.two_pow_pos j))), Nat.pow_add,
      show 52 + j + 1 = 53 + j by omega, Nat.pow_add]
    exact ⟨Nat.mul_le_mul_right _ h.le, Nat.mul_lt_mul_of_pos_right h.lt (Nat.two_pow_pos j)⟩
  have hfirst := shiftToTargetExponent_eq (m := m * 2 ^ j) (e := e - j) (by omega) (by omega)
  rw [hlog, Nat.add_sub_cancel_left, Int.sub_add_cancel] at hfirst
  have hexact := shiftRight_exact m j 0
  rw [Nat.zero_add, Nat.pow_zero, Nat.mul_one] at hexact
  rw [hexact] at hfirst
  exact roundWithAccuracy_eq s hfirst rfl (shiftToTargetExponent_normal h) hm

/-! ## Integers as doubles -/

/-- A positive integer below `2 ^ 53` is a normal double. -/
theorem round_ofNat {n : Nat} (hpos : 0 < n) (hlt : n < 2 ^ 53) :
    ∃ m e h, UnpackedFloat.ofNat .binary64 n = .finite .positive m e h ∧ Normal m e ∧ e ≤ 0 ∧
      units m e = n * 2 ^ 1074 := by
  have hlog : n.log2 < 53 := (Nat.log2_lt (Nat.ne_of_gt hpos)).2 hlt
  -- the zeros that the significand needs behind it
  let k : Nat := 52 - n.log2
  have hnormal : Normal (n * 2 ^ k) (-(k : Int)) := by
    refine ⟨?_, ?_, by omega⟩
    · calc 2 ^ 52 = 2 ^ n.log2 * 2 ^ k := by rw [← Nat.pow_add]; congr 1; omega
        _ ≤ n * 2 ^ k := Nat.mul_le_mul_right _ (Nat.log2_self_le (Nat.ne_of_gt hpos))
    · calc n * 2 ^ k < 2 ^ (n.log2 + 1) * 2 ^ k :=
          Nat.mul_lt_mul_of_pos_right Nat.lt_log2_self (Nat.two_pow_pos k)
        _ = 2 ^ 53 := by rw [← Nat.pow_add]; congr 1; omega
  have hm : 0 < n * 2 ^ k := Nat.mul_pos hpos (Nat.two_pow_pos k)
  refine ⟨_, _, hm, ?_, hnormal, by omega, ?_⟩
  · have hcompare : compare (n : Int) 0 = .gt := Int.compare_eq_gt.2 (by omega)
    have hdecrease : decreaseExponent n 0 (Format.binary64.targetExponent (totalExponent n 0)) =
        (n * 2 ^ k, -(k : Int)) := by
      have hshift : (0 - Format.binary64.targetExponent (totalExponent n 0)).toNat = k := by
        rw [targetExponent_eq, totalExponent]
        omega
      simp only [decreaseExponent, hshift, Nat.shiftLeft_eq]
      rw [Int.zero_sub]
    refine Eq.trans ?_ (roundWithAccuracy_exact .positive hnormal 0 hm)
    simp only [UnpackedFloat.ofNat, UnpackedFloat.ofInt, UnpackedFloat.normalize, hcompare,
      UnpackedFloat.round, Int.toNat_natCast, hdecrease, Nat.pow_zero, Nat.mul_one]
    congr 1
    omega
  · unfold units
    rw [Nat.mul_assoc, ← Nat.pow_add]
    congr 2
    omega

/-- What is packed is unpacked in the format of doubles. -/
theorem unpack_modelPack (u : UnpackedFloat) :
    (Float.Model.pack u).unpack = unpack .binary64 (pack .binary64 u) := rfl

/-- The bits of one. -/
theorem unpack_one :
    (Float.Model.ofBits 0x3FF0000000000000).unpack = .finite .positive (2 ^ 52) (-52) (by decide) :=
      rfl

/-- A positive integer below `2 ^ 53` is a double. -/
theorem unpack_ofNat {n : Nat} (hpos : 0 < n) (hlt : n < 2 ^ 53) :
    ∃ m e h, (Float.ofNat n).toModel.unpack = .finite .positive m e h ∧ Normal m e ∧
      units m e = n * 2 ^ 1074 := by
  obtain ⟨m, e, hm, hround, hnormal, he, hunits⟩ := round_ofNat hpos hlt
  have hunpacked := unpack_pack hnormal .positive hm
  rw [if_pos (by omega)] at hunpacked
  refine ⟨m, e, hm, ?_, hnormal, hunits⟩
  -- the integer is multiplied by one, which changes nothing
  have hone : UnpackedFloat.mul .binary64 (.finite .positive m e hm)
      (.finite .positive (2 ^ 52) (-52) (by decide)) = .finite .positive m e hm :=
      roundWithAccuracy_exact .positive hnormal 52 hm
  have hmodel : (Float.ofNat n).toModel = Float.Model.pack (UnpackedFloat.mul .binary64
      (Float.Model.pack (UnpackedFloat.ofNat .binary64 n)).unpack
        (Float.Model.ofBits 0x3FF0000000000000).unpack) := by
    have hword : n.toUInt64.toNat = n := Nat.mod_eq_of_lt (Nat.lt_trans hlt (by decide))
    show (Float.ofScientific n false 0).toModel = _
    unfold Float.ofScientific
    rw [dif_pos ⟨hlt, by decide⟩]
    show Float.Model.pack (UnpackedFloat.mul .binary64
      (Float.Model.pack (UnpackedFloat.ofNat .binary64 n.toUInt64.toNat)).unpack _) = _
    rw [hword]
    rfl
  rw [hmodel, unpack_modelPack (UnpackedFloat.ofNat .binary64 n), hround, hunpacked,
    unpack_one, hone, unpack_modelPack, hunpacked]

/-- A positive integer becomes a positive double, however large it is. -/
theorem unpack_ofNat_pos {n : Nat} (hpos : 0 < n) :
    (∃ m e h, (Float.ofNat n).toModel.unpack = .finite .positive m e h ∧ Normal m e) ∨
      (Float.ofNat n).toModel.unpack = .infinity .positive := by
  by_cases hlt : n < 2 ^ 53
  · obtain ⟨m, e, hm, h, hnormal, -⟩ := unpack_ofNat hpos hlt
    exact .inl ⟨m, e, hm, h, hnormal⟩
  have hlog : 105 ≤ (n <<< 53 * 1).log2 := by
    rw [Nat.le_log2 (by rw [Nat.shiftLeft_eq]; omega), Nat.shiftLeft_eq]
    omega
  have hfar : ¬ (0 : Int) < -((2 : Int) ^ Format.binary64.exponentBits + n.log2) := by
    show ¬ (0 : Int) < -(2048 + (n.log2 : Int))
    omega
  obtain ⟨m, e, hm, hround, hnormal⟩ :=
    roundWithAccuracy_normal .positive (m := n <<< 53 * 1) (e := -53) (by omega) (by omega)
  have hmodel : (Float.ofNat n).toModel = Float.Model.pack (.finite .positive m e hm) := by
    rw [← hround]
    show (Float.ofScientific n false 0).toModel = _
    unfold Float.ofScientific
    rw [dif_neg fun h => hlt h.1]
    show Float.Model.pack (UnpackedFloat.ofScientific .binary64 n 0) = _
    unfold UnpackedFloat.ofScientific
    rw [dif_neg (Nat.ne_of_gt hpos), if_neg (by decide), if_neg hfar, if_pos (Int.le_refl 0)]
    rfl
  rw [hmodel, unpack_modelPack, unpack_pack hnormal]
  by_cases he : e ≤ 971
  · exact .inl ⟨m, e, hm, if_pos he, hnormal⟩
  · exact .inr (if_neg he)

/-- A negative integer becomes a negative double, however large it is. -/
theorem unpack_ofInt_negSucc (n : Nat) :
    (∃ m e h, (Float.ofInt (.negSucc n)).toModel.unpack = .finite .negative m e h) ∨
      (Float.ofInt (.negSucc n)).toModel.unpack = .infinity .negative := by
  have hneg : (Float.ofInt (.negSucc n)).toModel.unpack =
      unpack .binary64 (pack .binary64 (Float.ofNat (n + 1)).toModel.unpack.neg) := rfl
  rw [hneg]
  obtain ⟨m, e, hm, h, hnormal⟩ | h := unpack_ofNat_pos (Nat.succ_pos n)
  · rw [h]
    show (∃ m' e' h', unpack .binary64 (pack .binary64 (.finite .negative m e hm)) = _) ∨
      unpack .binary64 (pack .binary64 (.finite .negative m e hm)) = _
    rw [unpack_pack hnormal]
    by_cases he : e ≤ 971
    · exact .inl ⟨m, e, hm, if_pos he⟩
    · exact .inr (if_neg he)
  · rw [h]
    exact .inr rfl

end Double

/-! ## Integers from doubles -/

namespace Number

open Double

/-- The bits of zero. -/
theorem unpack_zero : (0.0 : Float).toModel.unpack = .zero .positive := rfl

/-- A finite double that is not below zero is zero or positive. -/
theorem unpack_of_not_lt_zero {x : Float} (hfinite : x.isFinite) (h : ¬ x < 0.0) :
    (∃ s, x.toModel.unpack = .zero s) ∨ ∃ m e hm, x.toModel.unpack = .finite .positive m e hm := by
  rw [lt_iff, unpack_zero] at h
  have hfinite : x.toModel.unpack.isFinite = true := hfinite
  cases hx : x.toModel.unpack with
  | infinity s => rw [hx] at hfinite; cases hfinite
  | notANumber => rw [hx] at hfinite; cases hfinite
  | zero s => exact .inl ⟨s, rfl⟩
  | finite s m e hm =>
    rw [hx] at h
    cases s with
    | negative => exact absurd rfl h
    | positive => exact .inr ⟨m, e, hm, rfl⟩

/-- No double from zero on is at most the double of a negative integer. -/
theorem nonneg_of_not_gt {x : Float} {max : Int} (hfinite : x.isFinite) (h₀ : ¬ x < 0.0)
    (h : ¬ x > Float.ofInt max) : 0 ≤ max := by
  cases max with
  | ofNat n => exact Int.natCast_nonneg n
  | negSucc n =>
    refine absurd ?_ h
    rw [gt_iff_lt, lt_iff]
    obtain ⟨s, hx⟩ | ⟨m, e, hm, hx⟩ := unpack_of_not_lt_zero hfinite h₀ <;>
      obtain ⟨m', e', hm', hmax⟩ | hmax := unpack_ofInt_negSucc n <;> rw [hx, hmax] <;> rfl

/-- The whole part of a double that is at most the double of an integer is at most that integer. -/
theorem wholePart_le_of_not_gt {x : Float} {m : Nat} {e : Int} {hm : 0 < m} {n : Nat}
    (hn : n < 2 ^ 53) (hx : x.toModel.unpack = .finite .positive m e hm) (h : ¬ x > Float.ofNat n)
    (negative : Bool) : (Exact.mk negative m e).wholePart ≤ n := by
  rw [gt_iff_lt, lt_iff, hx] at h
  rcases Nat.eq_zero_or_pos n with rfl | hpos
  · exact absurd rfl h
  obtain ⟨m', e', hm', hn', hnormal, hunits⟩ := unpack_ofNat hpos hn
  obtain ⟨hlt, hleast⟩ := fits_of_unpack hx
  have hleast : -1074 ≤ e := by
    rcases hleast with hleast | rfl
    · exact hleast.least
    · exact Int.le_refl _
  -- the integer is not below the double, so the double is not above it
  have horder : e < e' ∨ e = e' ∧ m ≤ m' := by
    rw [hn'] at h
    have hcompare : ¬ (compare e' e).then (compare m' m) = .lt := fun hlt => h (congrArg some hlt)
    rw [Ordering.then_eq_lt, Int.compare_eq_lt, Nat.compare_eq_lt, Int.compare_eq_eq] at hcompare
    omega
  rw [wholePart_eq negative m hleast]
  refine Nat.div_le_of_le_mul ?_
  calc units m e ≤ units m' e' := units_le hlt hleast hnormal horder
    _ = n * 2 ^ 1074 := hunits
    _ = 2 ^ 1074 * n := Nat.mul_comm ..

/-- A finite double between zero and the double of an integer becomes an integer from zero up to
that one. -/
theorem clampTo_mem {x : Float} {lo hi max : Int} (hlo : lo ≤ 0) (hhi : 0 ≤ hi) (hhi' : hi ≤ 2 ^ 53)
    (hfinite : x.isFinite) (h₀ : ¬ x < 0.0) (h : ¬ x > Float.ofInt max) :
    0 ≤ clampTo lo hi x ∧ clampTo lo hi x ≤ max := by
  have hmax := nonneg_of_not_gt hfinite h₀ h
  obtain ⟨s, hx⟩ | ⟨m, e, hm, hx⟩ := unpack_of_not_lt_zero hfinite h₀
  · have hwhole : (Exact.mk (isNegative s) 0 (-1074)).wholePart = 0 := by
      simp only [wholePart_eq _ _ (Int.le_refl _), units, Nat.zero_mul, Nat.zero_div]
    have htruncate : (Exact.mk (isNegative s) 0 (-1074)).truncate = 0 := by
      simp only [Exact.truncate, hwhole]
      split <;> rfl
    have hvalue : Exact.ofFloat? x = some ⟨isNegative s, 0, -1074⟩ :=
      (ofFloat?_eq x).trans (congrArg value? hx)
    simp only [clampTo, hvalue, htruncate]
    omega
  · have htruncate : (Exact.mk (isNegative .positive) m e).truncate =
        (Exact.mk false m e).wholePart := rfl
    have hvalue : Exact.ofFloat? x = some ⟨isNegative .positive, m, e⟩ :=
      (ofFloat?_eq x).trans (congrArg value? hx)
    simp only [clampTo, hvalue, htruncate]
    by_cases hhigh : hi ≤ max
    · omega
    · obtain ⟨n, rfl⟩ := Int.eq_ofNat_of_zero_le hmax
      have hle := wholePart_le_of_not_gt (n := n) (by omega) hx h false
      omega

end Number

end TapScript
