import Mathlib.Algebra.Order.Round
import Mathlib.Algebra.Order.Floor.Semifield
import Payout.Proofs.Double.Arithmetic
import Payout.Domain.Bounded
import Payout.Decimal.Whole

/-!
# Whole numbers of doubles

The program reads the fields of a double's bits itself (`Decimal.read`) when it rounds a double
to a whole number or converts it to an integer. This module shows that the reading gives the
double's value, that `cmpScaled` compares such values exactly, and from these:

* `value_floorToWhole`: `floorToWhole` is the floor of a finite double;
* `value_roundToWhole`: `roundToWhole` rounds to the nearest whole number, halves away from
  zero;
* `floatToSize?_eq`: `floatToSize?` is the floor of a double in `(-1, 2 ^ 64)`;
* `floatToWord?_eq`: `floatToWord?` cuts a double in `[-2 ^ 63, 2 ^ 63)` toward zero, and
  converts no other (`floatToWord?_isSome_iff`);
* `value_ofScientific`, `value_wordToFloat`: an integer below `2 ^ 53` in magnitude is a double
  exactly; `delivers_ofScientific`, `delivers_wordToFloat`: a larger one is rounded once.
-/

open Float.Model
open Float.Model.UnpackedFloat hiding round

namespace Payout.Decimal

/-- The rational a decoded finite double stands for. -/
def Binary.value (b : Binary) : ℚ :=
  (if b.negative then -1 else 1) * (b.mantissa * 2 ^ b.exponent)

end Payout.Decimal

namespace Payout.Double

/-! ### The fields of the bits -/

section Fields

variable (b : BitVec 64)

theorem toNat_unpackExponent :
  (@unpackExponent Format.binary64 b).toNat = b.toNat / 2 ^ 52 % 2048
  := by
  simp [unpackExponent, Nat.shiftRight_eq_div_pow]

theorem toNat_unpackMantissa :
  (@unpackMantissa Format.binary64 b).toNat = b.toNat % 2 ^ 52
  := by
  simp [unpackMantissa]

theorem toNat_unpackSign :
  (@unpackSign Format.binary64 b).toNat = b.toNat / 2 ^ 63 % 2
  := by
  simp [unpackSign, Nat.shiftRight_eq_div_pow]

theorem unpackExponent_eq_allOnes_iff :
  @unpackExponent Format.binary64 b = -1#11 ↔ b.toNat / 2 ^ 52 % 2048 = 2047
  := by
  rw [← BitVec.toNat_inj, toNat_unpackExponent]
  simp

theorem unpackExponent_eq_zero_iff :
  @unpackExponent Format.binary64 b = 0#11 ↔ b.toNat / 2 ^ 52 % 2048 = 0
  := by
  rw [← BitVec.toNat_inj, toNat_unpackExponent]
  simp

theorem unpackMantissa_eq_zero_iff :
  @unpackMantissa Format.binary64 b = 0#52 ↔ b.toNat % 2 ^ 52 = 0
  := by
  rw [← BitVec.toNat_inj, toNat_unpackMantissa]
  simp

theorem sign_ofBitVec_unpackSign :
  Sign.ofBitVec (@unpackSign Format.binary64 b) =
    if b.toNat / 2 ^ 63 % 2 = 1 then .negative else .positive
  := by
  have h := toNat_unpackSign b
  unfold Sign.ofBitVec
  split_ifs with hbit hnat hnat
  · rw [hbit] at h
    simp at h
    omega
  · rfl
  · rfl
  · exfalso
    apply hbit
    apply BitVec.eq_of_toNat_eq
    simp
    omega

/-- The significand with its hidden leading digit. -/
theorem toNat_append_unpackMantissa :
  (1#1 ++ @unpackMantissa Format.binary64 b).toNat = b.toNat % 2 ^ 52 + 2 ^ 52
  := by
  have hM := toNat_unpackMantissa b
  simp only [BitVec.toNat_append]
  rw [← Nat.shiftLeft_add_eq_or_of_lt (by rw [hM]; exact Nat.mod_lt _ (by norm_num)), hM,
    Nat.shiftLeft_eq]
  simp
  ring

end Fields

/-- The sign of a rational as a sign bit gives it. -/
theorem signed_ite (c : Prop) [Decidable c] (q : ℚ) :
  signed (if c then .negative else .positive) q = (if c then -1 else 1) * q
  := by
  split_ifs <;> simp [signed]

/-- Unpacked bits are finite exactly when their exponent field is not all ones. -/
theorem isFinite_unpack (b : BitVec 64) :
  (UnpackedFloat.unpack Format.binary64 b).isFinite = true ↔ b.toNat / 2 ^ 52 % 2048 ≠ 2047
  := by
  simp only [UnpackedFloat.unpack]
  by_cases hinf : b.toNat / 2 ^ 52 % 2048 = 2047
  · rw [if_pos ((unpackExponent_eq_allOnes_iff b).mpr hinf)]
    split <;> simpa [UnpackedFloat.isFinite] using hinf
  · rw [if_neg (mt (unpackExponent_eq_allOnes_iff b).mp hinf)]
    split_ifs <;> simpa [UnpackedFloat.isFinite] using hinf

/-- The value of bits whose exponent field is not all ones, read off the three fields: a
subnormal for the zero exponent field, otherwise a normal number with its hidden digit. -/
theorem unpackedValue_unpack (b : BitVec 64) (hinf : b.toNat / 2 ^ 52 % 2048 ≠ 2047) :
  unpackedValue (UnpackedFloat.unpack Format.binary64 b) =
    (if b.toNat / 2 ^ 63 % 2 = 1 then -1 else 1) *
      (if b.toNat / 2 ^ 52 % 2048 = 0 then ((b.toNat % 2 ^ 52 : ℕ) : ℚ) * 2 ^ (-1074 : ℤ)
       else ((b.toNat % 2 ^ 52 + 2 ^ 52 : ℕ) : ℚ) * 2 ^ ((b.toNat / 2 ^ 52 % 2048 : ℕ) - 1075 : ℤ))
  := by
  simp only [UnpackedFloat.unpack]
  rw [if_neg (mt (unpackExponent_eq_allOnes_iff b).mp hinf)]
  by_cases h0 : b.toNat / 2 ^ 52 % 2048 = 0
  · rw [if_pos ((unpackExponent_eq_zero_iff b).mpr h0)]
    by_cases hz : b.toNat % 2 ^ 52 = 0
    · rw [dif_pos ((unpackMantissa_eq_zero_iff b).mpr hz), if_pos h0, hz]
      simp [unpackedValue]
    · rw [dif_neg (mt (unpackMantissa_eq_zero_iff b).mp hz), unpackedValue_finite,
        sign_ofBitVec_unpackSign, signed_ite, toNat_unpackMantissa, toNat_unpackExponent, h0,
        if_pos rfl]
      simp [Format.exponentBias]
  · rw [if_neg (mt (unpackExponent_eq_zero_iff b).mp h0), unpackedValue_finite,
      sign_ofBitVec_unpackSign, signed_ite, if_neg h0, toNat_append_unpackMantissa,
      toNat_unpackExponent]
    simp [Format.exponentBias]

/-! ### Reading a double -/

section Reading

variable {x : Float} {b : Decimal.Binary}

theorem toNat_toBitVec_toBits (x : Float) :
  x.toModel.toBits.toBitVec.toNat = x.toBits.toNat
  := rfl

/-- A finite double reads as finite. -/
theorem exists_read_of_isFinite (hx : x.isFinite = true) :
  ∃ b, Decimal.read x = .finite b
  := by
  have h := (isFinite_unpack x.toModel.toBits.toBitVec).mp hx
  rw [toNat_toBitVec_toBits] at h
  simp only [Decimal.read]
  rw [if_neg (by simpa using h)]
  split <;> exact ⟨_, rfl⟩

/-- What a finite reading holds: the value of the double, and a significand of at most 53 digits
with an exponent no smaller than the subnormals'. -/
theorem read_finite (h : Decimal.read x = .finite b) :
  value x = b.value ∧ b.mantissa < 2 ^ 53 ∧ -1074 ≤ b.exponent
  := by
  have hv : value x =
      unpackedValue (UnpackedFloat.unpack Format.binary64 x.toModel.toBits.toBitVec) := rfl
  have hlt : x.toBits.toNat % 2 ^ 52 < 2 ^ 52 := Nat.mod_lt _ (by norm_num)
  simp only [Decimal.read] at h
  split_ifs at h with hspecial _ hsub <;> simp only [Decimal.Reading.finite.injEq] at h <;>
    subst h
  · have h0 : x.toBits.toNat / 2 ^ 52 % 2048 = 0 := by simpa using hsub
    rw [hv, unpackedValue_unpack _ (by rw [toNat_toBitVec_toBits]; omega), toNat_toBitVec_toBits,
      if_pos h0]
    refine ⟨by simp [Decimal.Binary.value], ?_, le_refl _⟩
    simp only [Nat.pow_eq]
    omega
  · have h0 : x.toBits.toNat / 2 ^ 52 % 2048 ≠ 0 := by simpa using hsub
    rw [hv, unpackedValue_unpack _ (by rw [toNat_toBitVec_toBits]; simpa using hspecial),
      toNat_toBitVec_toBits, if_neg h0]
    refine ⟨by simp [Decimal.Binary.value], ?_, ?_⟩
    · simp only [Nat.pow_eq]
      omega
    · simp only [Nat.pow_eq]
      omega

/-- Only a finite double reads as finite. -/
theorem isFinite_of_read (h : Decimal.read x = .finite b) :
  x.isFinite = true
  := by
  apply (isFinite_unpack x.toModel.toBits.toBitVec).mpr
  rw [toNat_toBitVec_toBits]
  simp only [Decimal.read] at h
  intro h2047
  rw [if_pos (by simpa using h2047)] at h
  split at h <;> cases h

theorem value_eq_of_read (h : Decimal.read x = .finite b) :
  value x = b.value
  := (read_finite h).1

end Reading

/-! ### Exact comparison -/

/-- Naturals compare as their images under a positive scaling. -/
theorem compare_natCast_mul {m n : ℕ} {c : ℚ} (hc : 0 < c) :
  compare m n = compare ((m : ℚ) * c) (n * c)
  := by
  rcases lt_trichotomy m n with h | rfl | h
  · rw [compare_lt_iff_lt.mpr h, compare_lt_iff_lt.mpr]
    exact mul_lt_mul_of_pos_right (by exact_mod_cast h) hc
  · rw [compare_eq_iff_eq.mpr rfl, compare_eq_iff_eq.mpr rfl]
  · rw [compare_gt_iff_gt.mpr h, compare_gt_iff_gt.mpr]
    exact mul_lt_mul_of_pos_right (by exact_mod_cast h) hc

/-- A power with a natural exponent above a base exponent, as the quotient of integer powers. -/
theorem natPow_toNat_sub (c : ℕ) {u u₀ : ℤ} (h : u₀ ≤ u) :
  ((Nat.pow c (u - u₀).toNat : ℕ) : ℚ) = (c : ℚ) ^ (u - u₀)
  := by
  rw [Nat.pow_eq, Nat.cast_pow, ← zpow_natCast, Int.toNat_of_nonneg (by omega)]

/-- `cmpScaled` compares `a * 2 ^ p * 10 ^ r` with `b * 2 ^ s * 10 ^ t` exactly. -/
theorem cmpScaled_eq_compare (a : ℕ) (p r : ℤ) (b : ℕ) (s t : ℤ) :
  Decimal.cmpScaled a p r b s t = compare ((a : ℚ) * 2 ^ p * 10 ^ r) ((b : ℚ) * 2 ^ s * 10 ^ t)
  := by
  have hscale : ∀ (c : ℕ) (u v : ℤ), min p s ≤ u → min r t ≤ v →
      ((c * Nat.pow 2 (u - min p s).toNat * Nat.pow 10 (v - min r t).toNat : ℕ) : ℚ) *
        (2 ^ min p s * 10 ^ min r t) = c * 2 ^ u * 10 ^ v := by
    intro c u v hu hv
    push_cast [natPow_toNat_sub 2 hu, natPow_toNat_sub 10 hv]
    rw [show (2 : ℚ) ^ u = 2 ^ (u - min p s) * 2 ^ min p s by
          rw [← zpow_add₀ two_ne_zero]; ring_nf,
        show (10 : ℚ) ^ v = 10 ^ (v - min r t) * 10 ^ min r t by
          rw [← zpow_add₀ (by norm_num)]; ring_nf]
    ring
  unfold Decimal.cmpScaled
  rw [compare_natCast_mul (by positivity : (0 : ℚ) < 2 ^ min p s * 10 ^ min r t),
    hscale a p r (min_le_left _ _) (min_le_left _ _),
    hscale b s t (min_le_right _ _) (min_le_right _ _)]

/-! ### Whole parts of fractions -/

/-- The fraction of `m * 2 ^ q` that the whole-number functions divide. -/
theorem fraction_value (m : ℕ) (q : ℤ) :
  ((Decimal.fraction m q 0).1 : ℚ) / (Decimal.fraction m q 0).2 = m * 2 ^ q
  := by
  simp only [Decimal.fraction, Nat.pow_eq, Int.toNat_zero, pow_zero, mul_one, neg_zero]
  rcases le_or_gt 0 q with hq | hq
  · rw [Int.toNat_eq_zero.mpr (by omega : -q ≤ 0)]
    push_cast
    rw [← zpow_natCast, Int.toNat_of_nonneg hq]
    simp
  · rw [Int.toNat_eq_zero.mpr hq.le]
    push_cast
    rw [← zpow_natCast, Int.toNat_of_nonneg (by omega : 0 ≤ -q), zpow_neg]
    simp [div_eq_mul_inv]

theorem fraction_den_pos (m : ℕ) (q : ℤ) :
  0 < (Decimal.fraction m q 0).2
  := by
  simp only [Decimal.fraction, Nat.pow_eq]
  positivity

/-- Below the units the denominator is at least two. -/
theorem two_le_fraction_den (m : ℕ) {q : ℤ} (hq : q < 0) :
  2 ≤ (Decimal.fraction m q 0).2
  := by
  simp only [Decimal.fraction, Nat.pow_eq, Int.toNat_zero, pow_zero, mul_one, neg_zero]
  calc 2 = 2 ^ 1 := rfl
    _ ≤ 2 ^ (-q).toNat := Nat.pow_le_pow_right (by norm_num) (by omega)

/-- A natural fraction is its whole part and a remainder below one. -/
theorem natCast_div_eq (m d : ℕ) (hd : 0 < d) :
  (m : ℚ) / d = (m / d : ℕ) + ((m % d : ℕ) : ℚ) / d ∧
    0 ≤ ((m % d : ℕ) : ℚ) / d ∧ ((m % d : ℕ) : ℚ) / d < 1
  := by
  have hd' : (0 : ℚ) < d := by exact_mod_cast hd
  refine ⟨?_, by positivity, ?_⟩
  · have hcast : (m : ℚ) = d * (m / d : ℕ) + (m % d : ℕ) := by
      exact_mod_cast (Nat.div_add_mod m d).symm
    rw [hcast, add_div, mul_div_cancel_left₀ _ hd'.ne']
  · rw [div_lt_one hd']
    exact_mod_cast Nat.mod_lt m hd

/-- The floor of a natural fraction, with a sign. -/
theorem floor_signed_div (neg : Bool) (m d : ℕ) (hd : 0 < d) :
  ⌊(if neg then -1 else 1) * ((m : ℚ) / d)⌋ =
    (if neg then -1 else 1) * ((if neg && m % d != 0 then m / d + 1 else m / d : ℕ) : ℤ)
  := by
  obtain ⟨hsplit, hlo, hhi⟩ := natCast_div_eq m d hd
  rw [Int.floor_eq_iff]
  cases neg
  · simp only [Bool.false_eq_true, ↓reduceIte, one_mul, Bool.false_and, Int.cast_natCast]
    constructor <;> linarith
  · by_cases hr : m % d = 0
    · have hz : ((m % d : ℕ) : ℚ) / d = 0 := by rw [hr]; simp
      simp only [↓reduceIte, hr, bne_self_eq_false, Bool.and_false, Bool.false_eq_true,
        Int.cast_mul, Int.cast_neg, Int.cast_one, Int.cast_natCast]
      constructor <;> linarith
    · have hpos : 0 < ((m % d : ℕ) : ℚ) / d := by
        have : (0 : ℚ) < (m % d : ℕ) := by exact_mod_cast Nat.pos_of_ne_zero hr
        positivity
      simp only [↓reduceIte, Bool.true_and, bne_iff_ne, ne_eq, hr, not_false_eq_true,
        Int.cast_mul, Int.cast_neg, Int.cast_one, Int.cast_add, Int.cast_natCast, Nat.cast_add,
        Nat.cast_one]
      constructor <;> linarith

/-- Rounding a natural fraction, a half away from zero, is the nearest integer. -/
theorem roundDiv_awayFromZero (m d : ℕ) (hd : 0 < d) :
  ((Decimal.roundDiv m d .awayFromZero : ℕ) : ℤ) = round ((m : ℚ) / d)
  := by
  obtain ⟨hsplit, hlo, hhi⟩ := natCast_div_eq m d hd
  have hd' : (0 : ℚ) < d := by exact_mod_cast hd
  have hhalf : (2 * (m % d) : ℕ) < d ↔ ((m % d : ℕ) : ℚ) / d < 1 / 2 := by
    rw [div_lt_iff₀ hd']
    constructor
    · intro h
      have : ((2 * (m % d) : ℕ) : ℚ) < d := by exact_mod_cast h
      push_cast at this
      linarith
    · intro h
      have : ((2 * (m % d) : ℕ) : ℚ) < d := by push_cast; linarith
      exact_mod_cast this
  rw [round_eq, eq_comm, Int.floor_eq_iff]
  unfold Decimal.roundDiv
  dsimp only
  rcases hc : compare (2 * (m % d)) d with _ | _ | _
  · have h := hhalf.mp (compare_lt_iff_lt.mp hc)
    simp only [Int.cast_natCast]
    constructor <;> linarith
  · have h : 2 * (m % d) = d := compare_eq_iff_eq.mp hc
    have h' : ((m % d : ℕ) : ℚ) / d = 1 / 2 := by
      rw [div_eq_iff hd'.ne']
      have : ((2 * (m % d) : ℕ) : ℚ) = d := by exact_mod_cast h
      push_cast at this
      linarith
    simp only [Nat.cast_add, Nat.cast_one, Int.cast_add, Int.cast_natCast, Int.cast_one]
    constructor <;> linarith
  · have h : ¬ (2 * (m % d) : ℕ) < d := by
      have := compare_gt_iff_gt.mp hc
      omega
    have h' := (not_congr hhalf).mp h
    simp only [Nat.cast_add, Nat.cast_one, Int.cast_add, Int.cast_natCast, Int.cast_one]
    constructor <;> linarith

theorem roundDiv_le (m d : ℕ) (t : Decimal.Tie) :
  Decimal.roundDiv m d t ≤ m / d + 1
  := by
  unfold Decimal.roundDiv
  dsimp only
  split
  · omega
  · omega
  · omega
  · split <;> omega

/-! ### Small naturals -/

/-- The literals `0.0`, `1.0`, `100.0` and `10000.0` are finite doubles of their decimal
values. The four are evaluated by the kernel together: each such evaluation holds a thread of
its own for as long as it runs. -/
theorem small_literals_exact :
  ((0.0 : Float).isFinite = true ∧ value 0.0 = 0)
    ∧ ((1.0 : Float).isFinite = true ∧ value 1.0 = 1)
    ∧ ((100.0 : Float).isFinite = true ∧ value 100.0 = 100)
    ∧ ((10000.0 : Float).isFinite = true ∧ value 10000.0 = 10000)
  := by decide +kernel

theorem isFinite_zero :
  (0.0 : Float).isFinite = true
  := small_literals_exact.1.1

theorem value_zero :
  value 0.0 = 0
  := small_literals_exact.1.2

theorem isFinite_one :
  (1.0 : Float).isFinite = true
  := small_literals_exact.2.1.1

theorem value_one :
  value 1.0 = 1
  := small_literals_exact.2.1.2

theorem isFinite_hundred :
  (100.0 : Float).isFinite = true
  := small_literals_exact.2.2.1.1

theorem value_hundred :
  value 100.0 = 100
  := small_literals_exact.2.2.1.2

theorem isFinite_tenThousand :
  (10000.0 : Float).isFinite = true
  := small_literals_exact.2.2.2.1

theorem value_tenThousand :
  value 10000.0 = 10000
  := small_literals_exact.2.2.2.2

theorem isFinite_floatNeg (x : Float) :
  (-x).isFinite = x.isFinite
  := by
  show (Float.Model.pack x.toModel.unpack.neg).unpack.isFinite = x.toModel.unpack.isFinite
  rw [unpack_pack_of_packable (packable_unpack x.toModel).neg, isFinite_neg]

theorem isFinite_floatAbs (x : Float) :
  x.abs.isFinite = x.isFinite
  := by
  show (Float.Model.pack x.toModel.unpack.abs).unpack.isFinite = x.toModel.unpack.isFinite
  rw [unpack_pack_of_packable (packable_unpack x.toModel).abs]
  cases x.toModel.unpack <;> rfl

/-- A natural below `2 ^ 53` converts to the double of the same value. -/
theorem value_ofScientific {n : ℕ} (hn : n < 2 ^ 53) :
  (Float.ofScientific n false 0).isFinite = true ∧ value (Float.ofScientific n false 0) = n
  := by
  have hsmall : n < 2 ^ 53 ∧ (0 : ℕ) ≤ 22 := ⟨hn, by norm_num⟩
  have hround : roundDouble (n : ℚ) = n := roundDouble_natCast hn
  have hbound : |roundDouble (n : ℚ)| < 2 ^ (1024 : ℤ) := by
    rw [hround]
    exact abs_natCast_lt_overflow hn
  have hword : Delivers (n.toUInt64.toFloat).toModel.unpack (n : ℚ) := by
    have h := delivers_normalize (n : ℤ) 0
    have hn' : n.toUInt64.toNat = n := by
      rw [Nat.toUInt64_eq, UInt64.toNat_ofNat']
      exact Nat.mod_eq_of_lt (by omega)
    simp only [zpow_zero, mul_one, Int.cast_natCast] at h
    show Delivers (Float.Model.pack (UnpackedFloat.ofInt Format.binary64
      (n.toUInt64.toNat : ℤ))).unpack (n : ℚ)
    rw [hn']
    exact h
  obtain ⟨hfin, hval⟩ := hword.finite hbound
  rw [hround] at hval
  have hpow : Float.exactlyRepresentablePowersOfTen[0] = 1.0 := by decide +kernel
  have hval' : value n.toUInt64.toFloat = n := hval
  have hmul := delivers_mul (a := n.toUInt64.toFloat) (b := 1.0) hfin isFinite_one
  rw [hval', value_one, mul_one] at hmul
  obtain ⟨hfin', hval'⟩ := hmul.finite hbound
  have heq : Float.ofScientific n false 0 = n.toUInt64.toFloat * 1.0 := by
    rw [Float.ofScientific, dif_pos hsmall]
    simp [hpow]
  rw [heq]
  exact ⟨hfin', by rw [show value _ = _ from hval', hround]⟩

/-- Every natural converts to the double nearest it, or past the largest double to the infinity.
From `2 ^ 53` on, the conversion is one rounding of the significand. -/
theorem delivers_ofScientific (n : ℕ) :
  Delivers (Float.ofScientific n false 0).toModel.unpack n
  := by
  by_cases hsmall : n < 2 ^ 53
  · obtain ⟨hfin, hval⟩ := value_ofScientific hsmall
    rw [Delivers, roundDouble_natCast hsmall, if_pos (abs_natCast_lt_overflow hsmall)]
    exact ⟨hfin, hval⟩
  have hn0 : n ≠ 0 := by omega
  have heq : (Float.ofScientific n false 0).toModel = Float.Model.pack
      (roundWithAccuracy Format.binary64 .positive (n <<< 53) (-53) .exact) := by
    rw [Float.ofScientific, dif_neg (by omega)]
    simp [Float.Model.ofScientific, UnpackedFloat.ofScientific, hn0, UnpackedFloat.mul]
    rw [if_neg (by omega)]
    congr
  have hx : (0 : ℚ) < n := by exact_mod_cast Nat.pos_of_ne_zero hn0
  have hrec : Records .exact ((n : ℚ) / 2 ^ (-53 : ℤ) - (n <<< 53 : ℕ)) := by
    rw [Nat.shiftLeft_eq]
    push_cast
    rw [zpow_neg, div_inv_eq_mul]
    simp only [Records]
    norm_num
  have he : (-53 : ℤ) ≤ lastPlace n := by
    apply le_lastPlace_of_le hx
    have h1 : (1 : ℚ) ≤ n := by exact_mod_cast Nat.one_le_iff_ne_zero.mpr hn0
    norm_num
    linarith
  have hdel := delivers_roundWithAccuracy hx hrec he .positive
  rw [← heq] at hdel
  simpa [signed] using hdel

/-- `signedWhole` is exact below `2 ^ 53`. -/
theorem value_signedWhole (neg : Bool) {n : ℕ} (hn : n < 2 ^ 53) :
  (Decimal.signedWhole neg n).isFinite = true ∧
    value (Decimal.signedWhole neg n) = (if neg then -1 else 1) * n
  := by
  obtain ⟨hfin, hval⟩ := value_ofScientific hn
  unfold Decimal.signedWhole
  cases neg
  · exact ⟨hfin, by simpa using hval⟩
  · refine ⟨by rw [if_pos rfl, isFinite_floatNeg]; exact hfin, ?_⟩
    rw [if_pos rfl, value_neg, hval]
    simp

/-- An integer below `2 ^ 53` in magnitude converts to the double of the same value. -/
theorem value_wordToFloat {t : ℤ} (ht : |t| < 2 ^ 53) :
  (wordToFloat t).isFinite = true ∧ value (wordToFloat t) = t
  := by
  obtain ⟨hlo, hhi⟩ := abs_lt.mp ht
  unfold wordToFloat
  split_ifs with h0
  · obtain ⟨hfin, hval⟩ := value_ofScientific (n := t.toNat) (by omega)
    exact ⟨hfin, by rw [hval]; exact_mod_cast Int.toNat_of_nonneg h0⟩
  · obtain ⟨hfin, hval⟩ := value_ofScientific (n := t.natAbs) (by omega)
    have hcast : ((t.natAbs : ℤ) : ℚ) = -t := by exact_mod_cast (by omega : (t.natAbs : ℤ) = -t)
    refine ⟨by rw [isFinite_floatNeg]; exact hfin, ?_⟩
    rw [value_neg, hval, ← Int.cast_natCast, hcast, neg_neg]

/-- A nonnegative integer converts to the double nearest it, or to the infinity. -/
theorem delivers_wordToFloat {t : ℤ} (ht : 0 ≤ t) :
  Delivers (wordToFloat t).toModel.unpack t
  := by
  have h := delivers_ofScientific t.toNat
  rw [show ((t.toNat : ℕ) : ℚ) = t by exact_mod_cast Int.toNat_of_nonneg ht] at h
  unfold wordToFloat
  rw [if_pos ht]
  exact h

/-! ### Floor and rounding -/

section Whole

variable {x : Float}

/-- A double at or above the units is a whole number. -/
theorem value_eq_intCast_of_read {b : Decimal.Binary} (h : Decimal.read x = .finite b)
    (he : 0 ≤ b.exponent) :
  value x = (((if b.negative then -1 else 1) * (b.mantissa * 2 ^ b.exponent.toNat) : ℤ) : ℚ)
  := by
  rw [value_eq_of_read h, Decimal.Binary.value]
  push_cast
  rw [← zpow_natCast, Int.toNat_of_nonneg he]

/-- `floorToWhole` is the floor of a finite double. -/
theorem value_floorToWhole (hx : x.isFinite = true) :
  (Decimal.floorToWhole x).isFinite = true ∧ value (Decimal.floorToWhole x) = ⌊value x⌋
  := by
  obtain ⟨b, hb⟩ := exists_read_of_isFinite hx
  obtain ⟨hv, hm, -⟩ := read_finite hb
  unfold Decimal.floorToWhole
  rw [hb]
  dsimp only
  by_cases he : b.exponent ≥ 0
  · rw [if_pos he]
    refine ⟨hx, ?_⟩
    rw [value_eq_intCast_of_read hb he, Int.floor_intCast]
  · rw [if_neg he]
    have hd := two_le_fraction_den b.mantissa (not_le.mp he)
    have hnum : (Decimal.fraction b.mantissa b.exponent 0).1 = b.mantissa := by
      simp [Decimal.fraction, Int.toNat_eq_zero.mpr (not_le.mp he).le]
    have hval := fraction_value b.mantissa b.exponent
    have hpos := fraction_den_pos b.mantissa b.exponent
    generalize Decimal.fraction b.mantissa b.exponent 0 = f at hd hnum hval hpos ⊢
    obtain ⟨num, den⟩ := f
    dsimp only at hd hnum hval hpos ⊢
    subst hnum
    have hle : b.mantissa / den ≤ b.mantissa / 2 := Nat.div_le_div_left hd (by norm_num)
    obtain ⟨hfin, hvalue⟩ := value_signedWhole b.negative
      (n := if b.negative && b.mantissa % den != 0 then b.mantissa / den + 1 else b.mantissa / den)
      (by split <;> omega)
    refine ⟨hfin, ?_⟩
    rw [hvalue, hv, Decimal.Binary.value, ← hval, floor_signed_div _ _ _ hpos]
    push_cast
    rfl

/-- `roundToWhole` rounds a finite double to the nearest whole number, halves away from zero. -/
theorem value_roundToWhole (hx : x.isFinite = true) :
  (Decimal.roundToWhole x).isFinite = true ∧
    value (Decimal.roundToWhole x) = if value x < 0 then -round (-value x) else round (value x)
  := by
  obtain ⟨b, hb⟩ := exists_read_of_isFinite hx
  obtain ⟨hv, hm, -⟩ := read_finite hb
  unfold Decimal.roundToWhole
  rw [hb]
  dsimp only
  by_cases he : b.exponent ≥ 0
  · rw [if_pos he]
    refine ⟨hx, ?_⟩
    obtain ⟨k, hk⟩ : ∃ k : ℤ, value x = k := ⟨_, value_eq_intCast_of_read hb he⟩
    rw [hk]
    split_ifs
    · rw [show -(k : ℚ) = ((-k : ℤ) : ℚ) by push_cast; ring, round_intCast]
      push_cast
      ring
    · rw [round_intCast]
  · rw [if_neg he]
    have hd := two_le_fraction_den b.mantissa (not_le.mp he)
    have hnum : (Decimal.fraction b.mantissa b.exponent 0).1 = b.mantissa := by
      simp [Decimal.fraction, Int.toNat_eq_zero.mpr (not_le.mp he).le]
    have hval := fraction_value b.mantissa b.exponent
    have hpos := fraction_den_pos b.mantissa b.exponent
    have hplaces : b.roundPlaces 0 .awayFromZero = Decimal.roundDiv
        (Decimal.fraction b.mantissa b.exponent 0).1 (Decimal.fraction b.mantissa b.exponent 0).2
        .awayFromZero := rfl
    rw [hplaces]
    generalize Decimal.fraction b.mantissa b.exponent 0 = f at hd hnum hval hpos ⊢
    obtain ⟨num, den⟩ := f
    dsimp only at hd hnum hval hpos ⊢
    subst hnum
    have hle : b.mantissa / den ≤ b.mantissa / 2 := Nat.div_le_div_left hd (by norm_num)
    have hround := roundDiv_awayFromZero b.mantissa den hpos
    obtain ⟨hfin, hvalue⟩ := value_signedWhole b.negative
      (n := Decimal.roundDiv b.mantissa den .awayFromZero)
      (by have := roundDiv_le b.mantissa den .awayFromZero; omega)
    refine ⟨hfin, ?_⟩
    have hnonneg : (0 : ℚ) ≤ b.mantissa * 2 ^ b.exponent := by positivity
    rw [hvalue, hv, Decimal.Binary.value, ← hval]
    rw [hval] at hround ⊢
    have hcast : ((Decimal.roundDiv b.mantissa den .awayFromZero : ℕ) : ℚ) =
        ((round ((b.mantissa : ℚ) * 2 ^ b.exponent) : ℤ) : ℚ) := by
      rw [← hround]
      rfl
    rw [hcast]
    cases b.negative
    · simp [not_lt.mpr hnonneg]
    · rcases hnonneg.lt_or_eq with hpos' | hzero
      · simp [hpos']
      · simp [← hzero]

/-- `floatToSize?` is the floor of a double in `(-1, 2 ^ 64)`. -/
theorem floatToSize?_eq (hx : x.isFinite = true) (hlo : -1 < value x) (hhi : value x < 2 ^ 64) :
  floatToSize? x = some ⌊value x⌋₊
  := by
  obtain ⟨b, hb⟩ := exists_read_of_isFinite hx
  obtain ⟨hv, -, -⟩ := read_finite hb
  unfold floatToSize?
  rw [hb]
  dsimp only
  have hnonneg : (0 : ℚ) ≤ b.mantissa * 2 ^ b.exponent := by positivity
  rw [hv, Decimal.Binary.value] at hlo hhi ⊢
  cases hneg : b.negative
  · simp only [hneg, Bool.false_eq_true, ↓reduceIte, one_mul] at hlo hhi ⊢
    have hcmp : (compare ((b.mantissa : ℚ) * 2 ^ b.exponent * 10 ^ (0 : ℤ))
        (((Nat.pow 2 64 : ℕ) : ℚ) * 2 ^ (0 : ℤ) * 10 ^ (0 : ℤ)) == .lt) = true := by
      simp only [beq_iff_eq, compare_lt_iff_lt, Nat.pow_eq, Nat.cast_pow, zpow_zero, mul_one]
      exact_mod_cast hhi
    rw [cmpScaled_eq_compare, if_pos hcmp]
    simp only [Decimal.Binary.truncate, hneg, Bool.false_eq_true, ↓reduceIte, Int.toNat_natCast]
    rw [← Nat.floor_div_eq_div (K := ℚ), fraction_value]
  · simp only [hneg, ↓reduceIte, neg_mul, one_mul] at hlo hhi ⊢
    rw [cmpScaled_eq_compare, if_pos (by simp [compare_lt_iff_lt]; linarith)]
    rw [eq_comm, Option.some_inj, Nat.floor_eq_zero]
    linarith

/-- `floatToWord?` cuts a double in `[-2 ^ 63, 2 ^ 63)` toward zero. The cut toward zero is the
floor of the magnitude with the sign, and a negative zero converts to zero. -/
theorem floatToWord?_eq (hx : x.isFinite = true) (hlo : -2 ^ 63 ≤ value x) (hhi : value x < 2 ^ 63) :
  floatToWord? x = some (if value x < 0 then -⌊-value x⌋ else ⌊value x⌋)
  := by
  obtain ⟨b, hb⟩ := exists_read_of_isFinite hx
  obtain ⟨hv, -, -⟩ := read_finite hb
  unfold floatToWord?
  rw [hb]
  dsimp only
  have hnonneg : (0 : ℚ) ≤ b.mantissa * 2 ^ b.exponent := by positivity
  have hfloor : (((Decimal.fraction b.mantissa b.exponent 0).1 /
      (Decimal.fraction b.mantissa b.exponent 0).2 : ℕ) : ℤ) = ⌊(b.mantissa : ℚ) * 2 ^ b.exponent⌋ := by
    rw [← Nat.floor_div_eq_div (K := ℚ), fraction_value]
    exact Int.natCast_floor_eq_floor hnonneg
  have hcmp := cmpScaled_eq_compare b.mantissa b.exponent 0 (Nat.pow 2 63) 0 0
  simp only [Nat.pow_eq, Nat.cast_pow, zpow_zero, mul_one] at hcmp
  rw [hcmp]
  rw [hv, Decimal.Binary.value] at hlo hhi ⊢
  cases hneg : b.negative
  · simp only [hneg, Bool.false_eq_true, ↓reduceIte, one_mul] at hlo hhi ⊢
    rw [compare_lt_iff_lt.mpr (by exact_mod_cast hhi)]
    simp [Decimal.Binary.truncate, hneg, hfloor, not_lt.mpr hnonneg]
  · simp only [hneg, ↓reduceIte, neg_mul, one_mul] at hlo hhi ⊢
    have hle : (b.mantissa : ℚ) * 2 ^ b.exponent ≤ 2 ^ 63 := by linarith
    simp [Decimal.Binary.truncate, hneg, hfloor]
    refine ⟨compare_le_iff_le.mpr hle, fun hzero => ?_⟩
    rw [le_antisymm hzero hnonneg, neg_zero, Int.floor_zero, neg_zero]

/-- A double that is a whole number in `[-2 ^ 63, 2 ^ 63)` converts to it. -/
theorem floatToWord?_of_value_eq {k : ℤ} (hx : x.isFinite = true) (hk : value x = k)
    (hlo : -2 ^ 63 ≤ k) (hhi : k < 2 ^ 63) :
  floatToWord? x = some k
  := by
  have hlo' : (-2 ^ 63 : ℚ) ≤ k := by exact_mod_cast hlo
  have hhi' : (k : ℚ) < 2 ^ 63 := by exact_mod_cast hhi
  rw [floatToWord?_eq hx (hk ▸ hlo') (hk ▸ hhi'), hk]
  split_ifs
  · rw [← Int.cast_neg, Int.floor_intCast, neg_neg]
  · rw [Int.floor_intCast]

/-- `floatToWord?` converts exactly the finite doubles in `[-2 ^ 63, 2 ^ 63)`. -/
theorem floatToWord?_isSome_iff :
  (floatToWord? x).isSome ↔ x.isFinite = true ∧ -2 ^ 63 ≤ value x ∧ value x < 2 ^ 63
  := by
  constructor
  · intro h
    obtain ⟨a, h⟩ := Option.isSome_iff_exists.mp h
    unfold floatToWord? at h
    split at h
    · rename_i b hb
      obtain ⟨hv, -, -⟩ := read_finite hb
      have hnonneg : (0 : ℚ) ≤ b.mantissa * 2 ^ b.exponent := by positivity
      have hcmp := cmpScaled_eq_compare b.mantissa b.exponent 0 (Nat.pow 2 63) 0 0
      simp only [Nat.pow_eq, Nat.cast_pow, zpow_zero, mul_one] at hcmp
      refine ⟨isFinite_of_read hb, ?_⟩
      rw [hv, Decimal.Binary.value]
      rw [hcmp] at h
      cases hneg : b.negative <;> simp only [hneg] at h ⊢ <;> split_ifs at h with hlt hgt
      · simp only [Bool.not_false, Bool.and_true, bne_iff_ne, ne_eq, not_not] at hlt
        rw [Nat.cast_ofNat, compare_lt_iff_lt] at hlt
        simp only [Bool.false_eq_true, ↓reduceIte, one_mul]
        constructor <;> linarith
      · simp only [Bool.true_and, beq_iff_eq] at hgt
        rw [Nat.cast_ofNat, ← ne_eq, compare_le_iff_le] at hgt
        simp only [↓reduceIte, neg_mul, one_mul]
        constructor <;> linarith
    · cases h
  · rintro ⟨hx, hlo, hhi⟩
    rw [floatToWord?_eq hx hlo hhi]
    rfl

end Whole

end Payout.Double
