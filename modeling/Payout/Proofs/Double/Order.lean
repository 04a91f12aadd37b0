import Payout.Domain.Allocation
import Payout.Proofs.Double.Arithmetic
import Payout.Proofs.Double.Whole

/-!
# Doubles in the order of their bits, and fractional parts

`totalKey` orders doubles by their bits. On finite doubles whose sign bit is clear, the
positive doubles and positive zero, that order is the order of their values
(`totalKey_lt_iff`, `totalKey_eq_iff`): a larger exponent field, or the same one and a larger
fraction field, is a larger number (`bitsValue_strictMonoOn`).

The fractional part of a finite nonnegative double, the double less its floor, is computed
exactly (`sub_floorToWhole`) and has its sign bit clear (`toNat_toBits_sub_floorToWhole_lt`):
it is never negative zero, not even for negative zero, whose floor is negative zero. So
fractional parts are ordered by `totalKey` as by their values.
-/

namespace Payout.Double

open Float.Model

variable {x : Float}

/-! ### The value of the bits -/

/-- The value of the bits of a double whose sign bit is clear and whose exponent field is not
all ones: a subnormal for the zero exponent field, otherwise a normal number with its hidden
digit. -/
def bitsValue (n : ℕ) : ℚ :=
  if n / 2 ^ 52 % 2048 = 0 then ((n % 2 ^ 52 : ℕ) : ℚ) * 2 ^ (-1074 : ℤ)
  else ((n % 2 ^ 52 + 2 ^ 52 : ℕ) : ℚ) * 2 ^ ((n / 2 ^ 52 % 2048 : ℕ) - 1075 : ℤ)

theorem bitsValue_nonneg (n : ℕ) :
  0 ≤ bitsValue n
  := by
  unfold bitsValue
  split_ifs <;> exact mul_nonneg (Nat.cast_nonneg _) (two_zpow_pos _).le

/-- A finite double is its sign applied to the value of its other bits. -/
theorem value_eq_signed_bitsValue (hx : x.isFinite = true) :
  value x = (if x.toBits.toNat / 2 ^ 63 % 2 = 1 then -1 else 1) * bitsValue x.toBits.toNat
  := by
  have hinf := (isFinite_unpack x.toModel.toBits.toBitVec).mp hx
  have hv : value x = unpackedValue (UnpackedFloat.unpack Format.binary64 x.toModel.toBits.toBitVec) := rfl
  rw [hv, unpackedValue_unpack _ hinf, toNat_toBitVec_toBits]
  rfl

/-- A positive double has its sign bit clear. -/
theorem toNat_toBits_lt_of_pos (hx : x.isFinite = true) (hpos : 0 < value x) :
  x.toBits.toNat < 2 ^ 63
  := by
  rw [value_eq_signed_bitsValue hx] at hpos
  have hlt := UInt64.toNat_lt x.toBits
  split_ifs at hpos with hsign
  · linarith [bitsValue_nonneg x.toBits.toNat]
  · omega

/-- A finite double with its sign bit clear has an exponent field below all ones. -/
theorem toNat_toBits_lt_of_isFinite (hx : x.isFinite = true) (hs : x.toBits.toNat < 2 ^ 63) :
  x.toBits.toNat < 2047 * 2 ^ 52
  := by
  have hinf := (isFinite_unpack x.toModel.toBits.toBitVec).mp hx
  rw [toNat_toBitVec_toBits] at hinf
  omega

theorem value_eq_bitsValue (hx : x.isFinite = true) (hs : x.toBits.toNat < 2 ^ 63) :
  value x = bitsValue x.toBits.toNat
  := by
  rw [value_eq_signed_bitsValue hx, if_neg (by omega), one_mul]

/-- The next bits are the next double: one more in the fraction field, or, past its last
value, the next exponent field with a zero fraction. -/
theorem bitsValue_lt_succ {n : ℕ} (hn : n + 1 < 2047 * 2 ^ 52) :
  bitsValue n < bitsValue (n + 1)
  := by
  unfold bitsValue
  by_cases hcarry : n % 2 ^ 52 + 1 < 2 ^ 52
  · have hdiv : (n + 1) / 2 ^ 52 = n / 2 ^ 52 := by omega
    have hmod : (n + 1) % 2 ^ 52 = n % 2 ^ 52 + 1 := by omega
    rw [hdiv, hmod]
    split_ifs
    · exact mul_lt_mul_of_pos_right (by push_cast; linarith) (two_zpow_pos _)
    · exact mul_lt_mul_of_pos_right (by push_cast; linarith) (two_zpow_pos _)
  · have hdiv : (n + 1) / 2 ^ 52 % 2048 = n / 2 ^ 52 % 2048 + 1 := by omega
    have hmod : (n + 1) % 2 ^ 52 = 0 := by omega
    have hfull : n % 2 ^ 52 = 2 ^ 52 - 1 := by omega
    rw [hdiv, hmod, hfull, if_neg (show n / 2 ^ 52 % 2048 + 1 ≠ 0 by omega)]
    generalize n / 2 ^ 52 % 2048 = E
    have hexp : ((E + 1 : ℕ) : ℤ) - 1075 = (E : ℤ) - 1075 + 1 := by
      push_cast
      ring
    rw [hexp, zpow_add_one₀ two_ne_zero]
    split_ifs with hE
    · subst hE
      have hc : (2 : ℚ) ^ (((0 : ℕ) : ℤ) - 1075) * 2 = 2 ^ (-1074 : ℤ) := by
        rw [← zpow_add_one₀ two_ne_zero]
        norm_num
      rw [hc]
      exact mul_lt_mul_of_pos_right (by norm_num) (two_zpow_pos _)
    · have hpos := two_zpow_pos ((E : ℤ) - 1075)
      have hlast : ((2 ^ 52 - 1 + 2 ^ 52 : ℕ) : ℚ) = 2 ^ 53 - 1 := by norm_num
      have hnext : ((0 + 2 ^ 52 : ℕ) : ℚ) = 2 ^ 52 := by norm_num
      rw [hlast, hnext]
      linarith

theorem bitsValue_lt {n m : ℕ} (h : n < m) (hm : m < 2047 * 2 ^ 52) :
  bitsValue n < bitsValue m
  := by
  induction m, h using Nat.le_induction with
  | base => exact bitsValue_lt_succ hm
  | succ m hnm ih => exact (ih (by omega)).trans (bitsValue_lt_succ hm)

/-- Below the exponent field of all ones, larger bits are a larger number. -/
theorem bitsValue_strictMonoOn :
  StrictMonoOn bitsValue (Set.Iio (2047 * 2 ^ 52))
  := fun _ _ _ hm h => bitsValue_lt h hm

/-! ### The order of `totalKey` -/

/-- A double with its sign bit clear has its bits as key. -/
theorem totalKey_eq_toNat (hs : x.toBits.toNat < 2 ^ 63) :
  totalKey x = x.toBits.toNat
  := by
  simp only [totalKey, Nat.pow_eq]
  rw [if_neg (by omega)]

section Key

variable {y : Float} (hx : x.isFinite = true) (hy : y.isFinite = true)
  (hsx : x.toBits.toNat < 2 ^ 63) (hsy : y.toBits.toNat < 2 ^ 63)
include hx hy hsx hsy

/-- On finite doubles with the sign bit clear, `totalKey` orders as the values. -/
theorem totalKey_lt_iff :
  totalKey x < totalKey y ↔ value x < value y
  := by
  rw [totalKey_eq_toNat hsx, totalKey_eq_toNat hsy, value_eq_bitsValue hx hsx,
    value_eq_bitsValue hy hsy, Nat.cast_lt]
  exact (bitsValue_strictMonoOn.lt_iff_lt (toNat_toBits_lt_of_isFinite hx hsx)
    (toNat_toBits_lt_of_isFinite hy hsy)).symm

theorem totalKey_eq_iff :
  totalKey x = totalKey y ↔ value x = value y
  := by
  rw [totalKey_eq_toNat hsx, totalKey_eq_toNat hsy, value_eq_bitsValue hx hsx,
    value_eq_bitsValue hy hsy, Nat.cast_inj]
  exact (bitsValue_strictMonoOn.injOn.eq_iff (toNat_toBits_lt_of_isFinite hx hsx)
    (toNat_toBits_lt_of_isFinite hy hsy)).symm

end Key

/-! ### Fractional parts -/

/-- A finite nonnegative double less its floor is a double: the difference is a multiple of
the double's last place, and no larger than the double. -/
theorem roundDouble_sub_floor (hx : x.isFinite = true) (h0 : 0 ≤ value x) :
  roundDouble (value x - ⌊value x⌋) = value x - ⌊value x⌋
  := by
  obtain ⟨b, hb⟩ := exists_read_of_isFinite hx
  obtain ⟨hv, hm, he⟩ := read_finite hb
  have hval : value x = b.mantissa * 2 ^ b.exponent := by
    rw [hv, Decimal.Binary.value] at h0 ⊢
    have hnonneg : (0 : ℚ) ≤ b.mantissa * 2 ^ b.exponent := by positivity
    split_ifs at h0 ⊢
    · linarith
    · rw [one_mul]
  by_cases hexp : 0 ≤ b.exponent
  · have hwhole : value x = ((b.mantissa * 2 ^ b.exponent.toNat : ℕ) : ℤ) := by
      rw [hval]
      push_cast
      rw [← zpow_natCast, Int.toNat_of_nonneg hexp]
    rw [hwhole, Int.floor_intCast, sub_self, roundDouble_zero]
  · set k := (-b.exponent).toNat
    have hk : b.exponent = -(k : ℤ) := by omega
    set q := ⌊value x⌋
    have hq : 0 ≤ q := Int.floor_nonneg.mpr h0
    have hdiff : value x - q = ((b.mantissa - q * 2 ^ k : ℤ) : ℚ) * 2 ^ b.exponent := by
      rw [hval, hk, zpow_neg, zpow_natCast]
      push_cast
      field_simp
    have hfrac : 0 ≤ ((b.mantissa - q * 2 ^ k : ℤ) : ℚ) * 2 ^ b.exponent := by
      rw [← hdiff]
      exact sub_nonneg.mpr (Int.floor_le _)
    have hlo : 0 ≤ (b.mantissa : ℤ) - q * 2 ^ k :=
      by exact_mod_cast nonneg_of_mul_nonneg_left hfrac (two_zpow_pos _)
    have hhi : (b.mantissa : ℤ) - q * 2 ^ k ≤ b.mantissa := by
      have : 0 ≤ q * 2 ^ k := mul_nonneg hq (by positivity)
      omega
    rw [hdiff]
    exact roundDouble_eq_self (by rw [abs_of_nonneg hlo]; omega) he

/-- The fractional part of a finite nonnegative double is computed exactly. -/
theorem sub_floorToWhole (hx : x.isFinite = true) (h0 : 0 ≤ value x) :
  (x - Decimal.floorToWhole x).isFinite = true
    ∧ value (x - Decimal.floorToWhole x) = value x - ⌊value x⌋
  := by
  obtain ⟨hfin, hval⟩ := value_floorToWhole hx
  have hexact := roundDouble_sub_floor hx h0
  rw [← hval] at hexact
  have hbound : |value x - value (Decimal.floorToWhole x)| < 2 ^ (1024 : ℤ) := by
    rw [hval, abs_of_nonneg (sub_nonneg.mpr (Int.floor_le _))]
    calc value x - ⌊value x⌋ < 1 := by linarith [Int.lt_floor_add_one (value x)]
      _ < 2 ^ (1024 : ℤ) := one_lt_zpow₀ one_lt_two (by norm_num)
  have hfin' : (x - Decimal.floorToWhole x).isFinite = true :=
    isFinite_sub hx hfin (by rwa [hexact])
  exact ⟨hfin', by rw [value_sub hx hfin hfin', hexact, hval]⟩

/-- A finite double of value zero is one of the two zeros. With no exponent field and no fraction
field, only the sign bit can be set. -/
theorem eq_zero_or_eq_negZero (hx : x.isFinite = true) (h0 : value x = 0) :
  x = 0.0 ∨ x = -0.0
  := by
  rw [value_eq_signed_bitsValue hx] at h0
  have hzero : bitsValue x.toBits.toNat = 0 := by
    split_ifs at h0 <;> linarith
  have hfields : x.toBits.toNat / 2 ^ 52 % 2048 = 0 ∧ x.toBits.toNat % 2 ^ 52 = 0 := by
    unfold bitsValue at hzero
    split_ifs at hzero with hexp
    · refine ⟨hexp, ?_⟩
      have := (mul_eq_zero.mp hzero).resolve_right (two_zpow_pos _).ne'
      exact_mod_cast this
    · rcases mul_eq_zero.mp hzero with h | h
      · have : (0 : ℚ) < ((x.toBits.toNat % 2 ^ 52 + 2 ^ 52 : ℕ) : ℚ) := by positivity
        linarith
      · exact absurd h (two_zpow_pos _).ne'
  have hlt := UInt64.toNat_lt x.toBits
  have hbits : x.toBits.toNat = (0.0 : Float).toBits.toNat ∨ x.toBits.toNat = (-0.0 : Float).toBits.toNat := by
    rw [show (0.0 : Float).toBits.toNat = 0 by decide +kernel,
      show (-0.0 : Float).toBits.toNat = 2 ^ 63 by decide +kernel]
    omega
  rcases hbits with h | h
  · exact .inl (Float.toBits_inj.mp (UInt64.toNat_inj.mp h))
  · exact .inr (Float.toBits_inj.mp (UInt64.toNat_inj.mp h))

/-- A finite nonzero double less one of the same value is positive zero. The exact difference is
zero, so the significand sum is zero, which normalizes to positive zero, whose bits are all clear.
-/
theorem toNat_toBits_sub_self {a b : Float} (ha : a.isFinite = true) (hb : b.isFinite = true)
    (ha0 : value a ≠ 0) (hab : value a = value b) :
  (a - b).toBits.toNat = 0
  := by
  have hfinite : ∀ y : Float, y.isFinite = true → value y ≠ 0 →
      ∃ s m e hm, y.toModel.unpack = .finite s m e hm := by
    intro y hy hy0
    unfold value at hy0
    change y.toModel.unpack.isFinite = true at hy
    cases hu : y.toModel.unpack with
    | finite s m e hm => exact ⟨s, m, e, hm, rfl⟩
    | zero s => rw [hu] at hy0; simp [unpackedValue] at hy0
    | infinity s => rw [hu] at hy; simp [UnpackedFloat.isFinite] at hy
    | notANumber => rw [hu] at hy; simp [UnpackedFloat.isFinite] at hy
  obtain ⟨s, m, e, hm, hu⟩ := hfinite a ha ha0
  obtain ⟨s', m', e', hm', hv⟩ := hfinite b hb (hab ▸ ha0)
  obtain ⟨M, hadd, hM⟩ := add_finite_finite s (-s') e e' hm hm'
  have hzero : M = 0 := by
    have hdiff : unpackedValue (.finite s m e hm) + unpackedValue (.finite (-s') m' e' hm') = 0 := by
      have hneg := unpackedValue_neg (.finite s' m' e' hm')
      unfold value at hab
      rw [hu, hv] at hab
      change unpackedValue (.finite (-s') m' e' hm') = _ at hneg
      rw [hneg, hab, add_neg_cancel]
    rw [hdiff] at hM
    exact_mod_cast (mul_eq_zero.mp hM).resolve_right (two_zpow_pos _).ne'
  show (Float.Model.pack (UnpackedFloat.sub Format.binary64 a.toModel.unpack b.toModel.unpack)).toBits.toNat = 0
  rw [hu, hv, sub_eq_add_unpackedNeg]
  change (Float.Model.pack (UnpackedFloat.add Format.binary64 (.finite s m e hm) (.finite (-s') m' e' hm'))).toBits.toNat = 0
  rw [hadd, hzero]
  change (Float.Model.pack (.zero .positive)).toBits.toNat = 0
  decide

/-- The fractional parts of the two zeros are positive zero. -/
theorem toNat_toBits_sub_floorToWhole_zeros :
  (0.0 - Decimal.floorToWhole 0.0).toBits.toNat = 0
    ∧ (-0.0 - Decimal.floorToWhole (-0.0)).toBits.toNat = 0
  := by decide +kernel

/-- The fractional part of a finite nonnegative double has its sign bit clear. The fractional part
of a whole number is a difference of two equal doubles, or zero. -/
theorem toNat_toBits_sub_floorToWhole_lt (hx : x.isFinite = true) (h0 : 0 ≤ value x) :
  (x - Decimal.floorToWhole x).toBits.toNat < 2 ^ 63
  := by
  obtain ⟨hfin, hval⟩ := sub_floorToWhole hx h0
  rcases (sub_nonneg.mpr (Int.floor_le (value x))).lt_or_eq with hpos | hzero
  · exact toNat_toBits_lt_of_pos hfin (hval ▸ hpos)
  by_cases hx0 : value x = 0
  · rcases eq_zero_or_eq_negZero hx hx0 with rfl | rfl
    · rw [toNat_toBits_sub_floorToWhole_zeros.1]
      norm_num
    · rw [toNat_toBits_sub_floorToWhole_zeros.2]
      norm_num
  · obtain ⟨hw, hwv⟩ := value_floorToWhole hx
    rw [toNat_toBits_sub_self hx hw hx0 (by rw [hwv]; linarith)]
    norm_num

end Payout.Double
