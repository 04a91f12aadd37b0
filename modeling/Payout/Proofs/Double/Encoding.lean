import Mathlib
import Payout.Proofs.Double.Rounding
import Payout.Domain.Weight

/-!
# Doubles as rationals

A double is stored as 64 bits and computed with in its unpacked form: an infinity, NaN, a
signed zero, or a finite `± m * 2 ^ e`. This module gives every double its rational value
(`value`), shows that the unpacked form of stored bits is canonical (a significand of at most
53 digits with the leading one in place, or a subnormal at the smallest exponent), and that
packing a canonical form and unpacking it gives it back. Together these let the value of an
operation's result be read off the unpacked result. Comparisons of doubles are comparisons of
their values.
-/

open Float.Model Float.Model.UnpackedFloat

namespace Payout.Double

/-- The rational an unpacked float stands for; the infinities and NaN stand for none and get
zero. -/
def unpackedValue : UnpackedFloat → ℚ
  | .finite s m e _ => (s.apply m : ℚ) * 2 ^ e
  | _ => 0

/-- The rational value of a double, zero for the infinities and NaN. -/
def value (x : Float) : ℚ := unpackedValue x.toModel.unpack

/-- A significand and exponent in the canonical form of a finite double: at most 53 digits,
the leading one in place unless the exponent is the smallest, and an exponent in range. -/
structure Canonical (m : ℕ) (e : ℤ) : Prop where
  lt : m < 2 ^ 53
  min_le : -1074 ≤ e
  le_max : e ≤ 971
  normal : 2 ^ 52 ≤ m ∨ e = -1074

/-! ### Packing and unpacking -/

/-- The bits of a packed double: sign, biased exponent and fraction, from the top. -/
theorem toNat_packComponents (s : Sign) (exponent : BitVec 11) (mantissa : BitVec 52) :
  (packComponents Format.binary64 s exponent mantissa).toNat =
    s.toBitVec.toNat * 2 ^ 63 + exponent.toNat * 2 ^ 52 + mantissa.toNat := by
  have he := exponent.isLt
  have hm := mantissa.isLt
  simp only [packComponents, BitVec.toNat_append]
  rw [← Nat.shiftLeft_add_eq_or_of_lt he, ← Nat.shiftLeft_add_eq_or_of_lt hm,
    Nat.shiftLeft_eq, Nat.shiftLeft_eq]
  ring


theorem sign_packComponents (s : Sign) (exponent : BitVec 11) (mantissa : BitVec 52) :
  Sign.ofBitVec (@unpackSign Format.binary64 (packComponents Format.binary64 s exponent mantissa)) = s
  := by
  have hs : @unpackSign Format.binary64 (packComponents Format.binary64 s exponent mantissa) =
      s.toBitVec := by
    apply BitVec.eq_of_toNat_eq
    have he := exponent.isLt
    have hm := mantissa.isLt
    have hb := s.toBitVec.isLt
    simp only [unpackSign, BitVec.toNat_cast, BitVec.extractLsb_toNat, toNat_packComponents,
      Nat.shiftRight_eq_div_pow]
    norm_num at *
    omega
  rw [hs]
  cases s <;> rfl

theorem unpack_pack_normal (s : Sign) {m : ℕ} {e : ℤ} (hm : 0 < m) (hlo : 2 ^ 52 ≤ m)
    (hhi : m < 2 ^ 53) (he : -1074 ≤ e) (he' : e ≤ 971) :
  (Float.Model.pack (.finite s m e hm)).unpack = .finite s m e hm := by
  have hlog : m.log2 = 52 := (Nat.log2_eq_iff hm.ne').mpr ⟨hlo, hhi⟩
  have hb : (e + (Format.binary64.exponentBias : ℤ) + (52 : ℕ)).toNat = (e + 1075).toNat := by
    simp [Format.exponentBias]; omega
  have hne1 : BitVec.ofNat 11 (e + 1075).toNat ≠ -1#11 := by
    intro h
    have := congrArg BitVec.toNat h
    simp at this
    omega
  have hne0 : BitVec.ofNat 11 (e + 1075).toNat ≠ 0#11 := by
    intro h
    have := congrArg BitVec.toNat h
    simp at this
    omega
  have hmant : (1#1 ++ BitVec.ofNat 52 m).toNat = m := by
    simp only [BitVec.toNat_append, BitVec.toNat_ofNat]
    rw [← Nat.shiftLeft_add_eq_or_of_lt (Nat.mod_lt _ (by norm_num)), Nat.shiftLeft_eq]
    norm_num
    omega
  simp only [Float.Model.unpack, Float.Model.pack, UInt64.toBitVec_ofBitVec, UnpackedFloat.pack]
  rw [hb, if_neg (by omega), if_pos (by simp [Format.mantissaBits, hlog])]
  simp only [UnpackedFloat.unpack, unpackExponent_packComponents, unpackMantissa_packComponents,
    sign_packComponents, hne1, hne0, if_false]
  rw [UnpackedFloat.finite.injEq]
  refine ⟨rfl, hmant, ?_⟩
  simp [Format.exponentBias]
  omega

theorem unpack_pack_subnormal (s : Sign) {m : ℕ} (hm : 0 < m) (hhi : m < 2 ^ 52) :
  (Float.Model.pack (.finite s m (-1074) hm)).unpack = .finite s m (-1074) hm := by
  have hlog : m.log2 < 52 := (Nat.log2_lt hm.ne').mpr hhi
  have hne0 : BitVec.ofNat 52 m ≠ 0#52 := by
    intro h
    have := congrArg BitVec.toNat h
    simp at this
    omega
  simp only [Float.Model.unpack, Float.Model.pack, UInt64.toBitVec_ofBitVec, UnpackedFloat.pack]
  rw [if_neg (by simp [Format.exponentBias]), if_neg (by simp [Format.mantissaBits]; omega)]
  simp only [UnpackedFloat.unpack, unpackExponent_packComponents, unpackMantissa_packComponents,
    sign_packComponents, hne0]
  simp only [show (0#11 : BitVec 11) ≠ -1#11 by decide, if_false, if_true, dite_false]
  rw [UnpackedFloat.finite.injEq]
  refine ⟨rfl, by simp; omega, by simp [Format.exponentBias]⟩

theorem unpack_pack_zero (s : Sign) :
  (Float.Model.pack (.zero s)).unpack = .zero s := by
  cases s <;> rfl

theorem unpack_pack_infinity (s : Sign) :
  (Float.Model.pack (.infinity s)).unpack = .infinity s := by
  cases s <;> rfl

theorem unpack_pack_notANumber :
  (Float.Model.pack .notANumber).unpack = .notANumber := rfl

theorem unpack_pack_overflow (s : Sign) {m : ℕ} {e : ℤ} (hm : 0 < m) (he : 972 ≤ e) :
  (Float.Model.pack (.finite s m e hm)).unpack = .infinity s := by
  simp only [Float.Model.unpack, Float.Model.pack, UInt64.toBitVec_ofBitVec, UnpackedFloat.pack]
  rw [if_pos (by simp [Format.exponentBias]; omega)]
  exact unpack_pack_infinity s

theorem canonical_of_unpack {x : Float.Model} {s : Sign} {m : ℕ} {e : ℤ} {hm : 0 < m}
    (h : x.unpack = .finite s m e hm) :
  Canonical m e := by
  have hmant := (@unpackMantissa Format.binary64 x.toBits.toBitVec).isLt
  have hexp := (@unpackExponent Format.binary64 x.toBits.toBitVec).isLt
  simp only [Float.Model.unpack, UnpackedFloat.unpack] at h
  split at h
  · split at h <;> cases h
  rename_i hmax
  have hmax' : (@unpackExponent Format.binary64 x.toBits.toBitVec).toNat ≠ 2047 :=
    fun h' => hmax (BitVec.eq_of_toNat_eq (by simpa using h'))
  split at h
  · rename_i hzero
    split at h
    · cases h
    · rw [UnpackedFloat.finite.injEq] at h
      obtain ⟨-, rfl, rfl⟩ := h
      simp only [hzero, BitVec.toNat_ofNat] at *
      refine ⟨by simp at hmant ⊢; omega, by simp [Format.exponentBias], by simp [Format.exponentBias],
        Or.inr (by simp [Format.exponentBias])⟩
  · rename_i hzero
    have hzero' : (@unpackExponent Format.binary64 x.toBits.toBitVec).toNat ≠ 0 :=
      fun h' => hzero (BitVec.eq_of_toNat_eq (by simpa using h'))
    rw [UnpackedFloat.finite.injEq] at h
    obtain ⟨-, rfl, rfl⟩ := h
    have hm : (1#1 ++ @unpackMantissa Format.binary64 x.toBits.toBitVec).toNat =
        2 ^ 52 + (@unpackMantissa Format.binary64 x.toBits.toBitVec).toNat := by
      simp only [BitVec.toNat_append]
      rw [← Nat.shiftLeft_add_eq_or_of_lt hmant, Nat.shiftLeft_eq]
      simp
    rw [hm]
    simp only [Format.exponentBias] at *
    refine ⟨by simp at hmant ⊢; omega, by simp; omega, by simp at hexp ⊢; omega, Or.inl (by omega)⟩

/-- An unpacked float that packing keeps: anything but a finite float out of canonical form. -/
def Packable : UnpackedFloat → Prop
  | .finite _ m e _ => Canonical m e
  | _ => True

theorem unpack_pack_of_packable {u : UnpackedFloat} (hu : Packable u) :
  (Float.Model.pack u).unpack = u
  := by
  cases u with
  | infinity s => exact unpack_pack_infinity s
  | notANumber => exact unpack_pack_notANumber
  | zero s => exact unpack_pack_zero s
  | finite s m e hm =>
    have hc : Canonical m e := hu
    rcases hc.normal with hn | rfl
    · exact unpack_pack_normal s hm hn hc.lt hc.min_le hc.le_max
    · by_cases hsub : m < 2 ^ 52
      · exact unpack_pack_subnormal s hm hsub
      · exact unpack_pack_normal s hm (by omega) hc.lt (by norm_num) (by norm_num)

theorem packable_unpack (x : Float.Model) :
  Packable x.unpack
  := by
  cases h : x.unpack with
  | finite s m e hm => exact canonical_of_unpack h
  | _ => trivial

/-! ### Values and comparisons -/

theorem unpackedValue_neg (u : UnpackedFloat) :
  unpackedValue u.neg = -unpackedValue u
  := by
  cases u with
  | finite s m e hm => cases s <;> simp [UnpackedFloat.neg, unpackedValue, Sign.apply]
  | _ => simp [UnpackedFloat.neg, unpackedValue]

theorem Packable.neg {u : UnpackedFloat} (hu : Packable u) :
  Packable u.neg
  := by
  cases u <;> exact hu

theorem Packable.abs {u : UnpackedFloat} (hu : Packable u) :
  Packable u.abs
  := by
  cases u <;> exact hu

theorem isFinite_neg (u : UnpackedFloat) :
  u.neg.isFinite = u.isFinite
  := by
  cases u <;> rfl

theorem value_neg (x : Float) :
  value (-x) = -value x
  := by
  show unpackedValue (Float.Model.pack x.toModel.unpack.neg).unpack = _
  rw [unpack_pack_of_packable (packable_unpack x.toModel).neg, unpackedValue_neg]
  rfl

theorem value_abs (x : Float) :
  value x.abs = |value x|
  := by
  show unpackedValue (Float.Model.pack x.toModel.unpack.abs).unpack = _
  rw [unpack_pack_of_packable (packable_unpack x.toModel).abs]
  unfold value
  cases x.toModel.unpack with
  | finite s m e hm =>
    have : (0 : ℚ) ≤ (m : ℚ) * 2 ^ e := mul_nonneg (Nat.cast_nonneg m) (two_zpow_pos e).le
    cases s <;> simp [UnpackedFloat.abs, unpackedValue, Sign.apply, abs_of_nonneg this]
  | _ => simp [UnpackedFloat.abs, unpackedValue]

/-- Of two canonical positive floats the one with the larger exponent is larger, and of equal
exponents the one with the larger significand: comparing exponents first compares values. A larger
exponent belongs to a normal float, which is above every float of a smaller one. -/
theorem compare_canonical {m₁ m₂ : ℕ} {e₁ e₂ : ℤ} (h₁ : Canonical m₁ e₁) (h₂ : Canonical m₂ e₂) :
  (compare e₁ e₂).then (compare m₁ m₂) = compare ((m₁ : ℚ) * 2 ^ e₁) ((m₂ : ℚ) * 2 ^ e₂)
  := by
  have below {m m' : ℕ} {e e' : ℤ} (h : Canonical m e) (h' : Canonical m' e') (he : e < e') :
      (m : ℚ) * 2 ^ e < m' * 2 ^ e' := by
    have hn : 2 ^ 52 ≤ m' := h'.normal.resolve_right (by have := h.min_le; omega)
    calc (m : ℚ) * 2 ^ e < 2 ^ 53 * 2 ^ e := by
          gcongr
          exact_mod_cast h.lt
      _ = 2 ^ (e + 53) := by rw [zpow_add₀ two_ne_zero, mul_comm]; norm_cast
      _ ≤ 2 ^ (e' + 52) := zpow_le_zpow_right₀ (by norm_num) (by omega)
      _ = 2 ^ 52 * 2 ^ e' := by rw [zpow_add₀ two_ne_zero, mul_comm]; norm_cast
      _ ≤ m' * 2 ^ e' := by
          gcongr
          exact_mod_cast hn
  rcases lt_trichotomy e₁ e₂ with he | rfl | he
  · rw [compare_lt_iff_lt.mpr he, compare_lt_iff_lt.mpr (below h₁ h₂ he)]
    rfl
  · rw [compare_eq_iff_eq.mpr rfl, Ordering.eq_then]
    have hp := two_zpow_pos e₁
    rcases lt_trichotomy m₁ m₂ with hm | rfl | hm
    · rw [compare_lt_iff_lt.mpr hm, compare_lt_iff_lt.mpr]
      gcongr
    · rw [compare_eq_iff_eq.mpr rfl, compare_eq_iff_eq.mpr rfl]
    · rw [compare_gt_iff_gt.mpr hm, compare_gt_iff_gt.mpr]
      gcongr
  · rw [compare_gt_iff_gt.mpr he, compare_gt_iff_gt.mpr (below h₂ h₁ he)]
    rfl


theorem compare_neg_neg (a b : ℚ) :
  compare (-a) (-b) = (compare a b).swap
  := by
  rcases lt_trichotomy a b with h | rfl | h
  · rw [compare_lt_iff_lt.mpr h, compare_gt_iff_gt.mpr (neg_lt_neg h)]
    rfl
  · rw [compare_eq_iff_eq.mpr rfl, compare_eq_iff_eq.mpr rfl]
    rfl
  · rw [compare_gt_iff_gt.mpr h, compare_lt_iff_lt.mpr (neg_lt_neg h)]
    rfl

/-- On finite floats in canonical form the comparison of the float model compares values. -/
theorem compare_eq_some {u v : UnpackedFloat} (hu : Packable u) (hv : Packable v)
    (hfu : u.isFinite = true) (hfv : v.isFinite = true) :
  u.compare v = some (compare (unpackedValue u) (unpackedValue v))
  := by
  have pos {m : ℕ} {e : ℤ} (hm : 0 < m) : (0 : ℚ) < (m : ℚ) * 2 ^ e :=
    mul_pos (by exact_mod_cast hm) (two_zpow_pos e)
  cases u with
  | infinity => simp [UnpackedFloat.isFinite] at hfu
  | notANumber => simp [UnpackedFloat.isFinite] at hfu
  | zero s =>
    cases v with
    | infinity => simp [UnpackedFloat.isFinite] at hfv
    | notANumber => simp [UnpackedFloat.isFinite] at hfv
    | zero s' => simp [UnpackedFloat.compare, unpackedValue]
    | finite s' m' e' hm' =>
      cases s' <;> simp [UnpackedFloat.compare, unpackedValue, Sign.apply]
      · exact (compare_gt_iff_gt.mpr (by linarith [pos (e := e') hm'])).symm
      · exact (compare_lt_iff_lt.mpr (pos hm')).symm
  | finite s m e hm =>
    cases v with
    | infinity => simp [UnpackedFloat.isFinite] at hfv
    | notANumber => simp [UnpackedFloat.isFinite] at hfv
    | zero s' =>
      cases s <;> simp [UnpackedFloat.compare, unpackedValue, Sign.apply]
      · exact (compare_lt_iff_lt.mpr (by linarith [pos (e := e) hm])).symm
      · exact (compare_gt_iff_gt.mpr (pos hm)).symm
    | finite s' m' e' hm' =>
      have hc := compare_canonical hu hv
      cases s <;> cases s' <;> simp [UnpackedFloat.compare, unpackedValue, Sign.apply]
      · rw [hc, compare_neg_neg]
      · exact (compare_lt_iff_lt.mpr (by linarith [pos (e := e) hm, pos (e := e') hm'])).symm
      · exact (compare_gt_iff_gt.mpr (by linarith [pos (e := e) hm, pos (e := e') hm'])).symm
      · exact hc

/-- Finite doubles compare as their values. -/
theorem lt_iff_value_lt {a b : Float} (ha : a.isFinite = true) (hb : b.isFinite = true) :
  a < b ↔ value a < value b
  := by
  have h := compare_eq_some (packable_unpack a.toModel) (packable_unpack b.toModel) ha hb
  show (decide (a.toModel.unpack.lt b.toModel.unpack = true)) = true ↔ _
  simp only [decide_eq_true_eq, UnpackedFloat.lt, h]
  simp [value, compare_lt_iff_lt]

theorem le_iff_value_le {a b : Float} (ha : a.isFinite = true) (hb : b.isFinite = true) :
  a ≤ b ↔ value a ≤ value b
  := by
  have h := compare_eq_some (packable_unpack a.toModel) (packable_unpack b.toModel) ha hb
  show (decide (a.toModel.unpack.le b.toModel.unpack = true)) = true ↔ _
  simp only [decide_eq_true_eq, UnpackedFloat.le, h]
  simp [value, Ordering.isLE_iff_ne_gt, compare_le_iff_le]

theorem isFinite_iff (x : Float) :
  Payout.isFinite x = true ↔ x.toModel.unpack.isFinite = true
  := by
  show (!x.toModel.unpack.isNaN && !x.toModel.unpack.isInf) = true ↔ _
  cases x.toModel.unpack <;> simp [UnpackedFloat.isNaN, UnpackedFloat.isInf, UnpackedFloat.isFinite]

end Payout.Double
