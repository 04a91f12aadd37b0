import Payout.Proofs.Double.Encoding

/-!
# Arithmetic of doubles

Every operation of the float model computes an exact result as a significand, an exponent and
an accuracy (how much of the exact value a truncated significand leaves out), then rounds it
with `roundWithAccuracy`. This module proves that this rounding is `roundDouble` on the exact
value, and that packing the rounded form overflows exactly when the rounded value reaches
`2 ^ 1024`. From it, each of addition, subtraction, multiplication and division of finite
doubles delivers the rounded exact result (`Delivers`).
-/

open Float.Model Float.Model.UnpackedFloat

namespace Payout.Double

/-! ### Truncated significands -/

/-- How an accuracy records the fraction that a truncated significand leaves out: none, less
than a half, a half, or more than a half. Each is stated as two bounds on the fraction. -/
def Records : Accuracy → ℚ → Prop
  | .exact, f => 0 ≤ f ∧ f ≤ 0
  | .inexact .lt, f => 0 < f ∧ f < 1 / 2
  | .inexact .eq, f => 1 / 2 ≤ f ∧ f ≤ 1 / 2
  | .inexact .gt, f => 1 / 2 < f ∧ f < 1

theorem Records.nonneg {acc : Accuracy} {f : ℚ} (h : Records acc f) :
  0 ≤ f
  := by
  rcases acc with _ | _ | _ | _ <;> simp only [Records] at h <;> linarith [h.1]

theorem Records.lt_one {acc : Accuracy} {f : ℚ} (h : Records acc f) :
  f < 1
  := by
  rcases acc with _ | _ | _ | _ <;> simp only [Records] at h <;> linarith [h.2]

/-- An extended significand truncates `y`: its significand is the whole part of `y` and its
round and sticky bits record the fraction. -/
def Truncates (em : ExtendedMantissa) (y : ℚ) : Prop :=
  Records em.accuracy (y - em.mantissa)

theorem accuracy_ofMantissaAndAccuracy (m : ℕ) (acc : Accuracy) :
  (ExtendedMantissa.ofMantissaAndAccuracy m acc).accuracy = acc
  := by
  rcases acc with _ | _ | _ | _ <;> rfl

theorem mantissa_ofMantissaAndAccuracy (m : ℕ) (acc : Accuracy) :
  (ExtendedMantissa.ofMantissaAndAccuracy m acc).mantissa = m
  := by
  rcases acc with _ | _ | _ | _ <;> rfl

/-- Shifting right by one halves the truncated value: the bit shifted out becomes the round
bit, and the old round and sticky bits the sticky bit. -/
theorem Truncates.shiftRightOne {em : ExtendedMantissa} {y : ℚ} (h : Truncates em y) :
  Truncates em.shiftRightOne (y / 2)
  := by
  obtain ⟨m, r, st⟩ := em
  obtain ⟨q, rfl | rfl⟩ := Nat.even_or_odd' m
  · have hq : 2 * q / 2 = q := by omega
    have hr : 2 * q % 2 = 0 := by omega
    cases r <;> cases st <;>
      simp only [Truncates, Records, ExtendedMantissa.shiftRightOne, ExtendedMantissa.accuracy,
        hq, hr, bne_self_eq_false, Bool.or_false, Bool.or_true] at h ⊢ <;>
      push_cast at h ⊢ <;> constructor <;> linarith [h.1, h.2]
  · have hq : (2 * q + 1) / 2 = q := by omega
    have hr : (2 * q + 1) % 2 = 1 := by omega
    cases r <;> cases st <;>
      simp only [Truncates, Records, ExtendedMantissa.shiftRightOne, ExtendedMantissa.accuracy,
        hq, hr, Bool.or_false, Bool.or_true] at h ⊢ <;>
      push_cast at h ⊢ <;> constructor <;> linarith [h.1, h.2]

theorem Truncates.shiftRight {em : ExtendedMantissa} {y : ℚ} (h : Truncates em y) (k : ℕ) :
  Truncates (em >>> k) (y / 2 ^ k)
  := by
  change Truncates (k.repeat ExtendedMantissa.shiftRightOne em) _
  induction k with
  | zero => simpa [Nat.repeat] using h
  | succ k ih =>
    rw [Nat.repeat, pow_succ, ← div_div]
    exact ih.shiftRightOne

/-- Rounding a truncated significand by its round and sticky bits is rounding the truncated value to
the nearest integer, ties to even. The four cases are an exact significand, a remainder below a
half, a half, which goes to the even neighbour, and one above a half. -/
theorem Truncates.roundedMantissa {em : ExtendedMantissa} {y : ℚ} (h : Truncates em y) :
  (em.roundedMantissa : ℤ) = roundEven y
  := by
  obtain ⟨m, r, st⟩ := em
  refine (roundEven_eq_of_isNearestEven ?_).symm
  cases r <;> cases st <;>
    simp only [Truncates, Records, ExtendedMantissa.roundedMantissa, ExtendedMantissa.accuracy,
      Accuracy.roundToNearestEven] at h ⊢
  · have hy : (m : ℚ) - y = 0 := by linarith [h.1, h.2]
    refine ⟨by rw [Int.cast_natCast, hy]; norm_num, fun he => ?_⟩
    rw [Int.cast_natCast, hy] at he
    norm_num at he
  · refine ⟨by rw [Int.cast_natCast, abs_le]; constructor <;> linarith [h.1, h.2], fun he => ?_⟩
    rw [Int.cast_natCast, abs_of_nonpos (by linarith [h.1])] at he
    linarith [h.2]
  · have hy : y = m + 1 / 2 := by linarith [h.1, h.2]
    rcases Nat.mod_two_eq_zero_or_one m with hm | hm
    · have hcast : (((m + m % 2 : ℕ) : ℤ) : ℚ) - y = -(1 / 2) := by
        rw [hm, hy]; push_cast; ring
      exact ⟨by rw [hcast]; norm_num, fun _ => by omega⟩
    · have hcast : (((m + m % 2 : ℕ) : ℤ) : ℚ) - y = 1 / 2 := by
        rw [hm, hy]; push_cast; ring
      exact ⟨by rw [hcast]; norm_num, fun _ => by omega⟩
  · refine ⟨by push_cast; rw [abs_le]; constructor <;> linarith [h.1, h.2], fun he => ?_⟩
    push_cast at he
    rw [abs_of_nonneg (by linarith [h.2])] at he
    linarith [h.1]

theorem truncates_ofMantissaAndAccuracy {m : ℕ} {acc : Accuracy} {y : ℚ}
    (h : Records acc (y - m)) :
  Truncates (ExtendedMantissa.ofMantissaAndAccuracy m acc) y
  := by
  rw [Truncates, accuracy_ofMantissaAndAccuracy, mantissa_ofMantissaAndAccuracy]
  exact h

/-! ### Rounding in the float model -/

/-- A rational with a sign. -/
def signed : Sign → ℚ → ℚ
  | .positive, q => q
  | .negative, q => -q

theorem unpackedValue_finite (s : Sign) {m : ℕ} {e : ℤ} (hm : 0 < m) :
  unpackedValue (.finite s m e hm) = signed s (m * 2 ^ e)
  := by
  cases s <;> simp [unpackedValue, signed, Sign.apply]

theorem roundDouble_signed (s : Sign) (q : ℚ) :
  roundDouble (signed s q) = signed s (roundDouble q)
  := by
  cases s <;> simp [signed]

theorem abs_signed (s : Sign) (q : ℚ) :
  |signed s q| = |q|
  := by
  cases s <;> simp [signed]

/-- An unpacked result delivers the exact value `q` when it is the double nearest `q`: a finite
float of value `roundDouble q` when that is below `2 ^ 1024` in magnitude, and otherwise the
infinity of `q`'s sign. -/
def Delivers (u : UnpackedFloat) (q : ℚ) : Prop :=
  if |roundDouble q| < 2 ^ (1024 : ℤ) then u.isFinite = true ∧ unpackedValue u = roundDouble q
  else u = .infinity (if q < 0 then .negative else .positive)

theorem Delivers.finite {u : UnpackedFloat} {q : ℚ} (h : Delivers u q)
    (hq : |roundDouble q| < 2 ^ (1024 : ℤ)) :
  u.isFinite = true ∧ unpackedValue u = roundDouble q
  := by
  rw [Delivers, if_pos hq] at h
  exact h

/-- A finite result means the rounded value stayed below the overflow bound. -/
theorem Delivers.bound {u : UnpackedFloat} {q : ℚ} (h : Delivers u q) (hf : u.isFinite = true) :
  |roundDouble q| < 2 ^ (1024 : ℤ)
  := by
  by_contra hq
  rw [Delivers, if_neg hq] at h
  rw [h] at hf
  simp [UnpackedFloat.isFinite] at hf

theorem Delivers.unpackedValue_eq {u : UnpackedFloat} {q : ℚ} (h : Delivers u q)
    (hf : u.isFinite = true) :
  unpackedValue u = roundDouble q
  := (h.finite (h.bound hf)).2

theorem targetExponent_binary64 (n : ℤ) :
  Format.binary64.targetExponent n = max (n - 53) (-1074)
  := by
  simp [Format.targetExponent, Format.mantissaBits, Format.minExponent]

/-- The float model rounds at the last place of the exact value: the leading digit of a nonzero
truncated significand is that of the value, and a zero one is only given at an exponent not
above the value's last place. -/
theorem targetExponent_eq_lastPlace {x : ℚ} (hx : 0 < x) {m : ℕ} {e : ℤ} {acc : Accuracy}
    (hrec : Records acc (x / 2 ^ e - m)) (he : 0 < m ∨ e ≤ lastPlace x) :
  Format.binary64.targetExponent (totalExponent m e) = lastPlace x
  := by
  have hp := two_zpow_pos e
  have hlo : (m : ℚ) * 2 ^ e ≤ x := by
    have := hrec.nonneg
    rw [← le_div_iff₀ hp]
    linarith
  have hhi : x < ((m : ℚ) + 1) * 2 ^ e := by
    have := hrec.lt_one
    rw [← div_lt_iff₀ hp]
    linarith
  rw [targetExponent_binary64, totalExponent]
  rcases Nat.eq_zero_or_pos m with rfl | hm
  · have he := he.resolve_left (lt_irrefl 0)
    unfold lastPlace at he ⊢
    rw [abs_of_pos hx] at he ⊢
    have hlog := (Int.lt_zpow_iff_log_lt (b := 2) (by norm_num) hx).mp
      (by simpa using hhi)
    simp only [Nat.log2_zero, Nat.cast_zero]
    omega
  · have hlog : Int.log 2 x = (m.log2 : ℤ) + e := by
      apply log_eq_of_bounds
      · calc (2 : ℚ) ^ ((m.log2 : ℤ) + e) = (2 ^ m.log2 : ℕ) * 2 ^ e := by
              rw [zpow_add₀ two_ne_zero, zpow_natCast]; push_cast; ring
          _ ≤ (m : ℚ) * 2 ^ e := by
              gcongr
              exact_mod_cast Nat.log2_self_le hm.ne'
          _ ≤ x := hlo
      · calc x < ((m : ℚ) + 1) * 2 ^ e := hhi
          _ ≤ (2 ^ (m.log2 + 1) : ℕ) * 2 ^ e := by
              gcongr
              exact_mod_cast Nat.lt_log2_self
          _ = 2 ^ ((m.log2 : ℤ) + e + 1) := by
              rw [add_right_comm, zpow_add₀ two_ne_zero, ← Nat.cast_succ, zpow_natCast]
              push_cast
              rfl
    unfold lastPlace
    rw [abs_of_pos hx, hlog]
    omega

/-- The first shift of `roundWithAccuracy` truncates the exact value at its last place. -/
theorem shiftToTargetExponent_truncates {x : ℚ} (hx : 0 < x) {m : ℕ} {e : ℤ} {acc : Accuracy}
    (hrec : Records acc (x / 2 ^ e - m)) (he : e ≤ lastPlace x) :
  Truncates (shiftToTargetExponent Format.binary64 m e acc).1 (x / 2 ^ lastPlace x) ∧
    (shiftToTargetExponent Format.binary64 m e acc).2 = lastPlace x
  := by
  have ht := targetExponent_eq_lastPlace hx hrec (Or.inr he)
  have hk : ((lastPlace x - e).toNat : ℤ) = lastPlace x - e := Int.toNat_of_nonneg (by omega)
  simp only [shiftToTargetExponent, shiftToExponent, ht]
  refine ⟨?_, by omega⟩
  have h := (truncates_ofMantissaAndAccuracy hrec).shiftRight (lastPlace x - e).toNat
  rwa [div_div, ← zpow_natCast, hk, ← zpow_add₀ two_ne_zero, add_sub_cancel] at h

/-- The second shift of `roundWithAccuracy` only takes the carry of a significand rounded up to
`2 ^ 53`, and loses nothing. -/
theorem shiftToTargetExponent_carry {r : ℕ} {t : ℤ} (hr : r ≤ 2 ^ 53) (ht : -1074 ≤ t) :
  shiftToTargetExponent Format.binary64 r t .exact =
    if r < 2 ^ 53 then (⟨r, false, false⟩, t) else (⟨2 ^ 52, false, false⟩, t + 1)
  := by
  rcases hr.lt_or_eq with hlt | rfl
  · have hlog : r.log2 ≤ 52 := by
      rcases Nat.eq_zero_or_pos r with rfl | hr0
      · simp
      · have := (Nat.log2_lt hr0.ne').mpr hlt
        omega
    have hk : (Format.binary64.targetExponent (totalExponent r t) - t).toNat = 0 := by
      rw [targetExponent_binary64, totalExponent]
      omega
    simp only [shiftToTargetExponent, shiftToExponent, hk, if_pos hlt, Nat.cast_zero, add_zero]
    rfl
  · have hk : (Format.binary64.targetExponent (totalExponent (2 ^ 53) t) - t).toNat = 1 := by
      rw [targetExponent_binary64, totalExponent, Nat.log2_two_pow]
      omega
    simp only [shiftToTargetExponent, shiftToExponent, hk, lt_irrefl, if_false]
    rfl

theorem delivers_pack_zero {q : ℚ} (hq : roundDouble q = 0) (s : Sign) :
  Delivers (Float.Model.pack (.zero s)).unpack q
  := by
  rw [unpack_pack_zero, Delivers, if_pos (by rw [hq]; norm_num), hq]
  exact ⟨rfl, rfl⟩

/-- Packing a finite float with a canonical significand delivers its value, and overflows to
the infinity of its sign exactly when the value reaches `2 ^ 1024`. -/
theorem delivers_pack_finite {s : Sign} {M : ℕ} {E : ℤ} (hM : 0 < M) (hlt : M < 2 ^ 53)
    (hE : -1074 ≤ E) (hn : 2 ^ 52 ≤ M ∨ E = -1074) {q : ℚ}
    (hq : roundDouble q = signed s (M * 2 ^ E)) (hsign : q < 0 ↔ s = .negative) :
  Delivers (Float.Model.pack (.finite s M E hM)).unpack q
  := by
  have hv : |roundDouble q| = M * 2 ^ E := by
    rw [hq, abs_signed, abs_of_pos (mul_pos (by exact_mod_cast hM) (two_zpow_pos E))]
  by_cases hE' : E ≤ 971
  · have hbound : |roundDouble q| < 2 ^ (1024 : ℤ) := by
      rw [hv]
      calc (M : ℚ) * 2 ^ E < 2 ^ 53 * 2 ^ E := by
            gcongr
            exact_mod_cast hlt
        _ = 2 ^ (E + 53) := by rw [zpow_add₀ two_ne_zero, mul_comm]; norm_cast
        _ ≤ 2 ^ (1024 : ℤ) := zpow_le_zpow_right₀ (by norm_num) (by omega)
    have hc : Packable (.finite s M E hM) := (⟨hlt, hE, hE', hn⟩ : Canonical M E)
    rw [unpack_pack_of_packable hc, Delivers, if_pos hbound]
    exact ⟨rfl, by rw [unpackedValue_finite, hq]⟩
  · have hnormal : 2 ^ 52 ≤ M := hn.resolve_right (by omega)
    have hbound : ¬|roundDouble q| < 2 ^ (1024 : ℤ) := by
      rw [hv, not_lt]
      calc (2 : ℚ) ^ (1024 : ℤ) = 2 ^ ((972 : ℤ) + 52) := by norm_num
        _ ≤ 2 ^ (E + 52) := zpow_le_zpow_right₀ (by norm_num) (by omega)
        _ = 2 ^ 52 * 2 ^ E := by rw [zpow_add₀ two_ne_zero, mul_comm]; norm_cast
        _ ≤ M * 2 ^ E := by
            gcongr
            exact_mod_cast hnormal
    rw [unpack_pack_overflow s hM (by omega), Delivers, if_neg hbound]
    cases s <;> simp_all

/-- Rounding in the float model: for a positive exact value given by a truncated significand at an
exponent not above its last place, `roundWithAccuracy` delivers the value with its sign. The rounded
significand is at most `2 ^ 53`, and at least `2 ^ 52` for a normal value; rounded up to `2 ^ 53`,
the carry moves to the next exponent. -/
theorem delivers_roundWithAccuracy {x : ℚ} (hx : 0 < x) {m : ℕ} {e : ℤ} {acc : Accuracy}
    (hrec : Records acc (x / 2 ^ e - m)) (he : e ≤ lastPlace x) (s : Sign) :
  Delivers (Float.Model.pack (roundWithAccuracy Format.binary64 s m e acc)).unpack (signed s x)
  := by
  obtain ⟨htr, hexp⟩ := shiftToTargetExponent_truncates hx hrec he
  have hp := two_zpow_pos (lastPlace x)
  have hr := htr.roundedMantissa
  have hle : (shiftToTargetExponent Format.binary64 m e acc).1.roundedMantissa ≤ 2 ^ 53 := by
    have hq : x / 2 ^ lastPlace x ≤ ((2 ^ 53 : ℤ) : ℚ) := by
      rw [div_le_iff₀ hp]
      have := lt_two_zpow_lastPlace x
      rw [abs_of_pos hx, zpow_add₀ two_ne_zero] at this
      push_cast
      linarith
    have := roundEven_le_of_le hq
    omega
  have hnormal : lastPlace x ≠ -1074 →
      2 ^ 52 ≤ (shiftToTargetExponent Format.binary64 m e acc).1.roundedMantissa := by
    intro hn
    have hq : ((2 ^ 52 : ℤ) : ℚ) ≤ x / 2 ^ lastPlace x := by
      rw [le_div_iff₀ hp]
      have := two_zpow_lastPlace_le_of_normal hx.ne' hn
      rw [abs_of_pos hx, zpow_add₀ two_ne_zero] at this
      push_cast
      linarith
    have := le_roundEven_of_le hq
    omega
  have hround : roundDouble x =
      ((shiftToTargetExponent Format.binary64 m e acc).1.roundedMantissa : ℚ) * 2 ^ lastPlace x := by
    rw [roundDouble]
    congr 1
    exact_mod_cast hr.symm
  have hsign : signed s x < 0 ↔ s = .negative := by
    cases s <;> simp [signed, hx, hx.le, not_lt.mpr]
  generalize hfirst : shiftToTargetExponent Format.binary64 m e acc = first at *
  obtain ⟨em, e₁⟩ := first
  dsimp only at hexp hle hnormal hround
  subst hexp
  rw [roundWithAccuracy, hfirst]
  dsimp only
  rw [shiftToTargetExponent_carry hle (min_le_lastPlace x)]
  split_ifs with hsmall hzero hzero'
  · apply delivers_pack_zero
    rw [roundDouble_signed, hround, show em.roundedMantissa = 0 from hzero]
    cases s <;> simp [signed]
  · apply delivers_pack_finite _ hsmall (min_le_lastPlace x) _ _ hsign
    · by_cases hn : lastPlace x = -1074
      · exact Or.inr hn
      · exact Or.inl (hnormal hn)
    · rw [roundDouble_signed, hround]
  · exact hzero'.elim
  · have h53 : em.roundedMantissa = 2 ^ 53 := by omega
    apply delivers_pack_finite _ (by norm_num) (by have := min_le_lastPlace x; omega)
      (Or.inl le_rfl) _ hsign
    rw [roundDouble_signed, hround, h53, zpow_add₀ two_ne_zero]
    congr 1
    push_cast
    ring

/-! ### Finite doubles deliver themselves -/

/-- A value with 53 digits at `2 ^ e` or above has a last place of at least `e`. -/
theorem le_lastPlace_of_le {x : ℚ} (hx : 0 < x) {e : ℤ} (h : (2 : ℚ) ^ (e + 52) ≤ x) :
  e ≤ lastPlace x
  := by
  have hlog := (Int.zpow_le_iff_le_log (b := 2) (by norm_num) hx).mp (by exact_mod_cast h)
  unfold lastPlace
  rw [abs_of_pos hx]
  omega

theorem abs_unpackedValue_lt {u : UnpackedFloat} (hu : Packable u) :
  |unpackedValue u| < 2 ^ (1024 : ℤ)
  := by
  cases u with
  | finite s m e hm =>
    have hc : Canonical m e := hu
    rw [unpackedValue_finite, abs_signed, abs_of_pos (mul_pos (by exact_mod_cast hm) (two_zpow_pos e))]
    calc (m : ℚ) * 2 ^ e < 2 ^ 53 * 2 ^ e := by
          gcongr
          exact_mod_cast hc.lt
      _ = 2 ^ (e + 53) := by rw [zpow_add₀ two_ne_zero, mul_comm]; norm_cast
      _ ≤ 2 ^ (1024 : ℤ) := zpow_le_zpow_right₀ (by norm_num) (by have := hc.le_max; omega)
  | _ => simp [unpackedValue]

theorem roundDouble_unpackedValue {u : UnpackedFloat} (hu : Packable u) :
  roundDouble (unpackedValue u) = unpackedValue u
  := by
  cases u with
  | finite s m e hm =>
    have hc : Canonical m e := hu
    have hk : |(m : ℤ)| < 2 ^ 53 := by rw [abs_of_nonneg (by omega)]; exact_mod_cast hc.lt
    rw [unpackedValue_finite, roundDouble_signed]
    congr 1
    exact_mod_cast roundDouble_eq_self hk hc.min_le
  | _ => simp [unpackedValue]

/-- A finite double delivers its own value. -/
theorem delivers_self {u : UnpackedFloat} (hu : Packable u) (hf : u.isFinite = true) :
  Delivers u (unpackedValue u)
  := by
  rw [Delivers, roundDouble_unpackedValue hu, if_pos (abs_unpackedValue_lt hu)]
  exact ⟨hf, rfl⟩

/-! ### Multiplication -/

theorem signed_mul_signed (s₁ s₂ : Sign) (a b : ℚ) :
  signed s₁ a * signed s₂ b = signed (s₁ * s₂) (a * b)
  := by
  cases s₁ <;> cases s₂ <;> simp only [signed] <;> ring_nf

/-- Multiplying two finite floats of the model delivers their exact product. The product of
canonical significands has 53 digits, unless both are subnormal. -/
theorem delivers_mul_unpacked {u v : UnpackedFloat} (hu : Packable u) (hv : Packable v)
    (hfu : u.isFinite = true) (hfv : v.isFinite = true) :
  Delivers (Float.Model.pack (UnpackedFloat.mul Format.binary64 u v)).unpack
    (unpackedValue u * unpackedValue v)
  := by
  cases u with
  | infinity => simp [UnpackedFloat.isFinite] at hfu
  | notANumber => simp [UnpackedFloat.isFinite] at hfu
  | zero s =>
    cases v with
    | infinity => simp [UnpackedFloat.isFinite] at hfv
    | notANumber => simp [UnpackedFloat.isFinite] at hfv
    | zero s' => exact delivers_pack_zero (by simp [unpackedValue]) _
    | finite s' m' e' hm' => exact delivers_pack_zero (by simp [unpackedValue]) _
  | finite s m e hm =>
    cases v with
    | infinity => simp [UnpackedFloat.isFinite] at hfv
    | notANumber => simp [UnpackedFloat.isFinite] at hfv
    | zero s' => exact delivers_pack_zero (by simp [unpackedValue]) _
    | finite s' m' e' hm' =>
      have hc : Canonical m e := hu
      have hc' : Canonical m' e' := hv
      have hpos : (0 : ℚ) < (m * m' : ℕ) * 2 ^ (e + e') :=
        mul_pos (by exact_mod_cast Nat.mul_pos hm hm') (two_zpow_pos _)
      have hrec : Records .exact (((m * m' : ℕ) : ℚ) * 2 ^ (e + e') / 2 ^ (e + e') - (m * m' : ℕ)) := by
        rw [mul_div_cancel_right₀ _ (two_zpow_pos _).ne', sub_self]
        exact ⟨le_rfl, le_rfl⟩
      have he : e + e' ≤ lastPlace ((m * m' : ℕ) * 2 ^ (e + e')) := by
        by_cases hn : 2 ^ 52 ≤ m * m'
        · apply le_lastPlace_of_le hpos
          rw [add_comm (e + e'), zpow_add₀ two_ne_zero]
          gcongr
          exact_mod_cast hn
        · have h₁ : e = -1074 := hc.normal.resolve_left fun h => hn (le_mul_of_le_of_one_le h hm')
          have h₂ : e' = -1074 := hc'.normal.resolve_left fun h => hn (le_mul_of_one_le_of_le hm h)
          have := min_le_lastPlace ((m * m' : ℕ) * 2 ^ (e + e') : ℚ)
          omega
      have hval : signed s (m * 2 ^ e) * signed s' (m' * 2 ^ e') =
          signed (s * s') ((m * m' : ℕ) * 2 ^ (e + e')) := by
        rw [signed_mul_signed]
        congr 1
        push_cast
        rw [zpow_add₀ two_ne_zero]
        ring
      rw [unpackedValue_finite, unpackedValue_finite, hval]
      exact delivers_roundWithAccuracy hpos hrec he (s * s')

/-- The product of two finite doubles is their exact product, rounded. -/
theorem delivers_mul {a b : Float} (ha : a.toModel.unpack.isFinite = true)
    (hb : b.toModel.unpack.isFinite = true) :
  Delivers (a * b).toModel.unpack (value a * value b)
  := delivers_mul_unpacked (packable_unpack _) (packable_unpack _) ha hb

/-! ### Division -/

theorem signed_div_signed (s₁ s₂ : Sign) (a b : ℚ) :
  signed s₁ a / signed s₂ b = signed (s₁ / s₂) (a / b)
  := by
  cases s₁ <;> cases s₂ <;> simp only [signed] <;> ring_nf <;> rfl

/-- The accuracy of a remainder records the fraction it is of the divisor. -/
theorem records_accuracyOfFraction {r d : ℕ} (hr : r < d) :
  Records (accuracyOfFraction r d) (r / d)
  := by
  have hd : (0 : ℚ) < d := by exact_mod_cast (Nat.zero_le r).trans_lt hr
  have hlt : (r : ℚ) / d < 1 := by rw [div_lt_one hd]; exact_mod_cast hr
  unfold accuracyOfFraction
  split_ifs with h0
  · subst h0
    simp [Records]
  · have hpos : (0 : ℚ) < r / d := div_pos (by exact_mod_cast Nat.pos_of_ne_zero h0) hd
    rcases lt_trichotomy (2 * r) d with h | h | h
    · rw [compare_lt_iff_lt.mpr h]
      refine ⟨hpos, ?_⟩
      rw [div_lt_iff₀ hd]
      have : (2 * r : ℚ) < d := by exact_mod_cast h
      linarith
    · rw [compare_eq_iff_eq.mpr h]
      have : (d : ℚ) = 2 * r := by exact_mod_cast h.symm
      rw [this]
      constructor <;> field_simp <;> norm_num
    · rw [compare_gt_iff_gt.mpr h]
      refine ⟨?_, hlt⟩
      rw [lt_div_iff₀ hd]
      have : (d : ℚ) < 2 * r := by exact_mod_cast h
      linarith

/-- The quotient of two finite canonical significands: `divCore` truncates it at an exponent not
above its last place. The scaled quotient is the whole quotient plus the remainder's fraction, and
its leading digit is at most one below the difference of the leading digits. -/
theorem divCore_truncates {m m' : ℕ} {e e' : ℤ} (hm : 0 < m) (hm' : 0 < m') :
  let x := ((m : ℚ) * 2 ^ e) / ((m' : ℚ) * 2 ^ e')
  let d := divCore Format.binary64 m e m' e'
  Records d.2.2 (x / 2 ^ d.2.1 - d.1) ∧ d.2.1 ≤ lastPlace x
  := by
  intro x d
  have hx : 0 < x := div_pos (mul_pos (by exact_mod_cast hm) (two_zpow_pos e))
    (mul_pos (by exact_mod_cast hm') (two_zpow_pos e'))
  have hd' : (0 : ℚ) < m' := by exact_mod_cast hm'
  set t := min (e - e') (Format.binary64.targetExponent (totalExponent m e - totalExponent m' e'))
    with ht
  have hk : (((e - e' - t).toNat : ℕ) : ℤ) = e - e' - t := Int.toNat_of_nonneg (by omega)
  have hd : d = ((m * 2 ^ (e - e' - t).toNat) / m', t,
      accuracyOfFraction ((m * 2 ^ (e - e' - t).toNat) % m') m') := by
    simp only [d, divCore, Nat.shiftLeft_eq, ht]
  rw [hd]
  dsimp only
  constructor
  · have hscaled : x / 2 ^ t = ((m * 2 ^ (e - e' - t).toNat : ℕ) : ℚ) / m' := by
      simp only [x]
      push_cast
      rw [← zpow_natCast, hk]
      field_simp
      rw [← zpow_add₀ two_ne_zero, ← zpow_add₀ two_ne_zero]
      ring_nf
    have hsplit := Nat.div_add_mod (m * 2 ^ (e - e' - t).toNat) m'
    have hfrac : x / 2 ^ t - (((m * 2 ^ (e - e' - t).toNat) / m' : ℕ) : ℚ) =
        (((m * 2 ^ (e - e' - t).toNat) % m' : ℕ) : ℚ) / m' := by
      rw [hscaled, eq_div_iff hd'.ne', sub_mul, div_mul_cancel₀ _ hd'.ne']
      nth_rewrite 1 [← hsplit]
      push_cast
      ring
    rw [hfrac]
    exact records_accuracyOfFraction (Nat.mod_lt _ hm')
  · have hlow : (2 : ℚ) ^ ((m.log2 : ℤ) + e - (m'.log2 + 1 + e')) ≤ x := by
      have h₁ : (2 : ℚ) ^ ((m.log2 : ℤ) + e) ≤ m * 2 ^ e := by
        rw [zpow_add₀ two_ne_zero, zpow_natCast]
        gcongr
        exact_mod_cast Nat.log2_self_le hm.ne'
      have h₂ : (m' : ℚ) * 2 ^ e' ≤ 2 ^ ((m'.log2 : ℤ) + 1 + e') := by
        rw [zpow_add₀ two_ne_zero, ← Nat.cast_succ, zpow_natCast]
        gcongr
        exact_mod_cast (Nat.lt_log2_self).le
      rw [zpow_sub₀ two_ne_zero]
      exact div_le_div₀ (by positivity) h₁ (mul_pos hd' (two_zpow_pos e')) h₂
    have hlog := (Int.zpow_le_iff_le_log (b := 2) (by norm_num) hx).mp (by exact_mod_cast hlow)
    have htle : t ≤ Format.binary64.targetExponent (totalExponent m e - totalExponent m' e') :=
      min_le_right _ _
    rw [targetExponent_binary64, totalExponent, totalExponent] at htle
    unfold lastPlace
    rw [abs_of_pos hx]
    omega

theorem delivers_div_unpacked {u v : UnpackedFloat} (hu : Packable u) (hfu : u.isFinite = true)
    (hfv : v.isFinite = true) (hv : unpackedValue v ≠ 0) :
  Delivers (Float.Model.pack (UnpackedFloat.div Format.binary64 u v)).unpack
    (unpackedValue u / unpackedValue v)
  := by
  cases v with
  | infinity => simp [UnpackedFloat.isFinite] at hfv
  | notANumber => simp [UnpackedFloat.isFinite] at hfv
  | zero => simp [unpackedValue] at hv
  | finite s' m' e' hm' =>
    cases u with
    | infinity => simp [UnpackedFloat.isFinite] at hfu
    | notANumber => simp [UnpackedFloat.isFinite] at hfu
    | zero s => exact delivers_pack_zero (by simp [unpackedValue]) _
    | finite s m e hm =>
      obtain ⟨hrec, he⟩ := @divCore_truncates m m' e e' hm hm'
      have hx : (0 : ℚ) < m * 2 ^ e / (m' * 2 ^ e') :=
        div_pos (mul_pos (by exact_mod_cast hm) (two_zpow_pos e))
          (mul_pos (by exact_mod_cast hm') (two_zpow_pos e'))
      rw [unpackedValue_finite, unpackedValue_finite, signed_div_signed]
      exact delivers_roundWithAccuracy hx hrec he (s / s')

/-- The quotient of two finite doubles, the divisor nonzero, is their exact quotient,
rounded. -/
theorem delivers_div {a b : Float} (ha : a.toModel.unpack.isFinite = true)
    (hb : b.toModel.unpack.isFinite = true) (hb0 : value b ≠ 0) :
  Delivers (a / b).toModel.unpack (value a / value b)
  := delivers_div_unpacked (packable_unpack _) ha hb hb0

/-! ### Addition and subtraction -/

theorem cast_apply (s : Sign) (n : ℤ) :
  ((s.apply n : ℤ) : ℚ) = signed s n
  := by
  cases s <;> simp [Sign.apply, signed]

/-- Lowering the exponent to a target shifts the significand up and keeps the value. -/
theorem decreaseExponent_value (m : ℕ) (e t : ℤ) :
  ((decreaseExponent m e t).1 : ℚ) * 2 ^ (decreaseExponent m e t).2 = m * 2 ^ e ∧
    (decreaseExponent m e t).2 = min e t
  := by
  have hk : (((e - t).toNat : ℕ) : ℤ) = max (e - t) 0 := by omega
  refine ⟨?_, by simp only [decreaseExponent]; omega⟩
  simp only [decreaseExponent, Nat.shiftLeft_eq]
  push_cast
  rw [mul_assoc, ← zpow_natCast, ← zpow_add₀ two_ne_zero]
  ring_nf

/-- `round` lowers the exponent of an exact value to its last place and rounds there. -/
theorem delivers_round {n : ℕ} (hn : 0 < n) (e : ℤ) (s : Sign) :
  Delivers (Float.Model.pack (UnpackedFloat.round Format.binary64 s n e)).unpack
    (signed s (n * 2 ^ e))
  := by
  have hx : (0 : ℚ) < n * 2 ^ e := mul_pos (by exact_mod_cast hn) (two_zpow_pos e)
  have hexact : Records .exact ((n : ℚ) * 2 ^ e / 2 ^ e - n) := by
    rw [mul_div_cancel_right₀ _ (two_zpow_pos e).ne', sub_self]
    exact ⟨le_rfl, le_rfl⟩
  have ht := targetExponent_eq_lastPlace hx hexact (Or.inl hn)
  obtain ⟨hv, he⟩ := decreaseExponent_value n e (Format.binary64.targetExponent (totalExponent n e))
  rw [UnpackedFloat.round]
  dsimp only
  generalize decreaseExponent n e (Format.binary64.targetExponent (totalExponent n e)) = d at hv he ⊢
  obtain ⟨n', e'⟩ := d
  dsimp only at hv he ⊢
  rw [ht] at he
  rw [← hv]
  apply delivers_roundWithAccuracy (by rwa [hv]) _ (by rw [hv]; omega)
  rw [mul_div_cancel_right₀ _ (two_zpow_pos e').ne', sub_self]
  exact ⟨le_rfl, le_rfl⟩

/-- `normalize` rounds an integer significand of either sign. -/
theorem delivers_normalize (n : ℤ) (e : ℤ) :
  Delivers (Float.Model.pack (UnpackedFloat.normalize Format.binary64 n e .positive)).unpack
    (n * 2 ^ e)
  := by
  unfold UnpackedFloat.normalize
  rcases lt_trichotomy n 0 with h | rfl | h
  · rw [compare_lt_iff_lt.mpr h]
    have hv : (n : ℚ) * 2 ^ e = signed .negative (((-n).toNat : ℕ) * 2 ^ e) := by
      simp only [signed]
      rw [show (((-n).toNat : ℕ) : ℚ) = -n by exact_mod_cast Int.toNat_of_nonneg (by omega)]
      ring
    rw [hv]
    exact delivers_round (by omega) e .negative
  · exact delivers_pack_zero (by simp) _
  · rw [compare_gt_iff_gt.mpr h]
    have hv : (n : ℚ) * 2 ^ e = signed .positive ((n.toNat : ℕ) * 2 ^ e) := by
      simp only [signed]
      rw [show ((n.toNat : ℕ) : ℚ) = n by exact_mod_cast Int.toNat_of_nonneg (by omega)]
    rw [hv]
    exact delivers_round (by omega) e .positive

/-- Two finite floats are added as integer significands at the smaller exponent, and the sum is
normalized with a positive zero: the significand has the exact sum as its value. -/
theorem add_finite_finite (s s' : Sign) {m m' : ℕ} (e e' : ℤ) (hm : 0 < m) (hm' : 0 < m') :
  ∃ M : ℤ, UnpackedFloat.add Format.binary64 (.finite s m e hm) (.finite s' m' e' hm')
      = UnpackedFloat.normalize Format.binary64 M (min e e') .positive
    ∧ (M : ℚ) * 2 ^ (min e e')
      = unpackedValue (.finite s m e hm) + unpackedValue (.finite s' m' e' hm')
  := by
  obtain ⟨h₁, he₁⟩ := decreaseExponent_value m e (min e e')
  obtain ⟨h₂, he₂⟩ := decreaseExponent_value m' e' (min e e')
  refine ⟨s.apply ((decreaseExponent m e (min e e')).1 : ℤ)
    + s'.apply ((decreaseExponent m' e' (min e e')).1 : ℤ), rfl, ?_⟩
  rw [unpackedValue_finite, unpackedValue_finite, Int.cast_add, cast_apply, cast_apply,
    ← h₁, ← h₂, he₁, he₂, min_eq_right (min_le_left e e'), min_eq_right (min_le_right e e')]
  cases s <;> cases s' <;> simp only [signed] <;> push_cast <;> ring

theorem delivers_add_unpacked {u v : UnpackedFloat} (hu : Packable u) (hv : Packable v)
    (hfu : u.isFinite = true) (hfv : v.isFinite = true) :
  Delivers (Float.Model.pack (UnpackedFloat.add Format.binary64 u v)).unpack
    (unpackedValue u + unpackedValue v)
  := by
  cases u with
  | infinity => simp [UnpackedFloat.isFinite] at hfu
  | notANumber => simp [UnpackedFloat.isFinite] at hfu
  | zero s =>
    cases v with
    | infinity => simp [UnpackedFloat.isFinite] at hfv
    | notANumber => simp [UnpackedFloat.isFinite] at hfv
    | zero s' =>
      simp only [UnpackedFloat.add]
      split <;> exact delivers_pack_zero (by simp [unpackedValue]) _
    | finite s' m' e' hm' =>
      simp only [UnpackedFloat.add, unpackedValue, zero_add]
      rw [unpack_pack_of_packable hv]
      exact delivers_self hv hfv
  | finite s m e hm =>
    cases v with
    | infinity => simp [UnpackedFloat.isFinite] at hfv
    | notANumber => simp [UnpackedFloat.isFinite] at hfv
    | zero s' =>
      simp only [UnpackedFloat.add, unpackedValue, add_zero]
      rw [unpack_pack_of_packable hu]
      exact delivers_self hu hfu
    | finite s' m' e' hm' =>
      obtain ⟨M, hadd, hval⟩ := add_finite_finite s s' e e' hm hm'
      rw [hadd, ← hval]
      exact delivers_normalize _ _

/-- The sum of two finite doubles is their exact sum, rounded. -/
theorem delivers_add {a b : Float} (ha : a.toModel.unpack.isFinite = true)
    (hb : b.toModel.unpack.isFinite = true) :
  Delivers (a + b).toModel.unpack (value a + value b)
  := delivers_add_unpacked (packable_unpack _) (packable_unpack _) ha hb

theorem apply_neg_sign (s : Sign) (n : ℤ) :
  (-s).apply n = -s.apply n
  := by
  cases s
  · show n = -(-n)
    omega
  · rfl

/-- Subtraction in the float model is addition of the negation. -/
theorem sub_eq_add_unpackedNeg (spec : Format) (u v : UnpackedFloat) :
  UnpackedFloat.sub spec u v = UnpackedFloat.add spec u v.neg
  := by
  cases u <;> cases v <;>
    simp [UnpackedFloat.sub, UnpackedFloat.add, UnpackedFloat.neg, apply_neg_sign, sub_eq_add_neg]

/-- The difference of two finite doubles is their exact difference, rounded. -/
theorem delivers_sub {a b : Float} (ha : a.toModel.unpack.isFinite = true)
    (hb : b.toModel.unpack.isFinite = true) :
  Delivers (a - b).toModel.unpack (value a - value b)
  := by
  have h := delivers_add_unpacked (packable_unpack a.toModel) (packable_unpack b.toModel).neg ha
    (by rwa [isFinite_neg])
  rwa [unpackedValue_neg, ← sub_eq_add_neg, ← sub_eq_add_unpackedNeg] at h

/-! ### Finite results

The form in which the rest of the library uses the four operations: a finite result of finite
operands has the rounded exact value, and a result is finite as soon as that rounded value is
below `2 ^ 1024`. -/

section Results

variable {a b : Float}

theorem isFinite_eq (x : Float) :
  Payout.isFinite x = x.isFinite
  := Bool.eq_iff_iff.mpr (isFinite_iff x)

/-- The value of a double is a double: rounding keeps it. -/
theorem roundDouble_value (x : Float) :
  roundDouble (value x) = value x
  := roundDouble_unpackedValue (packable_unpack x.toModel)

theorem onGrid_value (x : Float) :
  OnGrid (value x)
  := by
  rw [← roundDouble_value]
  exact roundDouble_onGrid _

theorem value_add (ha : a.isFinite = true) (hb : b.isFinite = true) (h : (a + b).isFinite = true) :
  value (a + b) = roundDouble (value a + value b)
  := (delivers_add ha hb).unpackedValue_eq h

theorem isFinite_add (ha : a.isFinite = true) (hb : b.isFinite = true)
    (h : |roundDouble (value a + value b)| < 2 ^ (1024 : ℤ)) :
  (a + b).isFinite = true
  := ((delivers_add ha hb).finite h).1

theorem value_sub (ha : a.isFinite = true) (hb : b.isFinite = true) (h : (a - b).isFinite = true) :
  value (a - b) = roundDouble (value a - value b)
  := (delivers_sub ha hb).unpackedValue_eq h

theorem isFinite_sub (ha : a.isFinite = true) (hb : b.isFinite = true)
    (h : |roundDouble (value a - value b)| < 2 ^ (1024 : ℤ)) :
  (a - b).isFinite = true
  := ((delivers_sub ha hb).finite h).1

theorem value_mul (ha : a.isFinite = true) (hb : b.isFinite = true) (h : (a * b).isFinite = true) :
  value (a * b) = roundDouble (value a * value b)
  := (delivers_mul ha hb).unpackedValue_eq h

theorem isFinite_mul (ha : a.isFinite = true) (hb : b.isFinite = true)
    (h : |roundDouble (value a * value b)| < 2 ^ (1024 : ℤ)) :
  (a * b).isFinite = true
  := ((delivers_mul ha hb).finite h).1

theorem value_div (ha : a.isFinite = true) (hb : b.isFinite = true) (hb0 : value b ≠ 0)
    (h : (a / b).isFinite = true) :
  value (a / b) = roundDouble (value a / value b)
  := (delivers_div ha hb hb0).unpackedValue_eq h

theorem isFinite_div (ha : a.isFinite = true) (hb : b.isFinite = true) (hb0 : value b ≠ 0)
    (h : |roundDouble (value a / value b)| < 2 ^ (1024 : ℤ)) :
  (a / b).isFinite = true
  := ((delivers_div ha hb hb0).finite h).1

/-- NaN and the infinities absorb addition: a finite sum has finite terms. -/
theorem isFinite_of_isFinite_add (h : (a + b).isFinite = true) :
  a.isFinite = true ∧ b.isFinite = true
  := by
  change (Float.Model.pack (UnpackedFloat.add Format.binary64 a.toModel.unpack
    b.toModel.unpack)).unpack.isFinite = true at h
  change a.toModel.unpack.isFinite = true ∧ b.toModel.unpack.isFinite = true
  generalize a.toModel.unpack = u at h ⊢
  generalize b.toModel.unpack = v at h ⊢
  cases u <;> cases v <;> first
    | exact ⟨rfl, rfl⟩
    | (simp only [UnpackedFloat.add] at h
       try split_ifs at h
       all_goals simp [unpack_pack_notANumber, unpack_pack_infinity, UnpackedFloat.isFinite] at h)

/-- NaN and the infinities absorb multiplication: a finite product has finite factors. -/
theorem isFinite_of_isFinite_mul (h : (a * b).isFinite = true) :
  a.isFinite = true ∧ b.isFinite = true
  := by
  change (Float.Model.pack (UnpackedFloat.mul Format.binary64 a.toModel.unpack
    b.toModel.unpack)).unpack.isFinite = true at h
  change a.toModel.unpack.isFinite = true ∧ b.toModel.unpack.isFinite = true
  generalize a.toModel.unpack = u at h ⊢
  generalize b.toModel.unpack = v at h ⊢
  cases u <;> cases v <;> first
    | exact ⟨rfl, rfl⟩
    | simp [UnpackedFloat.mul, unpack_pack_notANumber, unpack_pack_infinity,
        UnpackedFloat.isFinite] at h

/-- A finite quotient has a finite dividend. -/
theorem isFinite_of_isFinite_div (h : (a / b).isFinite = true) :
  a.isFinite = true
  := by
  change (Float.Model.pack (UnpackedFloat.div Format.binary64 a.toModel.unpack
    b.toModel.unpack)).unpack.isFinite = true at h
  change a.toModel.unpack.isFinite = true
  generalize a.toModel.unpack = u at h ⊢
  generalize b.toModel.unpack = v at h ⊢
  cases u <;> cases v <;> first
    | rfl
    | simp [UnpackedFloat.div, unpack_pack_notANumber, unpack_pack_infinity,
        UnpackedFloat.isFinite] at h

/-- A quotient by NaN is NaN, so never finite. -/
theorem not_isFinite_div_of_isNaN (hb : b.isNaN = true) :
  (a / b).isFinite = false
  := by
  change (Float.Model.pack (UnpackedFloat.div Format.binary64 a.toModel.unpack
    b.toModel.unpack)).unpack.isFinite = false
  change b.toModel.unpack.isNaN = true at hb
  generalize b.toModel.unpack = v at hb ⊢
  cases v <;> simp [UnpackedFloat.isNaN] at hb
  cases a.toModel.unpack <;>
    simp [UnpackedFloat.div, unpack_pack_notANumber, UnpackedFloat.isFinite]

/-- A finite double over an infinity is a zero. -/
theorem div_of_isInf {a b : Float} (ha : a.isFinite = true) (hb : b.isInf = true) :
  (a / b).isFinite = true ∧ value (a / b) = 0
  := by
  change a.toModel.unpack.isFinite = true at ha
  change b.toModel.unpack.isInf = true at hb
  change (Float.Model.pack (UnpackedFloat.div Format.binary64 a.toModel.unpack
    b.toModel.unpack)).unpack.isFinite = true ∧
    unpackedValue (Float.Model.pack (UnpackedFloat.div Format.binary64 a.toModel.unpack
      b.toModel.unpack)).unpack = 0
  generalize a.toModel.unpack = u at ha ⊢
  generalize b.toModel.unpack = v at hb ⊢
  cases v <;> simp [UnpackedFloat.isInf] at hb
  cases u <;> simp [UnpackedFloat.isFinite] at ha <;>
    simp [UnpackedFloat.div, unpack_pack_zero, UnpackedFloat.isFinite, unpackedValue]

end Results

end Payout.Double
