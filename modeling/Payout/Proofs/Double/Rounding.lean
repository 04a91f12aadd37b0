import Mathlib.Data.Int.Log
import Mathlib.Data.Rat.Floor
import Mathlib.Algebra.Order.Field.Power
import Mathlib.Tactic.Linarith
import Mathlib.Tactic.Positivity
import Mathlib.Tactic.GCongr
import Mathlib.Tactic.Ring
import Mathlib.Tactic.NormNum

/-!
# Rounding rationals to doubles

The arithmetic of doubles rounds the exact result of each operation to the nearest value on a
grid: 53 significant binary digits, with the last kept place never below `2 ^ -1074`, the place
of the smallest subnormal. A tie goes to the even last digit. This module states that rounding
on the rationals, with the range left unbounded (`roundDouble`), and proves the facts that error
analyses use: it is odd and monotone, it fixes every value on the grid, and it moves a value by
at most half a unit of its last place, so by at most `|x| / 2 ^ 53` plus half the smallest
subnormal.
-/

namespace Payout.Double

/-! ### Nearest integers, ties to even -/

/-- The integer nearest to a rational; of two equally near, the even one. -/
def roundEven (y : ℚ) : ℤ :=
  if y - ⌊y⌋ < 1 / 2 then ⌊y⌋
  else if 1 / 2 < y - ⌊y⌋ then ⌊y⌋ + 1
  else if ⌊y⌋ % 2 = 0 then ⌊y⌋ else ⌊y⌋ + 1

/-- `n` is an integer nearest to `y`, and the even one when `y` is halfway. -/
def IsNearestEven (y : ℚ) (n : ℤ) : Prop :=
  |(n : ℚ) - y| ≤ 1 / 2 ∧ (|(n : ℚ) - y| = 1 / 2 → n % 2 = 0)

theorem roundEven_isNearestEven (y : ℚ) :
  IsNearestEven y (roundEven y)
  := by
  have hf := Int.floor_le y
  have hf' := Int.lt_floor_add_one y
  unfold roundEven
  split_ifs with hlt hgt heven
  · refine ⟨by rw [abs_le]; constructor <;> linarith, fun h => ?_⟩
    rw [abs_of_nonpos (by linarith)] at h
    linarith
  · refine ⟨by push_cast; rw [abs_le]; constructor <;> linarith, fun h => ?_⟩
    push_cast at h
    rw [abs_of_nonneg (by linarith)] at h
    linarith
  · exact ⟨by rw [abs_le]; constructor <;> linarith, fun _ => heven⟩
  · refine ⟨by push_cast; rw [abs_le]; constructor <;> linarith, fun _ => by omega⟩

/-- Two nearest integers, ties to even, are one. Two distinct integers within a half of `y` are
neighbours, both halfway from it, and only one of them is even. -/
theorem IsNearestEven.unique {y : ℚ} {n n' : ℤ} (h : IsNearestEven y n) (h' : IsNearestEven y n') :
  n = n'
  := by
  obtain ⟨hn, htn⟩ := h
  obtain ⟨hn', htn'⟩ := h'
  obtain ⟨hn₁, hn₂⟩ := abs_le.mp hn
  obtain ⟨hn₁', hn₂'⟩ := abs_le.mp hn'
  have hlt : (n : ℚ) ≤ n' + 1 := by linarith
  have hgt : (n' : ℚ) ≤ n + 1 := by linarith
  have hlt' : n ≤ n' + 1 := by exact_mod_cast hlt
  have hgt' : n' ≤ n + 1 := by exact_mod_cast hgt
  by_contra hne
  rcases lt_or_gt_of_ne hne with hless | hmore
  · have hn1 : n' = n + 1 := by omega
    subst hn1
    push_cast at hn₁ hn₂'
    have h1 := htn (by rw [show (n : ℚ) - y = -(1 / 2) by linarith]; norm_num)
    have h2 := htn' (by push_cast; rw [show (n : ℚ) + 1 - y = 1 / 2 by linarith]; norm_num)
    omega
  · have hn1 : n = n' + 1 := by omega
    subst hn1
    push_cast at hn₂ hn₁'
    have h1 := htn' (by rw [show (n' : ℚ) - y = -(1 / 2) by linarith]; norm_num)
    have h2 := htn (by push_cast; rw [show (n' : ℚ) + 1 - y = 1 / 2 by linarith]; norm_num)
    omega

theorem roundEven_eq_of_isNearestEven {y : ℚ} {n : ℤ} (h : IsNearestEven y n) :
  roundEven y = n
  := (roundEven_isNearestEven y).unique h

theorem abs_roundEven_sub_le (y : ℚ) :
  |(roundEven y : ℚ) - y| ≤ 1 / 2
  := (roundEven_isNearestEven y).1

@[simp]
theorem roundEven_intCast (k : ℤ) :
  roundEven k = k
  := roundEven_eq_of_isNearestEven ⟨by simp, by simp⟩

@[simp]
theorem roundEven_zero :
  roundEven 0 = 0
  := by simpa using roundEven_intCast 0

theorem roundEven_neg (y : ℚ) :
  roundEven (-y) = -roundEven y
  := by
  obtain ⟨h, ht⟩ := roundEven_isNearestEven y
  apply roundEven_eq_of_isNearestEven
  have habs : |((-roundEven y : ℤ) : ℚ) - -y| = |(roundEven y : ℚ) - y| := by
    push_cast
    rw [← abs_neg]
    ring_nf
  refine ⟨habs ▸ h, fun hh => ?_⟩
  rw [Int.neg_emod_two]
  exact ht (habs ▸ hh)

/-- Rounding to the nearest integer is monotone: a smaller rational never gets a larger
integer, since two integers in the wrong order would both be halfway and both even. -/
theorem roundEven_mono {y y' : ℚ} (h : y ≤ y') :
  roundEven y ≤ roundEven y'
  := by
  obtain ⟨hn, htn⟩ := roundEven_isNearestEven y
  obtain ⟨hn', htn'⟩ := roundEven_isNearestEven y'
  by_contra hlt
  have hle : (roundEven y' : ℚ) + 1 ≤ roundEven y := by exact_mod_cast not_le.mp hlt
  obtain ⟨-, hn₂⟩ := abs_le.mp hn
  obtain ⟨hn₁', -⟩ := abs_le.mp hn'
  have h1 := htn (by rw [show (roundEven y : ℚ) - y = 1 / 2 by linarith]; norm_num)
  have h2 := htn' (by rw [show (roundEven y' : ℚ) - y' = -(1 / 2) by linarith]; norm_num)
  have hsucc : (roundEven y : ℚ) = roundEven y' + 1 := by linarith
  have hsucc' : roundEven y = roundEven y' + 1 := by exact_mod_cast hsucc
  omega

theorem roundEven_nonneg {y : ℚ} (h : 0 ≤ y) :
  0 ≤ roundEven y
  := by simpa using roundEven_mono h

/-- An integer bound passes to the nearest integer. -/
theorem roundEven_le_of_le {y : ℚ} {k : ℤ} (h : y ≤ k) :
  roundEven y ≤ k
  := by simpa using roundEven_mono h

theorem le_roundEven_of_le {y : ℚ} {k : ℤ} (h : (k : ℚ) ≤ y) :
  k ≤ roundEven y
  := by simpa using roundEven_mono h

/-! ### The grid of doubles -/

/-- The place of the last binary digit kept when a rational is rounded to a double: 52 places
below its leading digit, and never below the place `2 ^ -1074` of the smallest subnormal. -/
def lastPlace (x : ℚ) : ℤ := max (Int.log 2 |x| - 52) (-1074)

/-- Rounds a rational to the nearest double of unbounded range: to the nearest multiple of its
last place, a tie going to the even multiple. -/
def roundDouble (x : ℚ) : ℚ := roundEven (x / 2 ^ lastPlace x) * 2 ^ lastPlace x

theorem two_zpow_pos (e : ℤ) :
  (0 : ℚ) < 2 ^ e
  := zpow_pos (by norm_num) e

@[simp]
theorem lastPlace_neg (x : ℚ) :
  lastPlace (-x) = lastPlace x
  := by simp [lastPlace]

theorem min_le_lastPlace (x : ℚ) :
  -1074 ≤ lastPlace x
  := le_max_right _ _

@[simp]
theorem roundDouble_neg (x : ℚ) :
  roundDouble (-x) = -roundDouble x
  := by
  simp only [roundDouble, lastPlace_neg, neg_div, roundEven_neg, Int.cast_neg, neg_mul]

@[simp]
theorem roundDouble_zero :
  roundDouble 0 = 0
  := by simp [roundDouble]

/-- Rounding moves a value by at most half a unit of its last place. -/
theorem abs_roundDouble_sub_le_half_place (x : ℚ) :
  |roundDouble x - x| ≤ 2 ^ lastPlace x / 2
  := by
  have hp := two_zpow_pos (lastPlace x)
  have h := abs_roundEven_sub_le (x / 2 ^ lastPlace x)
  have hx : roundDouble x - x = ((roundEven (x / 2 ^ lastPlace x) : ℚ) - x / 2 ^ lastPlace x) * 2 ^ lastPlace x := by
    rw [roundDouble, sub_mul, div_mul_cancel₀ _ hp.ne']
  rw [hx, abs_mul, abs_of_pos hp]
  calc _ ≤ (1 / 2 : ℚ) * 2 ^ lastPlace x := by gcongr
    _ = _ := by ring

/-- The last place of a nonzero value is `2 ^ -52` of its leading digit, or the subnormal
place. -/
theorem two_zpow_lastPlace_le {x : ℚ} (hx : x ≠ 0) :
  (2 : ℚ) ^ lastPlace x ≤ |x| / 2 ^ 52 ∨ lastPlace x = -1074
  := by
  rcases max_cases (Int.log 2 |x| - 52) (-1074) with ⟨h, -⟩ | ⟨h, -⟩
  · left
    have hlog := Int.zpow_log_le_self (b := 2) (by norm_num) (abs_pos.mpr hx)
    push_cast at hlog
    calc (2 : ℚ) ^ lastPlace x = 2 ^ Int.log 2 |x| / 2 ^ 52 := by
          rw [lastPlace, h, zpow_sub₀ two_ne_zero]; norm_cast
      _ ≤ |x| / 2 ^ 52 := div_le_div_of_nonneg_right hlog (by positivity)
  · right
    exact h

/-- The rounding error, relative for normal values and absolute below them. -/
theorem abs_roundDouble_sub_le (x : ℚ) :
  |roundDouble x - x| ≤ |x| / 2 ^ 53 + 2 ^ (-1075 : ℤ)
  := by
  rcases eq_or_ne x 0 with rfl | hx
  · simp only [roundDouble_zero, sub_zero, abs_zero, zero_div, zero_add]
    exact (two_zpow_pos _).le
  have h := abs_roundDouble_sub_le_half_place x
  have hsub : (0 : ℚ) ≤ 2 ^ (-1075 : ℤ) := (two_zpow_pos _).le
  have hrel : (0 : ℚ) ≤ |x| / 2 ^ 53 := by positivity
  rcases two_zpow_lastPlace_le hx with hp | hp
  · calc _ ≤ 2 ^ lastPlace x / 2 := h
      _ ≤ |x| / 2 ^ 52 / 2 := by gcongr
      _ = |x| / 2 ^ 53 := by ring
      _ ≤ _ := le_add_of_nonneg_right hsub
  · calc _ ≤ 2 ^ lastPlace x / 2 := h
      _ = 2 ^ (-1075 : ℤ) := by
        rw [hp, show (-1075 : ℤ) = -1074 - 1 by norm_num, zpow_sub₀ two_ne_zero, zpow_one]
      _ ≤ _ := le_add_of_nonneg_left hrel

/-! ### Leading digits -/

/-- The binary logarithm of a positive rational is read off two powers around it. -/
theorem log_eq_of_bounds {x : ℚ} {n : ℤ} (h₁ : (2 : ℚ) ^ n ≤ x) (h₂ : x < 2 ^ (n + 1)) :
  Int.log 2 x = n
  := by
  have hx : 0 < x := (two_zpow_pos n).trans_le h₁
  have hle := (Int.zpow_le_iff_le_log (b := 2) (by norm_num) hx).mp (by exact_mod_cast h₁)
  have hlt := (Int.lt_zpow_iff_log_lt (b := 2) (by norm_num) hx).mp (by exact_mod_cast h₂)
  omega

theorem lt_two_zpow_lastPlace (x : ℚ) :
  |x| < 2 ^ (lastPlace x + 53)
  := by
  have h := Int.lt_zpow_succ_log_self (b := 2) (by norm_num) |x|
  push_cast at h
  calc |x| < 2 ^ (Int.log 2 |x| + 1) := h
    _ ≤ 2 ^ (lastPlace x + 53) := by
      apply zpow_le_zpow_right₀ (by norm_num)
      have := le_max_left (Int.log 2 |x| - 52) (-1074)
      rw [lastPlace]
      omega

theorem two_zpow_lastPlace_le_of_normal {x : ℚ} (hx : x ≠ 0) (h : lastPlace x ≠ -1074) :
  (2 : ℚ) ^ (lastPlace x + 52) ≤ |x|
  := by
  have hlog := Int.zpow_log_le_self (b := 2) (by norm_num) (abs_pos.mpr hx)
  push_cast at hlog
  have ht : lastPlace x = Int.log 2 |x| - 52 := by
    rcases max_cases (Int.log 2 |x| - 52) (-1074) with ⟨h', -⟩ | ⟨h', -⟩
    · exact h'
    · exact absurd h' h
  rw [ht, sub_add_cancel]
  exact hlog

theorem lastPlace_mono {x y : ℚ} (hx : x ≠ 0) (h : |x| ≤ |y|) :
  lastPlace x ≤ lastPlace y
  := by
  have := Int.log_mono_right (b := 2) (abs_pos.mpr hx) h
  unfold lastPlace
  omega

/-! ### Monotonicity -/

theorem roundDouble_nonneg {x : ℚ} (hx : 0 ≤ x) :
  0 ≤ roundDouble x
  := by
  have hq : 0 ≤ x / 2 ^ lastPlace x := div_nonneg hx (two_zpow_pos _).le
  have hn : (0 : ℚ) ≤ roundEven (x / 2 ^ lastPlace x) := by exact_mod_cast roundEven_nonneg hq
  exact mul_nonneg hn (two_zpow_pos _).le

/-- Rounding at one place is monotone. -/
theorem roundEven_mul_mono {x y : ℚ} (t : ℤ) (h : x ≤ y) :
  (roundEven (x / 2 ^ t) : ℚ) * 2 ^ t ≤ roundEven (y / 2 ^ t) * 2 ^ t
  := by
  have hp := two_zpow_pos t
  have hxy : (roundEven (x / 2 ^ t) : ℚ) ≤ roundEven (y / 2 ^ t) := by
    exact_mod_cast roundEven_mono (div_le_div_of_nonneg_right h hp.le)
  exact mul_le_mul_of_nonneg_right hxy hp.le

/-- A nonnegative value below `2 ^ (t + 52)`, with `t` above its last place, rounds to at most
that power: the binade boundary is on every coarser grid. -/
theorem roundDouble_le_two_zpow {x : ℚ} {t : ℤ} (h : lastPlace x < t) :
  roundDouble x ≤ 2 ^ (t + 52)
  := by
  have hp := two_zpow_pos (lastPlace x)
  have hk : x / 2 ^ lastPlace x ≤ ((2 ^ (t + 52 - lastPlace x).toNat : ℤ) : ℚ) := by
    rw [div_le_iff₀ hp]
    push_cast
    rw [← zpow_natCast, ← zpow_add₀ two_ne_zero, Int.toNat_of_nonneg (by omega)]
    calc x ≤ |x| := le_abs_self x
      _ ≤ 2 ^ (lastPlace x + 53) := (lt_two_zpow_lastPlace x).le
      _ ≤ _ := zpow_le_zpow_right₀ (by norm_num) (by omega)
  have hr := roundEven_le_of_le hk
  calc roundDouble x ≤ ((2 ^ (t + 52 - lastPlace x).toNat : ℤ) : ℚ) * 2 ^ lastPlace x :=
        mul_le_mul_of_nonneg_right (by exact_mod_cast hr) hp.le
    _ = 2 ^ (t + 52) := by
      push_cast
      rw [← zpow_natCast, ← zpow_add₀ two_ne_zero, Int.toNat_of_nonneg (by omega)]
      ring_nf

/-- A normal value rounds to at least the power of two its binade starts at. -/
theorem two_zpow_le_roundDouble {x : ℚ} (hx : 0 < x) (h : lastPlace x ≠ -1074) :
  2 ^ (lastPlace x + 52) ≤ roundDouble x
  := by
  have hp := two_zpow_pos (lastPlace x)
  have hb := two_zpow_lastPlace_le_of_normal hx.ne' h
  rw [abs_of_pos hx] at hb
  have e52 : (2 : ℚ) ^ (lastPlace x + 52) = ((2 ^ 52 : ℤ) : ℚ) * 2 ^ lastPlace x := by
    rw [zpow_add₀ two_ne_zero, mul_comm]
    norm_num
  have hk : (((2 ^ 52 : ℤ)) : ℚ) ≤ x / 2 ^ lastPlace x := by
    rw [le_div_iff₀ hp, ← e52]
    exact hb
  have hr := le_roundEven_of_le hk
  calc (2 : ℚ) ^ (lastPlace x + 52) = ((2 ^ 52 : ℤ) : ℚ) * 2 ^ lastPlace x := e52
    _ ≤ roundDouble x := mul_le_mul_of_nonneg_right (by exact_mod_cast hr) hp.le

/-- Rounding is monotone on nonnegative values: at one place rounding is monotone, and where `y` has
a coarser place the binade boundary separates the two results. -/
theorem roundDouble_mono_of_nonneg {x y : ℚ} (hx : 0 ≤ x) (h : x ≤ y) :
  roundDouble x ≤ roundDouble y
  := by
  rcases hx.eq_or_lt with rfl | hx
  · rw [roundDouble_zero]
    exact roundDouble_nonneg h
  have hy : 0 < y := hx.trans_le h
  have ht : lastPlace x ≤ lastPlace y :=
    lastPlace_mono hx.ne' (by rwa [abs_of_pos hx, abs_of_pos hy])
  rcases ht.eq_or_lt with heq | hlt
  · calc roundDouble x = roundEven (x / 2 ^ lastPlace y) * 2 ^ lastPlace y := by
          rw [roundDouble, heq]
      _ ≤ roundDouble y := roundEven_mul_mono _ h
  · have hnormal : lastPlace y ≠ -1074 := by
      have := min_le_lastPlace x
      omega
    calc roundDouble x ≤ 2 ^ (lastPlace y + 52) := roundDouble_le_two_zpow hlt
      _ ≤ roundDouble y := two_zpow_le_roundDouble hy hnormal

/-- Rounding to doubles is monotone. -/
theorem roundDouble_mono {x y : ℚ} (h : x ≤ y) :
  roundDouble x ≤ roundDouble y
  := by
  rcases le_total 0 x with hx | hx
  · exact roundDouble_mono_of_nonneg hx h
  rcases le_total y 0 with hy | hy
  · have := roundDouble_mono_of_nonneg (neg_nonneg.mpr hy) (neg_le_neg h)
    rw [roundDouble_neg, roundDouble_neg] at this
    linarith
  · have hxn := roundDouble_nonneg (neg_nonneg.mpr hx)
    rw [roundDouble_neg] at hxn
    linarith [roundDouble_nonneg hy]

/-! ### The grid -/

/-- A value with at most 53 significant digits, none below the subnormal place, is a double of
unbounded range and rounds to itself. The last place of the value is at most `e`. -/
theorem roundDouble_eq_self {k e : ℤ} (hk : |k| < 2 ^ 53) (he : -1074 ≤ e) :
  roundDouble (k * 2 ^ e) = k * 2 ^ e
  := by
  rcases eq_or_ne k 0 with rfl | hk0
  · simp
  have hx : (k : ℚ) * 2 ^ e ≠ 0 := mul_ne_zero (by exact_mod_cast hk0) (two_zpow_pos e).ne'
  have hlt : |(k : ℚ) * 2 ^ e| < 2 ^ (e + 53) := by
    rw [abs_mul, abs_of_pos (two_zpow_pos e), zpow_add₀ two_ne_zero, mul_comm]
    gcongr
    exact_mod_cast hk
  have hlog := (Int.lt_zpow_iff_log_lt (b := 2) (by norm_num) (abs_pos.mpr hx)).mp
    (by exact_mod_cast hlt)
  have ht : lastPlace ((k : ℚ) * 2 ^ e) ≤ e := by
    unfold lastPlace
    omega
  have hint : (k : ℚ) * 2 ^ e / 2 ^ lastPlace ((k : ℚ) * 2 ^ e)
      = ((k * 2 ^ (e - lastPlace ((k : ℚ) * 2 ^ e)).toNat : ℤ) : ℚ) := by
    push_cast
    rw [← zpow_natCast, Int.toNat_of_nonneg (by omega), mul_div_assoc, ← zpow_sub₀ two_ne_zero]
  unfold roundDouble
  rw [hint, roundEven_intCast]
  push_cast
  rw [← zpow_natCast, Int.toNat_of_nonneg (by omega), mul_assoc, ← zpow_add₀ two_ne_zero]
  ring_nf

/-- A natural below `2 ^ 53` is a double. -/
theorem roundDouble_natCast {n : ℕ} (hn : n < 2 ^ 53) :
  roundDouble (n : ℚ) = n
  := by
  have h := roundDouble_eq_self (k := (n : ℤ)) (e := 0)
    (by rw [abs_of_nonneg (by positivity)]; exact_mod_cast hn) (by norm_num)
  simpa using h

/-- A natural below `2 ^ 53` is far below the overflow threshold `2 ^ 1024`. -/
theorem abs_natCast_lt_overflow {n : ℕ} (hn : n < 2 ^ 53) :
  |(n : ℚ)| < 2 ^ (1024 : ℤ)
  := by
  rw [abs_of_nonneg (Nat.cast_nonneg _)]
  calc (n : ℚ) < 2 ^ (53 : ℤ) := by exact_mod_cast hn
    _ < 2 ^ (1024 : ℤ) := zpow_lt_zpow_right₀ (by norm_num) (by norm_num)

/-- A rational is on the subnormal grid when it is an integer multiple of `2 ^ -1074`, the place
of the smallest subnormal: every double is, and so are sums and integer multiples of doubles. -/
def OnGrid (x : ℚ) : Prop := ∃ k : ℤ, x = k * 2 ^ (-1074 : ℤ)

theorem OnGrid.add {x y : ℚ} (hx : OnGrid x) (hy : OnGrid y) :
  OnGrid (x + y)
  := by
  obtain ⟨k, rfl⟩ := hx
  obtain ⟨l, rfl⟩ := hy
  exact ⟨k + l, by rw [Int.cast_add]; ring⟩

theorem OnGrid.neg {x : ℚ} (hx : OnGrid x) :
  OnGrid (-x)
  := by
  obtain ⟨k, rfl⟩ := hx
  exact ⟨-k, by rw [Int.cast_neg]; ring⟩

theorem OnGrid.sub {x y : ℚ} (hx : OnGrid x) (hy : OnGrid y) :
  OnGrid (x - y)
  := by
  rw [sub_eq_add_neg]
  exact hx.add hy.neg

theorem OnGrid.intCast_mul {x : ℚ} (hx : OnGrid x) (n : ℤ) :
  OnGrid (n * x)
  := by
  obtain ⟨k, rfl⟩ := hx
  exact ⟨n * k, by rw [Int.cast_mul]; ring⟩

/-- A multiple of a place at or above the subnormal place is on the grid. -/
theorem onGrid_intCast_mul_two_zpow (k : ℤ) {e : ℤ} (he : -1074 ≤ e) :
  OnGrid (k * 2 ^ e)
  := by
  refine ⟨k * 2 ^ (e + 1074).toNat, ?_⟩
  rw [Int.cast_mul, Int.cast_pow, Int.cast_ofNat, ← zpow_natCast, Int.toNat_of_nonneg (by omega), mul_assoc, ← zpow_add₀ two_ne_zero]
  ring_nf

theorem roundDouble_onGrid (x : ℚ) :
  OnGrid (roundDouble x)
  := onGrid_intCast_mul_two_zpow _ (min_le_lastPlace x)

/-- In the subnormal range a value on the grid is exact. -/
theorem roundDouble_eq_self_of_subnormal {x : ℚ} (hx : OnGrid x) (h : lastPlace x = -1074) :
  roundDouble x = x
  := by
  obtain ⟨k, rfl⟩ := hx
  have hk : (k : ℚ) * 2 ^ (-1074 : ℤ) / 2 ^ (-1074 : ℤ) = k :=
    mul_div_cancel_right₀ _ (two_zpow_pos _).ne'
  rw [roundDouble, h, hk, roundEven_intCast]

/-- On the grid the rounding error is relative: below the normal range nothing is lost. -/
theorem abs_roundDouble_sub_le_of_onGrid {x : ℚ} (hx : OnGrid x) :
  |roundDouble x - x| ≤ |x| / 2 ^ 53
  := by
  rcases eq_or_ne x 0 with rfl | hx0
  · simp
  rcases two_zpow_lastPlace_le hx0 with hp | hp
  · calc _ ≤ 2 ^ lastPlace x / 2 := abs_roundDouble_sub_le_half_place x
      _ ≤ |x| / 2 ^ 52 / 2 := by gcongr
      _ = |x| / 2 ^ 53 := by ring
  · rw [roundDouble_eq_self_of_subnormal hx hp, sub_self, abs_zero]
    positivity

/-- Rounding is idempotent: a rounded value is a double, and a double rounds to itself. The
rounded significand is at most `2 ^ 53`, and at `2 ^ 53` it is `2 ^ 52` one place up. -/
theorem roundDouble_roundDouble (x : ℚ) :
  roundDouble (roundDouble x) = roundDouble x
  := by
  have hp := two_zpow_pos (lastPlace x)
  have hlt : |x / 2 ^ lastPlace x| < 2 ^ 53 := by
    rw [abs_div, abs_of_pos hp, div_lt_iff₀ hp, ← zpow_natCast, ← zpow_add₀ two_ne_zero,
      add_comm]
    exact_mod_cast lt_two_zpow_lastPlace x
  obtain ⟨hlo, hhi⟩ := abs_lt.mp hlt
  have hk : |roundEven (x / 2 ^ lastPlace x)| ≤ 2 ^ 53 := by
    rw [abs_le]
    constructor
    · exact le_roundEven_of_le (by push_cast; linarith)
    · exact roundEven_le_of_le (by push_cast; linarith)
  rcases hk.lt_or_eq with hk | hk
  · exact roundDouble_eq_self hk (min_le_lastPlace x)
  · have hshift : ∀ k : ℤ, |k| = 2 ^ 53 →
        (k : ℚ) * 2 ^ lastPlace x = ((k / 2 : ℤ) : ℚ) * 2 ^ (lastPlace x + 1) := by
      intro k hk
      have h2 : k = 2 * (k / 2) := by
        rcases abs_eq (by norm_num) |>.mp hk with h | h <;> rw [h] <;> norm_num
      rw [zpow_add_one₀ two_ne_zero]
      conv_lhs => rw [h2]
      push_cast
      ring
    have hhalf : |roundEven (x / 2 ^ lastPlace x) / 2| < 2 ^ 53 := by
      rcases abs_eq (by norm_num) |>.mp hk with h | h <;> rw [h] <;> norm_num
    have he : -1074 ≤ lastPlace x + 1 := by linarith [min_le_lastPlace x]
    have hx : roundDouble x =
        ((roundEven (x / 2 ^ lastPlace x) / 2 : ℤ) : ℚ) * 2 ^ (lastPlace x + 1) := hshift _ hk
    rw [hx]
    exact roundDouble_eq_self hhalf he

end Payout.Double
