import Mathlib.Algebra.BigOperators.Ring.Finset
import Payout.Proofs.Allocation.Hundredths

/-!
# Shares in hundredths

`normalizeWeights` gives each positive weight `w` the share `100 * w / T`, where `T` is the
rounded left sum of all the weights, and the apportionment scales the share by 100 again: three
roundings for each share (`rawHundredths`). This module proves that the whole hundredths of
the shares, rounded down, add up to at most 10,000, for any number of participants
(`sum_floor_hundredths_le`). Each rounding is monotone, so a larger weight never gets fewer
hundredths (`shareHundredths_le_of_le`).

A rounded sum can fall short of the exact one, so the shares alone may add up to more than
100. What keeps the floors in bound is that a weight raises `T`, when it is added, by itself
less at most `T / (2 ^ 53 - 1)` (`sum_map_le_roundedSum`): the floor of a share is at most
`10000 (1 + 2 ^ -36) / T` times that rise, and the rises add up to `T`. A weight that the sum
absorbs whole is too small for a single hundredth. When `T` overflows, every share is zero.
-/

namespace Payout

open Double

/-! ### One share, on the rationals -/

/-- The hundredths of the share of a weight `x` in a total `t`, rounded as the program rounds
them: `100 * x`, then its quotient by `t`, then that times 100. -/
def rawHundredths (t x : ℚ) : ℚ := roundDouble (roundDouble (roundDouble (100 * x) / t) * 100)

/-- The rounding error below the normal range is negligible beside a hundredth. -/
theorem two_zpow_subnormal_le :
  (2 : ℚ) ^ (-1075 : ℤ) ≤ 1 / 2 ^ 60
  := by
  rw [zpow_neg, ← one_div]
  apply one_div_le_one_div_of_le (by positivity)
  calc (2 : ℚ) ^ 60 = 2 ^ (60 : ℤ) := by norm_num
    _ ≤ 2 ^ (1075 : ℤ) := zpow_le_zpow_right₀ (by norm_num) (by norm_num)

/-- A larger weight never gets fewer hundredths: each of the three roundings is monotone. -/
theorem rawHundredths_mono {t : ℚ} (ht : 0 < t) {x y : ℚ} (h : x ≤ y) :
  rawHundredths t x ≤ rawHundredths t y
  := by
  unfold rawHundredths
  apply roundDouble_mono
  apply mul_le_mul_of_nonneg_right _ (by norm_num)
  apply roundDouble_mono
  apply div_le_div_of_nonneg_right _ ht.le
  exact roundDouble_mono (by linarith)

section Share

variable {t x : ℚ} (ht : 0 < t) (hx : 0 ≤ x)
include ht hx

theorem rawHundredths_nonneg :
  0 ≤ rawHundredths t x
  := by
  have ha : 0 ≤ roundDouble (100 * x) := roundDouble_nonneg (by linarith)
  have hb : 0 ≤ roundDouble (roundDouble (100 * x) / t) := roundDouble_nonneg (div_nonneg ha ht.le)
  exact roundDouble_nonneg (by linarith)

/-- Three roundings make the hundredths of a share at most `(1 + 2 ^ -53) ^ 3` times the exact
ones, plus a subnormal term from the quotient, the one result that may leave the grid. -/
theorem rawHundredths_le (hxg : OnGrid x) :
  rawHundredths t x ≤ 10000 * (1 + 1 / 2 ^ 53) ^ 3 * (x / t) + 101 * 2 ^ (-1075 : ℤ)
  := by
  set a := roundDouble (100 * x)
  set b := roundDouble (a / t)
  have ha0 : 0 ≤ a := roundDouble_nonneg (by linarith)
  have hat0 : 0 ≤ a / t := div_nonneg ha0 ht.le
  have ha : a ≤ 100 * x * (1 + 1 / 2 ^ 53) := by
    apply roundDouble_le_mul (by linarith)
    simpa using hxg.intCast_mul 100
  have hat : a / t ≤ 100 * (1 + 1 / 2 ^ 53) * (x / t) := by
    calc a / t ≤ 100 * x * (1 + 1 / 2 ^ 53) / t := div_le_div_of_nonneg_right ha ht.le
      _ = 100 * (1 + 1 / 2 ^ 53) * (x / t) := by ring
  have hb : b ≤ a / t * (1 + 1 / 2 ^ 53) + 2 ^ (-1075 : ℤ) := by
    have h := abs_roundDouble_sub_le (a / t)
    rw [abs_of_nonneg hat0] at h
    obtain ⟨-, hhi⟩ := abs_le.mp h
    linarith
  have hc : roundDouble (b * 100) ≤ b * 100 * (1 + 1 / 2 ^ 53) := by
    apply roundDouble_le_mul (mul_nonneg (roundDouble_nonneg hat0) (by norm_num))
    rw [mul_comm]
    simpa using (roundDouble_onGrid (a / t)).intCast_mul 100
  have hδ : (0 : ℚ) ≤ 2 ^ (-1075 : ℤ) := (two_zpow_pos _).le
  show roundDouble (b * 100) ≤ _
  linarith

/-- Three roundings make the hundredths of a share at least `(1 - 2 ^ -53) ^ 3` times the exact
ones, less a subnormal term from the quotient. -/
theorem le_rawHundredths (hxg : OnGrid x) :
  10000 * (1 - 1 / 2 ^ 53) ^ 3 * (x / t) - 100 * 2 ^ (-1075 : ℤ) ≤ rawHundredths t x
  := by
  set a := roundDouble (100 * x)
  set b := roundDouble (a / t)
  have ha0 : 0 ≤ a := roundDouble_nonneg (by linarith)
  have hat0 : 0 ≤ a / t := div_nonneg ha0 ht.le
  have ha : 100 * x * (1 - 1 / 2 ^ 53) ≤ a := by
    apply mul_le_roundDouble (by linarith)
    simpa using hxg.intCast_mul 100
  have hat : 100 * (1 - 1 / 2 ^ 53) * (x / t) ≤ a / t := by
    calc 100 * (1 - 1 / 2 ^ 53) * (x / t) = 100 * x * (1 - 1 / 2 ^ 53) / t := by ring
      _ ≤ a / t := div_le_div_of_nonneg_right ha ht.le
  have hb : a / t * (1 - 1 / 2 ^ 53) - 2 ^ (-1075 : ℤ) ≤ b := by
    have h := abs_roundDouble_sub_le (a / t)
    rw [abs_of_nonneg hat0] at h
    obtain ⟨hlo, -⟩ := abs_le.mp h
    linarith
  have hc : b * 100 * (1 - 1 / 2 ^ 53) ≤ roundDouble (b * 100) := by
    apply mul_le_roundDouble (mul_nonneg (roundDouble_nonneg hat0) (by norm_num))
    rw [mul_comm]
    simpa using (roundDouble_onGrid (a / t)).intCast_mul 100
  have hδ : (0 : ℚ) ≤ 2 ^ (-1075 : ℤ) := (two_zpow_pos _).le
  show _ ≤ roundDouble (b * 100)
  linarith

/-- The floor of the hundredths of a share, against any rise `d` of the total that the weight
exceeds by at most `t / (2 ^ 53 - 1)`: at most `10000 (1 + 2 ^ -36) / t` times the rise. A share of
at least one hundredth needs a rise large enough to absorb both errors. -/
theorem floor_rawHundredths_le (hxg : OnGrid x) {d : ℚ} (hd : 0 ≤ d)
    (hxd : x ≤ d + t / (2 ^ 53 - 1)) :
  (⌊rawHundredths t x⌋₊ : ℚ) ≤ 10000 * (1 + 1 / 2 ^ 36) / t * d
  := by
  rw [show 10000 * (1 + 1 / 2 ^ 36) / t * d = 10000 * (1 + 1 / 2 ^ 36) * (d / t) by ring]
  by_cases hsmall : rawHundredths t x < 1
  · rw [Nat.floor_eq_zero.mpr hsmall, Nat.cast_zero]
    positivity
  have hraw := rawHundredths_le ht hx hxg
  have hX : x / t ≤ d / t + 1 / (2 ^ 53 - 1) := by
    calc x / t ≤ (d + t / (2 ^ 53 - 1)) / t := div_le_div_of_nonneg_right hxd ht.le
      _ = d / t + 1 / (2 ^ 53 - 1) := by field_simp
  have hδ := two_zpow_subnormal_le
  have hD : 1 / 20000 ≤ d / t := by linarith
  calc (⌊rawHundredths t x⌋₊ : ℚ) ≤ rawHundredths t x := Nat.floor_le (rawHundredths_nonneg ht hx)
    _ ≤ 10000 * (1 + 1 / 2 ^ 36) * (d / t) := by linarith

end Share

/-- The floors of the hundredths of the shares of nonnegative doubles in their rounded sum add
up to at most 10,000. -/
theorem sum_floor_rawHundredths_le {xs : List ℚ} (hxs : ∀ x ∈ xs, 0 ≤ x ∧ OnGrid x)
    (ht : 0 < roundedSum 0 xs) :
  (xs.map fun x => ⌊rawHundredths (roundedSum 0 xs) x⌋₊).sum ≤ 10000
  := by
  have h := sum_map_le_roundedSum (fun x => (⌊rawHundredths (roundedSum 0 xs) x⌋₊ : ℚ))
    (10000 * (1 + 1 / 2 ^ 36) / roundedSum 0 xs) le_rfl roundDouble_zero hxs
    (fun x hx d hd hxd => floor_rawHundredths_le ht (hxs x hx).1 (hxs x hx).2 hd hxd)
  rw [sub_zero, div_mul_cancel₀ _ ht.ne'] at h
  have hlt : ((xs.map fun x => ⌊rawHundredths (roundedSum 0 xs) x⌋₊).sum : ℚ) < 10001 := by
    rw [Nat.cast_list_sum, List.map_map]
    calc _ ≤ 10000 * (1 + 1 / 2 ^ 36) := h
      _ < 10001 := by norm_num
  have hlt' : (xs.map fun x => ⌊rawHundredths (roundedSum 0 xs) x⌋₊).sum < 10001 := by
    exact_mod_cast hlt
  omega

/-- The floors of the hundredths of the shares of nonnegative doubles in their rounded sum fall
short of 10,000 by at most one for each share. Below 10,000 shares the roundings of the shares and
of the sum lose less than one hundredth in all, and each floor less than one; from 10,000 shares on
there is nothing to prove. The rounded sum exceeds the exact one by at most a factor
`1 + 2 n / 2 ^ 53`. -/
theorem le_sum_floor_rawHundredths {xs : List ℚ} (hxs : ∀ x ∈ xs, 0 ≤ x ∧ OnGrid x)
    (ht : 0 < roundedSum 0 xs) :
  10000 ≤ (xs.map fun x => ⌊rawHundredths (roundedSum 0 xs) x⌋₊).sum + xs.length
  := by
  set t := roundedSum 0 xs
  by_cases hlong : 10000 ≤ xs.length
  · omega
  set K := 10000 * (1 - 1 / 2 ^ 53 : ℚ) ^ 3 / t with hKdef
  set e := 1 + 100 * (2 : ℚ) ^ (-1075 : ℤ)
  have hone : ∀ x ∈ xs, K * x ≤ (⌊rawHundredths t x⌋₊ : ℚ) + e := by
    intro x hx
    have hraw := le_rawHundredths ht (hxs x hx).1 (hxs x hx).2
    have hfloor := Nat.lt_floor_add_one (rawHundredths t x)
    have hK : K * x = 10000 * (1 - 1 / 2 ^ 53) ^ 3 * (x / t) := by ring
    linarith
  have hsum : K * xs.sum ≤ ((xs.map fun x => ⌊rawHundredths t x⌋₊).sum : ℚ) + xs.length * e := by
    have h := List.sum_le_sum hone
    rw [List.sum_map_mul_left, List.map_id', List.sum_map_add, List.map_const', List.sum_replicate,
      nsmul_eq_mul] at h
    rwa [Nat.cast_list_sum, List.map_map]
  have hn : (xs.length : ℚ) ≤ 9999 := by exact_mod_cast (by omega : xs.length ≤ 9999)
  have hpow := one_add_pow_le xs.length (by
    rw [mul_one_div, div_le_one (by norm_num)]
    linarith)
  have hgrow := roundedSum_le_mul_pow le_rfl ⟨0, by simp⟩ hxs
  rw [zero_add] at hgrow
  have hS : 0 ≤ xs.sum := List.sum_nonneg fun x hx => (hxs x hx).1
  have htS : t ≤ xs.sum * (1 + 20000 / 2 ^ 53) := by
    calc t ≤ xs.sum * (1 + 1 / 2 ^ 53) ^ xs.length := hgrow
      _ ≤ xs.sum * (1 + 2 * xs.length * (1 / 2 ^ 53)) := mul_le_mul_of_nonneg_left hpow hS
      _ ≤ xs.sum * (1 + 20000 / 2 ^ 53) := by
        apply mul_le_mul_of_nonneg_left _ hS
        linarith
  have hcube : 1 - 3 / 2 ^ 53 ≤ (1 - 1 / 2 ^ 53 : ℚ) ^ 3 := by
    have h := one_add_mul_le_pow (a := -(1 / 2 ^ 53 : ℚ)) (by norm_num) 3
    rw [← sub_eq_add_neg] at h
    linarith
  by_contra hshort
  have hF : ((xs.map fun x => ⌊rawHundredths t x⌋₊).sum : ℚ) + xs.length ≤ 9999 := by
    exact_mod_cast (by omega : (xs.map fun x => ⌊rawHundredths t x⌋₊).sum + xs.length ≤ 9999)
  have hδ := two_zpow_subnormal_le
  have hδ0 : (0 : ℚ) ≤ 2 ^ (-1075 : ℤ) := (two_zpow_pos _).le
  have hKS : 10000 * (1 - 3 / 2 ^ 53) * xs.sum ≤ t * (9999 + 9999 * 100 / 2 ^ 60) := by
    calc 10000 * (1 - 3 / 2 ^ 53) * xs.sum ≤ 10000 * (1 - 1 / 2 ^ 53) ^ 3 * xs.sum := by gcongr
      _ = t * (K * xs.sum) := by rw [hKdef]; field_simp
      _ ≤ t * (((xs.map fun x => ⌊rawHundredths t x⌋₊).sum : ℚ) + xs.length * e) :=
          mul_le_mul_of_nonneg_left hsum ht.le
      _ ≤ t * (9999 + 9999 * 100 / 2 ^ 60) := by
          apply mul_le_mul_of_nonneg_left _ ht.le
          nlinarith
  have hpos : 0 < xs.sum := by
    by_contra hzero
    have : xs.sum = 0 := le_antisymm (not_lt.mp hzero) hS
    rw [this, zero_mul] at htS
    linarith
  have := calc 10000 * (1 - 3 / 2 ^ 53) * xs.sum ≤ t * (9999 + 9999 * 100 / 2 ^ 60) := hKS
    _ ≤ xs.sum * (1 + 20000 / 2 ^ 53) * (9999 + 9999 * 100 / 2 ^ 60) :=
        mul_le_mul_of_nonneg_right htS (by positivity)
  nlinarith

/-! ### Shares of doubles -/

/-- A finite total that is not at most zero is positive. -/
theorem value_pos_of_not_le_zero {total : Float} (hT : total.isFinite = true) (hpos : ¬total ≤ 0.0) :
  0 < value total
  := by
  rw [le_iff_value_le hT isFinite_zero, value_zero] at hpos
  exact lt_of_not_ge hpos

section Doubles

variable {w total : Float} (hfin : ((100.0 * w / total) * 100.0).isFinite = true)
include hfin

/-- With a finite positive total, a share in hundredths that is finite is `rawHundredths`. -/
theorem value_shareHundredths (hT : total.isFinite = true) (ht : 0 < value total) :
  value ((100.0 * w / total) * 100.0) = rawHundredths (value total) (value w)
  := by
  obtain ⟨hq, -⟩ := isFinite_of_isFinite_mul hfin
  have hp := isFinite_of_isFinite_div hq
  obtain ⟨-, hw⟩ := isFinite_of_isFinite_mul hp
  rw [value_mul hq isFinite_hundred hfin, value_div hp hT ht.ne' hq,
    value_mul isFinite_hundred hw hp, value_hundred]
  rfl

/-- With a total that overflowed, a share in hundredths that is finite is zero: a NaN total
would have made it NaN. -/
theorem value_shareHundredths_of_overflow (hT : total.isFinite = false) :
  value ((100.0 * w / total) * 100.0) = 0
  := by
  obtain ⟨hq, -⟩ := isFinite_of_isFinite_mul hfin
  have hp := isFinite_of_isFinite_div hq
  have hinf : total.isInf = true := by
    have h := isFinite_eq total
    rw [hT] at h
    cases hnan : total.isNaN
    · cases hinf : total.isInf
      · rw [Payout.isFinite, hnan, hinf] at h
        cases h
      · rfl
    · rw [not_isFinite_div_of_isNaN hnan] at hq
      cases hq
  obtain ⟨-, hzero⟩ := div_of_isInf hp hinf
  rw [value_mul hq isFinite_hundred hfin, hzero, zero_mul, roundDouble_zero]

end Doubles

/-- Of two weights the larger gets at least as many hundredths of a share, whether the total
is finite or overflowed. -/
theorem shareHundredths_le_of_le {w w' total : Float} (hpos : ¬total ≤ 0.0)
    (hfin : ((100.0 * w / total) * 100.0).isFinite = true)
    (hfin' : ((100.0 * w' / total) * 100.0).isFinite = true) (hle : value w ≤ value w') :
  value ((100.0 * w / total) * 100.0) ≤ value ((100.0 * w' / total) * 100.0)
  := by
  cases hT : total.isFinite with
  | false =>
    rw [value_shareHundredths_of_overflow hfin hT, value_shareHundredths_of_overflow hfin' hT]
  | true =>
    have ht := value_pos_of_not_le_zero hT hpos
    rw [value_shareHundredths hfin hT ht, value_shareHundredths hfin' hT ht]
    exact rawHundredths_mono ht hle

/-! ### Shares of weights -/

/-- Normalizing succeeds on finite nonnegative weights with a positive rounded total, and gives
each positive weight, in order, its share of that total. -/
theorem normalizeWeights_eq_ok {weights : List Weighted} {shares : List Share}
    (h : normalizeWeights weights = .ok shares) :
  (∀ w ∈ weights, w.weight.isFinite = true ∧ 0 ≤ value w.weight)
    ∧ ¬sumFloats (weights.map (·.weight)) ≤ 0.0
    ∧ shares = (weights.filter fun w => w.weight > 0.0).map fun w =>
        ⟨w.participant, 100.0 * w.weight / sumFloats (weights.map (·.weight))⟩
  := by
  unfold normalizeWeights at h
  split at h
  · cases h
  rename_i hbad
  dsimp only at h
  split at h
  · cases h
  rename_i hpos
  cases h
  exact ⟨fun w hw => finite_nonneg_of_check (List.find?_eq_none.mp hbad w hw), hpos, rfl⟩

/-- The whole hundredths of the shares of any weights, rounded down, add up to at most 10,000. An
overflowing total gives every share zero hundredths. -/
theorem sum_floor_hundredths_le {weights : List Weighted} {shares : List Share}
    (h : normalizeWeights weights = .ok shares)
    (hfin : ∀ s ∈ shares, s.hundredths.isFinite = true) :
  (shares.map fun s => ⌊value s.hundredths⌋₊).sum ≤ 10000
  := by
  obtain ⟨hvalid, hpos, rfl⟩ := normalizeWeights_eq_ok h
  simp only [List.forall_mem_map, Share.hundredths] at hfin
  simp only [List.map_map, Function.comp_def, Share.hundredths]
  set total := sumFloats (weights.map (·.weight))
  cases hT : total.isFinite with
  | false =>
    have hzero : ∀ w ∈ weights.filter (fun w => w.weight > 0.0),
        ⌊value ((100.0 * w.weight / total) * 100.0)⌋₊ = 0 := by
      intro w hw
      rw [value_shareHundredths_of_overflow (hfin w hw) hT, Nat.floor_zero]
    have hsum : ((weights.filter (fun w => w.weight > 0.0)).map fun w =>
        ⌊value ((100.0 * w.weight / total) * 100.0)⌋₊).sum = 0 := by
      apply List.sum_eq_zero
      intro n hn
      obtain ⟨w, hw, rfl⟩ := List.mem_map.mp hn
      exact hzero w hw
    omega
  | true =>
    obtain ⟨-, hval⟩ := value_sumFloats hT
    have ht := value_pos_of_not_le_zero hT hpos
    have hxs : ∀ x ∈ (weights.map (·.weight)).map value, 0 ≤ x ∧ OnGrid x := by
      simp only [List.map_map, List.mem_map, Function.comp_apply]
      rintro x ⟨w, hw, rfl⟩
      exact ⟨(hvalid w hw).2, onGrid_value _⟩
    calc ((weights.filter (fun w => w.weight > 0.0)).map fun w =>
          ⌊value ((100.0 * w.weight / total) * 100.0)⌋₊).sum
        = ((weights.filter (fun w => w.weight > 0.0)).map fun w =>
          ⌊rawHundredths (value total) (value w.weight)⌋₊).sum := by
          rw [List.map_congr_left fun w hw => by rw [value_shareHundredths (hfin w hw) hT ht]]
      _ ≤ (weights.map fun w => ⌊rawHundredths (value total) (value w.weight)⌋₊).sum :=
          ((List.filter_sublist).map _).sum_le_sum fun _ _ => Nat.zero_le _
      _ = (((weights.map (·.weight)).map value).map fun x =>
          ⌊rawHundredths (roundedSum 0 ((weights.map (·.weight)).map value)) x⌋₊).sum := by
          rw [← hval, List.map_map, List.map_map]
          rfl
      _ ≤ 10000 := sum_floor_rawHundredths_le hxs (hval ▸ ht)

/-- When the rounded total of the weights is finite, the whole hundredths of their shares, rounded
down, fall short of 10,000 by at most one for each share. The kept weights are the nonzero ones, and
the zero ones leave the rounded sum as it is. -/
theorem le_sum_floor_hundredths {weights : List Weighted} {shares : List Share}
    (h : normalizeWeights weights = .ok shares)
    (hfin : ∀ s ∈ shares, s.hundredths.isFinite = true)
    (hT : (sumFloats (weights.map (·.weight))).isFinite = true) :
  10000 ≤ (shares.map fun s => ⌊value s.hundredths⌋₊).sum + shares.length
  := by
  obtain ⟨hvalid, hpos, rfl⟩ := normalizeWeights_eq_ok h
  simp only [List.forall_mem_map, Share.hundredths] at hfin
  simp only [List.map_map, Function.comp_def, Share.hundredths, List.length_map]
  set total := sumFloats (weights.map (·.weight))
  set kept := weights.filter fun w => w.weight > 0.0
  obtain ⟨-, hval⟩ := value_sumFloats hT
  have ht := value_pos_of_not_le_zero hT hpos
  have hkept : kept.map (fun w => value w.weight)
      = ((weights.map (·.weight)).map value).filter (· ≠ 0) := by
    rw [List.map_map, List.filter_map]
    congr 1
    apply List.filter_congr
    intro w hw
    obtain ⟨hfinw, hnonneg⟩ := hvalid w hw
    have hiff : w.weight > 0.0 ↔ value w.weight ≠ 0 := by
      rw [gt_iff_lt, lt_iff_value_lt isFinite_zero hfinw, value_zero]
      exact ⟨fun hlt => hlt.ne', fun hne => lt_of_le_of_ne hnonneg (Ne.symm hne)⟩
    simp only [Function.comp_apply]
    exact decide_eq_decide.mpr hiff
  have htotal : value total = roundedSum 0 (kept.map fun w => value w.weight) := by
    rw [hval, hkept, roundedSum_filter_ne_zero roundDouble_zero]
  have hxs : ∀ x ∈ kept.map (fun w => value w.weight), 0 ≤ x ∧ OnGrid x := by
    intro x hx
    obtain ⟨w, hw, rfl⟩ := List.mem_map.mp hx
    exact ⟨(hvalid w (List.mem_filter.mp hw).1).2, onGrid_value _⟩
  calc 10000 ≤ ((kept.map fun w => value w.weight).map fun x =>
          ⌊rawHundredths (roundedSum 0 (kept.map fun w => value w.weight)) x⌋₊).sum
        + (kept.map fun w => value w.weight).length :=
        le_sum_floor_rawHundredths hxs (htotal ▸ ht)
    _ = (kept.map fun w => ⌊value ((100.0 * w.weight / total) * 100.0)⌋₊).sum + kept.length := by
        rw [← htotal, List.map_map, List.length_map]
        congr 2
        apply List.map_congr_left
        intro w hw
        rw [Function.comp_apply, value_shareHundredths (hfin w hw) hT ht]

end Payout
