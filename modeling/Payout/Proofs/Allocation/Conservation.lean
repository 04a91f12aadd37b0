import Payout.Proofs.Allocation.Percentages
import Payout.Proofs.Books.Operations

/-!
# Allocations share out the whole

An automatic allocation is meant to hand out exactly 100%: whole hundredths of a percent adding
up to 10,000, so that the distribution it writes becomes distributed. This holds whenever the
rounded total of the weights is finite (`computeAllocations_conserves`). The floors of the
shares then fall short of 10,000 by at most one hundredth for each share
(`le_sum_floor_hundredths`), and the apportionment hands out the whole shortfall, one
hundredth at most to each share (`computeAllocations_sum_hundredths`). The stored percentages
add up, rounded as doubles are, to 100 within `9 / 10 ^ 10`, far inside the tolerance of a full
allocation.

When the total overflows, every share is zero and each participant, up to 10,000 of them,
gets one hundredth: the whole is not shared out.
-/

namespace Payout

open Double

/-- The tolerance of a full allocation is a finite double of at least a hundredth. -/
theorem tolerance_bounds :
  (percentageTolerance + ceilingEpsilon).isFinite = true
    ∧ 1 / 100 ≤ value (percentageTolerance + ceilingEpsilon)
  := validation_bounds.2

/-- A finite sum of percentages within a thousandth of 100 is a full allocation: its difference
from 100, rounded once, stays below the tolerance. -/
theorem isFullyAllocated_of_near {sum : Float} (hfin : sum.isFinite = true)
    (hnear : |value sum - 100| ≤ 1 / 1000) :
  isFullyAllocated sum = true
  := by
  obtain ⟨hfinT, hT⟩ := tolerance_bounds
  have hδ := two_zpow_subnormal_le
  have hround : |roundDouble (value sum - 100)| < 1 / 100 := by
    have h := abs_roundDouble_sub_le (value sum - 100)
    have htri := abs_sub_abs_le_abs_sub (roundDouble (value sum - 100)) (value sum - 100)
    have hrel : |value sum - 100| / 2 ^ 53 ≤ 1 / 1000 / 2 ^ 53 :=
      div_le_div_of_nonneg_right hnear (by positivity)
    linarith
  have hbound : |roundDouble (value sum - value 100.0)| < 2 ^ (1024 : ℤ) := by
    rw [value_hundred]
    calc _ < 1 / 100 := hround
      _ ≤ ((1 : ℕ) : ℚ) := by norm_num
      _ < 2 ^ (1024 : ℤ) := lt_of_abs_lt (abs_natCast_lt_overflow (by norm_num))
  have hfin' := isFinite_sub hfin isFinite_hundred hbound
  unfold isFullyAllocated
  apply decide_eq_true
  rw [maxPercentage, le_iff_value_le ((isFinite_floatAbs _).trans hfin') hfinT, value_abs,
    value_sub hfin isFinite_hundred hfin', value_hundred]
  linarith

/-- Percentages of whole hundredths adding up to 10,000 have a finite left sum within
`9 / 10 ^ 10` of 100. -/
theorem sumFloats_percentages_near {allocations : List Allocation} {ns : List ℕ}
    (h : List.Forall₂ (fun a n => IsHundredths a.percentage n) allocations ns)
    (hsum : ns.sum = 10000) :
  (sumFloats (allocations.map (·.percentage))).isFinite = true
    ∧ |value (sumFloats (allocations.map (·.percentage))) - 100| ≤ 9 / 10 ^ 10
  := by
  have hmap : (allocations.map fun a => value a.percentage)
      = (allocations.map (·.percentage)).map value := by
    rw [List.map_map]
    rfl
  have hle := roundedSum_percentages_le h hsum.le
  have hge := le_roundedSum_percentages h hsum
  rw [hmap] at hle hge
  have hfin : (sumFloats (allocations.map (·.percentage))).isFinite = true := by
    apply isFinite_sumFloats
    · intro p hp
      obtain ⟨a, ha, rfl⟩ := List.mem_map.mp hp
      obtain ⟨n, -, hn⟩ := exists_of_forall₂_of_mem h.flip ha
      exact ⟨(IsHundredths.value_eq hn).1, (IsHundredths.value_pos hn).le⟩
    · calc _ ≤ 100 + 9 / 10 ^ 10 := hle
        _ ≤ ((101 : ℕ) : ℚ) := by norm_num
        _ < 2 ^ (1024 : ℤ) := lt_of_abs_lt (abs_natCast_lt_overflow (by norm_num))
  refine ⟨hfin, ?_⟩
  rw [(value_sumFloats hfin).2, abs_le]
  constructor <;> linarith

/-- When the rounded total of the weights is finite, an allocation shares out the whole: every
stored percentage is a whole number of hundredths over 100, these numbers add up to exactly 10,000,
and the rows the lifecycle writes for it add up to 100 within `9 / 10 ^ 10`, so that the
distribution they are written for becomes distributed. The floors fall short by at most one
hundredth per share, and the apportionment hands all of the shortfall out. -/
theorem computeAllocations_conserves {totalProfit : Int} {standings : List Standing}
    {weights : List Weighted} {allocations : List Allocation}
    (hweights : computeWeights standings = .ok weights)
    (htotal : (sumFloats (weights.map (·.weight))).isFinite = true)
    (h : computeAllocations totalProfit standings = .ok allocations) :
  (∃ ns : List ℕ, List.Forall₂ (fun a n => IsHundredths a.percentage n) allocations ns
      ∧ ns.sum = 10000)
    ∧ ∀ distribution : Int,
      |value (totalPercentage (Lifecycle.Books.allocationRows distribution allocations)) - 100|
          ≤ 9 / 10 ^ 10
        ∧ Lifecycle.stateFor (totalPercentage (Lifecycle.Books.allocationRows distribution allocations))
          = .distributed
  := by
  obtain ⟨weights', shares, hweights', hshares, hfin, ns, hns, hsum⟩ :=
    computeAllocations_sum_hundredths h
  obtain rfl : weights = weights' := Except.ok.inj (hweights.symm.trans hweights')
  have hconserved : ns.sum = 10000 := by
    rw [hsum]
    exact min_eq_left (le_sum_floor_hundredths hshares hfin htotal)
  refine ⟨⟨ns, hns, hconserved⟩, fun distribution => ?_⟩
  have hrows : totalPercentage (Lifecycle.Books.allocationRows distribution allocations)
      = sumFloats (allocations.map (·.percentage)) := by
    rw [totalPercentage, Lifecycle.Books.allocationRows, List.map_map]
    rfl
  obtain ⟨hfinS, hnear⟩ := sumFloats_percentages_near hns hconserved
  rw [hrows]
  refine ⟨hnear, ?_⟩
  rw [Lifecycle.stateFor, if_pos (isFullyAllocated_of_near hfinS (hnear.trans (by norm_num)))]

theorem computeAllocations_conserves_quarters :
  computeWeights [⟨1, 100.0, none, true⟩, ⟨2, 300.0, none, true⟩] = .ok [⟨1, 100.0⟩, ⟨2, 300.0⟩]
    ∧ (sumFloats (([⟨1, 100.0⟩, ⟨2, 300.0⟩] : List Weighted).map (·.weight))).isFinite = true
    ∧ computeAllocations 1000 [⟨1, 100.0, none, true⟩, ⟨2, 300.0, none, true⟩]
        = .ok [⟨1, 25.0, 25.0, 250⟩, ⟨2, 75.0, 75.0, 750⟩]
    ∧ (∃ ns : List ℕ, List.Forall₂ (fun a n => IsHundredths a.percentage n)
          ([⟨1, 25.0, 25.0, 250⟩, ⟨2, 75.0, 75.0, 750⟩] : List Allocation) ns ∧ ns.sum = 10000)
      ∧ ∀ distribution : Int,
        |value (totalPercentage (Lifecycle.Books.allocationRows distribution
            [⟨1, 25.0, 25.0, 250⟩, ⟨2, 75.0, 75.0, 750⟩])) - 100| ≤ 9 / 10 ^ 10
          ∧ Lifecycle.stateFor (totalPercentage (Lifecycle.Books.allocationRows distribution
            [⟨1, 25.0, 25.0, 250⟩, ⟨2, 75.0, 75.0, 750⟩])) = .distributed
  := by
  obtain ⟨hw, ht, ha⟩ :
      (computeWeights [⟨1, 100.0, none, true⟩, ⟨2, 300.0, none, true⟩]).toOption
          = some [⟨1, 100.0⟩, ⟨2, 300.0⟩]
        ∧ (sumFloats (([⟨1, 100.0⟩, ⟨2, 300.0⟩] : List Weighted).map (·.weight))).isFinite = true
        ∧ (computeAllocations 1000 [⟨1, 100.0, none, true⟩, ⟨2, 300.0, none, true⟩]).toOption
          = some [⟨1, 25.0, 25.0, 250⟩, ⟨2, 75.0, 75.0, 750⟩] := by
    decide +kernel
  have hw' := eq_ok_of_toOption hw
  have ha' := eq_ok_of_toOption ha
  exact ⟨hw', ht, ha', computeAllocations_conserves hw' ht ha'⟩

end Payout
