import Payout.Domain.Allocation
import Payout.Proofs.Except

/-!
# The allocation pipeline, read backward

An allocation that succeeds went through every stage: weights, shares, hundredths, and for
each participant kept an amount computed from its stored percentage. These are the facts a
success gives about each stage.
-/

namespace Payout

/-- A pipeline that succeeds computed weights, then shares, then the allocation. -/
theorem computeAllocations_eq_ok {totalProfit : Int} {standings : List Standing}
    {allocations : List Allocation} (h : computeAllocations totalProfit standings = .ok allocations) :
  ∃ weights shares, computeWeights standings = .ok weights ∧ normalizeWeights weights = .ok shares
    ∧ allocate totalProfit shares = .ok allocations
  := by
  obtain ⟨weights, hw, h⟩ := bind_eq_ok.mp h
  obtain ⟨shares, hs, h⟩ := bind_eq_ok.mp h
  exact ⟨weights, shares, hw, hs, h⟩

/-- A pipeline that succeeds on standings of known weights shared those weights and allocated
the shares. -/
theorem computeAllocations_eq_ok_of_weights {totalProfit : Int} {standings : List Standing}
    {weights : List Weighted} {allocations : List Allocation}
    (hweights : computeWeights standings = .ok weights)
    (h : computeAllocations totalProfit standings = .ok allocations) :
  ∃ shares, normalizeWeights weights = .ok shares ∧ allocate totalProfit shares = .ok allocations
  := by
  obtain ⟨weights', shares, hweights', hshares, hallocate⟩ := computeAllocations_eq_ok h
  obtain rfl : weights = weights' := Except.ok.inj (hweights.symm.trans hweights')
  exact ⟨shares, hshares, hallocate⟩

/-- An allocation that succeeds has apportioned hundredths, and gives each share with a
positive number of hundredths, in order, that number as a percentage with its amount. -/
theorem allocate_eq_ok {totalProfit : Int} {shares : List Share} {allocations : List Allocation}
    (h : allocate totalProfit shares = .ok allocations) :
  0 ≤ totalProfit ∧ ∃ hundredths, apportionHundredths totalProfit shares = .ok hundredths
    ∧ List.Forall₂ (fun (sh : Share × Float) a => a.participant = sh.1.participant
        ∧ a.share = sh.1.share ∧ a.percentage = sh.2 / 100.0
        ∧ computeAmount totalProfit (sh.2 / 100.0) = .ok a.amount)
      ((shares.zip hundredths).filter fun (_, h) => h > 0.0) allocations
  := by
  unfold allocate at h
  dsimp only at h
  split at h
  · cases h
  rename_i hsign
  obtain ⟨hundredths, hh, h⟩ := bind_eq_ok.mp h
  have hnonneg : 0 ≤ totalProfit := by omega
  refine ⟨hnonneg, hundredths, hh, ?_⟩
  apply (forall₂_of_mapM_eq_ok h).imp
  intro sh a hrow
  obtain ⟨amount, hamount, hrow⟩ := bind_eq_ok.mp hrow
  cases hrow
  exact ⟨rfl, rfl, rfl, hamount⟩

/-- Every amount of an allocation is the amount of its stored percentage. -/
theorem allocate_amount {totalProfit : Int} {shares : List Share} {allocations : List Allocation}
    (h : allocate totalProfit shares = .ok allocations) :
  ∀ a ∈ allocations, computeAmount totalProfit a.percentage = .ok a.amount
  := by
  obtain ⟨-, _, -, hrows⟩ := allocate_eq_ok h
  intro a ha
  obtain ⟨sh, -, -, -, hpercentage, hamount⟩ := exists_of_forall₂_of_mem hrows ha
  rw [hpercentage]
  exact hamount

/-- Every allocated amount is the amount of its stored percentage. -/
theorem computeAllocations_amount {totalProfit : Int} {standings : List Standing}
    {allocations : List Allocation} (h : computeAllocations totalProfit standings = .ok allocations) :
  ∀ a ∈ allocations, computeAmount totalProfit a.percentage = .ok a.amount
  := by
  obtain ⟨_, _, _, _, hallocate⟩ := computeAllocations_eq_ok h
  exact allocate_amount hallocate

end Payout
