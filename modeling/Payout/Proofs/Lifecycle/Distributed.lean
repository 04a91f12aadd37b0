import Payout.Proofs.Lifecycle.Capacity
import Payout.Proofs.Allocation.Conservation
import Payout.Proofs.Books.Outcomes

/-!
# A distribution is distributed exactly when its rows add up to 100

Along every run, a distribution is distributed exactly when the rows the store lists for it,
in increasing identifier order, add up to 100 within tolerance
(`distributed_iff_fully_allocated`). Each operation sets the state from a sum of its own, and
each of these sums is the left sum of the rows as the store then lists them:

* a row added by hand is listed last, so the rows then add up to the sum before plus the new
  percentage, the very sum the state is set from;
* an automatic allocation sets the state from the rows it writes, which the store lists in
  their order under new identifiers;
* a new total profit changes neither a percentage nor the state.

Removing a row is the one operation that reads the state it finds: it makes a distributed
distribution pending when the rows left fall short, and leaves a pending one as it is. That is
sound because a pending distribution is short of 100, not over it: its rows are within
capacity (`WithinCapacity`), and a sum over 100 but within capacity is within tolerance of 100.
Dropping a nonnegative percentage never raises the left sum, so rows that fell short still do
(`WithinCapacity.isFullyAllocated_sublist`).
-/

namespace Payout.Lifecycle.Books

open Double

/-! ### Full allocation, on the values -/

/-- The ceiling is within a thousandth of 100, and no rows are no full allocation. -/
theorem fullAllocation_bounds :
  value (maxPercentage + ceilingEpsilon) ≤ 100 + 1 / 1000 ∧ isFullyAllocated (totalPercentage []) = false
  := by decide +kernel

theorem stateFor_eq_distributed (sum : Float) :
  stateFor sum = .distributed ↔ isFullyAllocated sum = true
  := by
  cases h : isFullyAllocated sum <;> simp [stateFor, h]

theorem totalPercentage_append_singleton (rows : List Detail) (r : Detail) :
  totalPercentage (rows ++ [r]) = totalPercentage rows + r.percentage
  := by
  simp [totalPercentage, sumFloats, List.foldl_append]

/-- Up to 100, a sum is a full allocation exactly when its shortfall, rounded, is within the
tolerance. Below 100 the difference rounds to the negated rounded shortfall. -/
theorem isFullyAllocated_iff_of_le {sum : Float} (hfin : sum.isFinite = true) (h0 : 0 ≤ value sum)
    (h100 : value sum ≤ 100) :
  isFullyAllocated sum = true ↔ roundDouble (100 - value sum) ≤ value (percentageTolerance + ceilingEpsilon)
  := by
  obtain ⟨hfinT, -⟩ := tolerance_bounds
  have hneg : roundDouble (value sum - 100) = -roundDouble (100 - value sum) := by
    rw [← roundDouble_neg, neg_sub]
  have hshort : 0 ≤ roundDouble (100 - value sum) := by
    rw [← roundDouble_zero]
    exact roundDouble_mono (by linarith)
  have hbound : |roundDouble (value sum - value 100.0)| < 2 ^ (1024 : ℤ) := by
    rw [value_hundred, hneg, abs_neg, abs_of_nonneg hshort]
    calc roundDouble (100 - value sum) ≤ roundDouble ((100 : ℕ) : ℚ) :=
          roundDouble_mono (by push_cast; linarith)
      _ = ((100 : ℕ) : ℚ) := roundDouble_natCast (by norm_num)
      _ < 2 ^ (1024 : ℤ) := lt_of_abs_lt (abs_natCast_lt_overflow (by norm_num))
  have hfin' := isFinite_sub hfin isFinite_hundred hbound
  unfold isFullyAllocated
  rw [decide_eq_true_iff, maxPercentage, le_iff_value_le ((isFinite_floatAbs _).trans hfin') hfinT,
    value_abs, value_sub hfin isFinite_hundred hfin', value_hundred, hneg, abs_neg,
    abs_of_nonneg hshort]

/-- Up to 100, a smaller sum falls further short of a full allocation. -/
theorem isFullyAllocated_eq_false_of_le {s t : Float} (hs : s.isFinite = true) (ht : t.isFinite = true)
    (ht0 : 0 ≤ value t) (hts : value t ≤ value s) (hs100 : value s ≤ 100)
    (h : isFullyAllocated s = false) :
  isFullyAllocated t = false
  := by
  rw [← Bool.not_eq_true, isFullyAllocated_iff_of_le hs (ht0.trans hts) hs100] at h
  rw [← Bool.not_eq_true, isFullyAllocated_iff_of_le ht ht0 (hts.trans hs100)]
  intro hshort
  exact h ((roundDouble_mono (by linarith)).trans hshort)

/-- A sum over 100 but within capacity is a full allocation. -/
theorem isFullyAllocated_of_le_ceiling {sum : Float} (hfin : sum.isFinite = true)
    (h100 : 100 < value sum) (hle : value sum ≤ value (maxPercentage + ceilingEpsilon)) :
  isFullyAllocated sum = true
  := by
  apply isFullyAllocated_of_near hfin
  rw [abs_le]
  constructor <;> linarith [fullAllocation_bounds.1]

section WithinCapacity

variable {ps qs : List Float} (h : WithinCapacity ps) (hsub : qs.Sublist ps)
include h hsub

/-- Dropping percentages within capacity never raises their sum. -/
theorem WithinCapacity.value_sumFloats_le :
  value (sumFloats qs) ≤ value (sumFloats ps)
  := by
  rw [(h.sublist hsub).value_sumFloats.2, h.value_sumFloats.2]
  exact roundedSum_le_of_sublist (hsub.map value) h.values_nonneg le_rfl roundDouble_zero

/-- Dropping percentages from a sum within capacity that falls short of a full allocation leaves a
sum that falls short. A sum within capacity that falls short is under 100: over it, it would be
within tolerance. -/
theorem WithinCapacity.isFullyAllocated_sublist (hshort : isFullyAllocated (sumFloats ps) = false) :
  isFullyAllocated (sumFloats qs) = false
  := by
  have hq := h.sublist hsub
  obtain ⟨hfin, hval⟩ := h.value_sumFloats
  obtain ⟨hfin', hval'⟩ := hq.value_sumFloats
  have h0 : 0 ≤ value (sumFloats qs) := by
    rw [hval']
    exact le_roundedSum roundDouble_zero hq.values_nonneg
  have h100 : value (sumFloats ps) ≤ 100 := by
    by_contra hover
    have hfull := isFullyAllocated_of_le_ceiling hfin (lt_of_not_ge hover) (hval ▸ h.bounded)
    rw [hfull] at hshort
    cases hshort
  exact isFullyAllocated_eq_false_of_le hfin hfin' h0 (h.value_sumFloats_le hsub) h100 hshort

end WithinCapacity

/-! ### Every run -/

/-- A distribution's state agrees with its rows: it is distributed exactly when they add up to
100 within tolerance. The rows being within capacity is carried along, for removals. -/
structure StateAgrees (d : Distribution) (rows : List Detail) : Prop where
  within : WithinCapacity (percentagesOf rows)
  state_iff : d.state = .distributed ↔ isFullyAllocated (totalPercentage rows) = true

/-- Each operation keeps every distribution's state in agreement with its rows. A new distribution
is pending and has no rows; a removal demotes a distributed distribution exactly when the rows left
fall short, and a pending one stays pending, its rows having fallen short before; repricing changes
no percentage and keeps the state. -/
theorem stateAgrees_kept : Kept StateAgrees where
  create := by
    intro b period date totalProfit hadmitted
    refine ⟨withinCapacity_kept.create b period date totalProfit hadmitted, ?_⟩
    rw [fullAllocation_bounds.2]
    simp [Distribution.create]
  addManual := by
    intro b hk distribution participant percentage d amount hadmitted h
    refine ⟨withinCapacity_kept.addManual b hk distribution participant percentage d amount hadmitted
      h.within, ?_⟩
    rw [totalPercentage_append_singleton]
    exact stateFor_eq_distributed _
  allocate := by
    intro b hk distribution d allocations hadmitted h
    refine ⟨withinCapacity_kept.allocate b hk distribution d allocations hadmitted h.within, ?_⟩
    rw [totalPercentage_numberFrom]
    exact stateFor_eq_distributed _
  remove := by
    intro b hk id r d hadmitted h
    refine ⟨withinCapacity_kept.remove b hk id r d hadmitted h.within, ?_⟩
    cases hstate : d.state with
    | distributed =>
      cases hfull : isFullyAllocated (totalPercentage ((b.detailsOf r.distribution).filter (·.id != some id))) with
      | false => simp
      | true => simp [hstate]
    | pending =>
      have hshort : isFullyAllocated (totalPercentage (b.detailsOf r.distribution)) = false := by
        simpa [hstate] using h.state_iff
      have hleft : isFullyAllocated (totalPercentage ((b.detailsOf r.distribution).filter (·.id != some id)))
          = false :=
        h.within.isFullyAllocated_sublist (List.filter_sublist.map _) hshort
      simp [hstate, hleft]
  retotal := by
    intro b hk distribution total d amounts hadmitted h
    obtain ⟨-, -, hamounts⟩ := admitRetotal_eq_ok b hadmitted
    refine ⟨withinCapacity_kept.retotal b hk distribution total d amounts hadmitted h.within, ?_⟩
    have hsame : totalPercentage (List.zipWith (fun r a => { r with amount := a }) (b.detailsOf distribution) amounts)
        = totalPercentage (b.detailsOf distribution) :=
      congrArg sumFloats (percentagesOf_reprice hamounts.length_eq.symm)
    rw [hsame]
    exact h.state_iff

/-- On every reachable state, the store lists each distribution's rows in increasing identifier
order, and the distribution is distributed exactly when these rows, summed from the left, add up to
100 within tolerance. The store keeps all rows in identifier order, so a distribution's rows too. -/
theorem distributed_iff_fully_allocated {b : Books} (hb : Reachable b) {id : Int} {d : Distribution}
    (hd : b.distributionOf id = some d) :
  (b.detailsOf id).Pairwise (fun r s => rowKey r < rowKey s)
    ∧ (d.state = .distributed ↔ isFullyAllocated (totalPercentage (b.detailsOf id)) = true)
  := by
  obtain ⟨-, hstate⟩ := stateAgrees_kept.reachable hb id d hd
  exact ⟨hb.keyed.row_order.filter _, hstate⟩

/-- The sample run's distribution is distributed exactly when its rows add up to 100. -/
theorem distributed_iff_fully_allocated_sampleRun :
  Reachable sampleRun ∧ ∃ d, sampleRun.distributionOf 1 = some d
    ∧ (sampleRun.detailsOf 1).Pairwise (fun r s => rowKey r < rowKey s)
    ∧ (d.state = .distributed ↔ isFullyAllocated (totalPercentage (sampleRun.detailsOf 1)) = true)
  := by
  obtain ⟨d, hd⟩ := Option.isSome_iff_exists.mp
    (show (sampleRun.distributionOf 1).isSome = true by decide +kernel)
  exact ⟨reachable_sampleRun, d, hd, distributed_iff_fully_allocated reachable_sampleRun hd⟩

end Payout.Lifecycle.Books
