import Payout.Proofs.Lifecycle.Amounts
import Payout.Proofs.Allocation.Percentages

/-!
# No distribution is over-allocated

Along every run, the rows of every distribution, in the order the store lists them, add up to
at most `maxPercentage + ceilingEpsilon` (`totalPercentage_le_capacity`). Rows come three ways,
and each keeps the bound for its own reason:

* a row added by hand passes `validateCapacity`, which compares with the ceiling the very sum
  the rows then have: the sum of the rows before, plus the new percentage;
* rows written by an automatic allocation are never checked against the ceiling; they are
  whole hundredths adding up to at most 10,000, whose left sum stays below `100 + 9 / 10 ^ 10`
  (`roundedSum_percentages_le`);
* removing a row never raises a left sum of nonnegative terms, and a new total profit leaves
  every percentage as it is.

The invariant is carried by the percentages, on the rationals (`WithinCapacity`): finite and
nonnegative, with a left sum, rounded as doubles are, at most the ceiling.
-/

namespace Payout.Lifecycle.Books

open Double

/-- The ceiling `maxPercentage + ceilingEpsilon` is a double just above `100 + 1e-9`. -/
theorem capacity_bounds :
  (maxPercentage + ceilingEpsilon).isFinite = true
    ∧ 100 + 9 / 10 ^ 10 ≤ value (maxPercentage + ceilingEpsilon)
    ∧ value (maxPercentage + ceilingEpsilon) ≤ 101
  := validation_bounds.1

/-- Percentages within capacity: finite and nonnegative, with a left sum, rounded as doubles
are, at most the ceiling. -/
structure WithinCapacity (ps : List Float) : Prop where
  admitted : ∀ p ∈ ps, p.isFinite = true ∧ 0 ≤ value p
  bounded : roundedSum 0 (ps.map value) ≤ value (maxPercentage + ceilingEpsilon)

section WithinCapacity

variable {ps : List Float} (h : WithinCapacity ps)
include h

theorem WithinCapacity.values_nonneg :
  ∀ x ∈ ps.map value, 0 ≤ x
  := by
  intro x hx
  obtain ⟨p, hp, rfl⟩ := List.mem_map.mp hx
  exact (h.admitted p hp).2

/-- The program's sum of percentages within capacity is finite and is their rounded left sum. -/
theorem WithinCapacity.value_sumFloats :
  (sumFloats ps).isFinite = true ∧ value (sumFloats ps) = roundedSum 0 (ps.map value)
  := by
  obtain ⟨-, -, hle⟩ := capacity_bounds
  have hfin : (sumFloats ps).isFinite = true := by
    apply isFinite_sumFloats h.admitted
    calc roundedSum 0 (ps.map value) ≤ value (maxPercentage + ceilingEpsilon) := h.bounded
      _ ≤ ((101 : ℕ) : ℚ) := by rw [Nat.cast_ofNat]; exact hle
      _ < 2 ^ (1024 : ℤ) := lt_of_abs_lt (abs_natCast_lt_overflow (by norm_num))
  exact ⟨hfin, (Double.value_sumFloats hfin).2⟩

/-- Percentages within capacity pass the comparison with the ceiling. -/
theorem WithinCapacity.sumFloats_le :
  sumFloats ps ≤ maxPercentage + ceilingEpsilon
  := by
  obtain ⟨hfin, hval⟩ := h.value_sumFloats
  rw [le_iff_value_le hfin capacity_bounds.1, hval]
  exact h.bounded

/-- Dropping percentages keeps them within capacity. -/
theorem WithinCapacity.sublist {qs : List Float} (hsub : qs.Sublist ps) :
  WithinCapacity qs
  := by
  refine ⟨fun q hq => h.admitted q (hsub.subset hq), ?_⟩
  exact (roundedSum_le_of_sublist (hsub.map value) h.values_nonneg le_rfl roundDouble_zero).trans h.bounded

/-- A percentage in `(0, 100]` that passes `validateCapacity` on top of percentages within capacity
keeps them within capacity: the check compares the very sum they then have. The new sum is finite,
at most `101 + 100`, and the check passed, so it is at most the ceiling. -/
theorem WithinCapacity.append {p : Float} (hp : InRange p) {distribution : Int}
    (hcapacity : validateCapacity distribution (sumFloats ps) p = .ok ()) :
  WithinCapacity (ps ++ [p])
  := by
  obtain ⟨hfinC, -, hle⟩ := capacity_bounds
  obtain ⟨hfin, hval⟩ := h.value_sumFloats
  have hnonneg : 0 ≤ roundedSum 0 (ps.map value) := le_roundedSum roundDouble_zero h.values_nonneg
  have hbound : |roundDouble (value (sumFloats ps) + value p)| < 2 ^ (1024 : ℤ) := by
    have hsum : value (sumFloats ps) + value p ≤ ((201 : ℕ) : ℚ) := by
      rw [hval, Nat.cast_ofNat]
      linarith [h.bounded, hp.2.2]
    rw [abs_of_nonneg (roundDouble_nonneg (by rw [hval]; linarith [hp.2.1]))]
    calc roundDouble (value (sumFloats ps) + value p) ≤ roundDouble ((201 : ℕ) : ℚ) :=
          roundDouble_mono hsum
      _ = ((201 : ℕ) : ℚ) := roundDouble_natCast (by norm_num)
      _ < 2 ^ (1024 : ℤ) := lt_of_abs_lt (abs_natCast_lt_overflow (by norm_num))
  have hfin' := isFinite_add hfin hp.1 hbound
  unfold validateCapacity at hcapacity
  split at hcapacity
  · cases hcapacity
  rename_i hnot
  rw [gt_iff_lt, lt_iff_value_lt hfinC hfin', value_add hfin hp.1 hfin', hval] at hnot
  refine ⟨fun q hq => ?_, ?_⟩
  · rcases List.mem_append.mp hq with hq | hq
    · exact h.admitted q hq
    · rw [List.mem_singleton.mp hq]
      exact ⟨hp.1, hp.2.1.le⟩
  · rw [List.map_append, roundedSum_append, List.map_singleton, roundedSum_cons, roundedSum_nil]
    exact le_of_not_gt hnot

end WithinCapacity

/-- No percentages are within capacity. -/
theorem withinCapacity_nil :
  WithinCapacity []
  := by
  refine ⟨?_, ?_⟩
  · intro p hp
    cases hp
  · exact le_trans (by norm_num) capacity_bounds.2.1

/-- Stored percentages of whole hundredths adding up to at most 10,000 are within capacity. -/
theorem withinCapacity_of_hundredths {allocations : List Allocation} {ns : List ℕ}
    (h : List.Forall₂ (fun a n => IsHundredths a.percentage n) allocations ns)
    (hsum : ns.sum ≤ 10000) :
  WithinCapacity (allocations.map (·.percentage))
  := by
  refine ⟨fun p hp => ?_, ?_⟩
  · obtain ⟨a, ha, rfl⟩ := List.mem_map.mp hp
    obtain ⟨n, -, hn⟩ := exists_of_forall₂_of_mem h.flip ha
    have hrange := IsHundredths.inRange hn
    exact ⟨hrange.1, hrange.2.1.le⟩
  · rw [List.map_map]
    exact (roundedSum_percentages_le h hsum).trans capacity_bounds.2.1

/-! ### Every run -/

/-- The percentages of a distribution's rows, in the order they are listed. -/
def percentagesOf (rows : List Detail) : List Float := rows.map (·.percentage)

theorem percentagesOf_numberFrom (start : Int) (rows : List Detail) :
  percentagesOf (numberFrom start rows) = percentagesOf rows
  := numberFrom_map _ (fun _ _ => rfl) start rows

theorem percentagesOf_reprice {rows : List Detail} {amounts : List Int}
    (hlen : amounts.length = rows.length) :
  percentagesOf (List.zipWith (fun r a => { r with amount := a }) rows amounts) = percentagesOf rows
  := by
  have h := congrArg (List.map (·.percentage)) (map_unpriced_zipWith hlen)
  rw [List.map_map, List.map_map] at h
  exact h

/-- Each operation keeps every distribution's rows within capacity. -/
theorem withinCapacity_kept : Kept fun _ rows => WithinCapacity (percentagesOf rows) where
  create := by
    intro _ _ _ _ _
    exact withinCapacity_nil
  addManual := by
    intro b _ distribution participant percentage d amount hadmit hrows
    obtain ⟨hvalid, -, -, -, hcapacity, -⟩ := admitManual_eq_ok b hadmit
    rw [percentagesOf, List.map_append, List.map_singleton]
    exact hrows.append (validatePercentage_eq_ok hvalid) hcapacity
  allocate := by
    intro b _ distribution d allocations hadmit _
    obtain ⟨-, -, hcompute⟩ := admitAutomatic_eq_ok b hadmit
    obtain ⟨ns, hns, hsum⟩ := computeAllocations_hundredths hcompute
    rw [percentagesOf_numberFrom, percentagesOf, allocationRows, List.map_map]
    exact withinCapacity_of_hundredths hns hsum
  remove := by
    intro b _ id r d _ hrows
    exact hrows.sublist (List.filter_sublist.map _)
  retotal := by
    intro b _ distribution total d amounts hadmit hrows
    obtain ⟨-, -, hamounts⟩ := admitRetotal_eq_ok b hadmit
    rw [percentagesOf_reprice hamounts.length_eq.symm]
    exact hrows

/-- On every reachable state the rows of every distribution, in the order they are listed, add
up to at most `maxPercentage + ceilingEpsilon`, however they were entered. -/
theorem totalPercentage_le_capacity {b : Books} (hb : Reachable b) (id : Int) :
  totalPercentage (b.detailsOf id) ≤ maxPercentage + ceilingEpsilon
  := by
  cases hd : b.distributionOf id with
  | none =>
    rw [hb.keyed.detailsOf_eq_nil_of_distributionOf hd]
    exact withinCapacity_nil.sumFloats_le
  | some d => exact (withinCapacity_kept.reachable hb id d hd).sumFloats_le

theorem totalPercentage_le_capacity_sampleRun :
  Reachable sampleRun ∧ totalPercentage (sampleRun.detailsOf 1) ≤ maxPercentage + ceilingEpsilon
  := ⟨reachable_sampleRun, totalPercentage_le_capacity reachable_sampleRun 1⟩

end Payout.Lifecycle.Books
