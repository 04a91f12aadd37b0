import Payout.Proofs.Allocation.Pipeline
import Payout.Proofs.Allocation.Shares
import Payout.Domain.Validation

/-!
# Stored percentages of an allocation

An allocation stores, for each participant it keeps, the percentage `h / 100` of a whole
number `h` of hundredths. Put together, the apportionment (`apportionHundredths_whole`) and
the bound on the floors of the shares (`sum_floor_hundredths_le`) give that every stored
percentage is `h / 100` for a whole `h` from 1 to 10,000, and that these `h` add up to at most
10,000 (`computeAllocations_hundredths`). Hence each percentage lies in `(0, 100]`, as
one entered by hand must (`InRange`), and their left sum stays below
`100 + 9 / 10 ^ 10` however many rows there are (`roundedSum_percentages_le`).

An allocation also keeps participants in the order of the standings, leaving some out
(`computeAllocations_participants`).
-/

namespace Payout

open Double

/-! ### One stored percentage -/

/-- A double computed as `h / 100` for a double `h` that is the whole number `n` of
hundredths, from 1 to 10,000. -/
def IsHundredths (p : Float) (n : ℕ) : Prop :=
  1 ≤ n ∧ n ≤ 10000 ∧ ∃ h : Float, IsWhole h n ∧ p = h / 100.0

/-- A percentage the schema admits: a finite double in `(0, 100]`. -/
def InRange (p : Float) : Prop := p.isFinite = true ∧ 0 < value p ∧ value p ≤ 100

section InRange

variable {p : Float} (hp : InRange p)
include hp

/-- An admitted percentage passes the check `0 < percentage`. -/
theorem InRange.pos :
  0.0 < p
  := by
  rw [lt_iff_value_lt isFinite_zero hp.1, value_zero]
  exact hp.2.1

/-- An admitted percentage passes the check `percentage ≤ 100`. -/
theorem InRange.le_hundred :
  p ≤ 100.0
  := by
  rw [le_iff_value_le hp.1 isFinite_hundred, value_hundred]
  exact hp.2.2

end InRange

/-- The bounds of validation as doubles: the ceiling of a distribution's rows,
`maxPercentage + ceilingEpsilon`, lies just above `100 + 1e-9`, and the tolerance of a full
allocation, `percentageTolerance + ceilingEpsilon`, is at least a hundredth. The kernel evaluates
both at once: each such evaluation holds a thread of its own while it runs. -/
theorem validation_bounds :
  ((maxPercentage + ceilingEpsilon).isFinite = true
      ∧ 100 + 9 / 10 ^ 10 ≤ value (maxPercentage + ceilingEpsilon)
      ∧ value (maxPercentage + ceilingEpsilon) ≤ 101)
    ∧ (percentageTolerance + ceilingEpsilon).isFinite = true
      ∧ 1 / 100 ≤ value (percentageTolerance + ceilingEpsilon)
  := by decide +kernel

/-- A percentage that passes `validatePercentage` is admitted. -/
theorem validatePercentage_eq_ok {p : Float} (h : validatePercentage p = .ok ()) :
  InRange p
  := by
  unfold validatePercentage at h
  split at h
  · cases h
  rename_i hcheck
  simp only [Bool.or_eq_true, Bool.not_eq_true', decide_eq_true_eq, not_or, Bool.not_eq_false]
    at hcheck
  obtain ⟨⟨hfin, hpos⟩, hle⟩ := hcheck
  rw [isFinite_eq] at hfin
  rw [le_iff_value_le hfin isFinite_zero, value_zero] at hpos
  rw [maxPercentage, gt_iff_lt, lt_iff_value_lt isFinite_hundred hfin, value_hundred] at hle
  exact ⟨hfin, lt_of_not_ge hpos, le_of_not_gt hle⟩

/-- At most 10,000 hundredths round to at most 100. -/
theorem roundDouble_hundredths_le_hundred {n : ℕ} (hn : n ≤ 10000) :
  roundDouble ((n : ℚ) / 100) ≤ 100
  := by
  calc roundDouble ((n : ℚ) / 100) ≤ roundDouble ((100 : ℕ) : ℚ) :=
        roundDouble_mono (by rw [div_le_iff₀ (by norm_num)]; exact_mod_cast (by omega))
    _ = 100 := by rw [roundDouble_natCast (by norm_num)]; norm_num

section Hundredths

variable {p : Float} {n : ℕ} (hp : IsHundredths p n)
include hp

/-- A stored percentage is finite and is `n / 100` rounded. -/
theorem IsHundredths.value_eq :
  p.isFinite = true ∧ value p = roundDouble (n / 100)
  := by
  obtain ⟨-, hn, h, ⟨hfin, hval⟩, rfl⟩ := hp
  have hquot : value h / value 100.0 = n / 100 := by rw [hval, value_hundred]
  have hle : roundDouble ((n : ℚ) / 100) ≤ ((100 : ℕ) : ℚ) := by
    rw [Nat.cast_ofNat]
    exact roundDouble_hundredths_le_hundred hn
  have hfin' : (h / 100.0).isFinite = true := by
    apply isFinite_div hfin isFinite_hundred (by rw [value_hundred]; norm_num)
    rw [hquot, abs_of_nonneg (roundDouble_nonneg (by positivity))]
    exact lt_of_le_of_lt hle (lt_of_abs_lt (abs_natCast_lt_overflow (by norm_num)))
  refine ⟨hfin', ?_⟩
  rw [value_div hfin isFinite_hundred (by rw [value_hundred]; norm_num) hfin', hquot]

/-- A stored percentage is at most its exact value with one relative rounding and one
subnormal term. -/
theorem IsHundredths.value_le :
  value p ≤ n / 100 * (1 + 1 / 2 ^ 53) + 2 ^ (-1075 : ℤ)
  := by
  rw [hp.value_eq.2]
  have h := abs_roundDouble_sub_le ((n : ℚ) / 100)
  rw [abs_of_nonneg (by positivity : (0 : ℚ) ≤ n / 100)] at h
  obtain ⟨-, hhi⟩ := abs_le.mp h
  linarith

/-- A stored percentage is at least its exact value with one relative rounding, less one
subnormal term. -/
theorem IsHundredths.le_value :
  n / 100 * (1 - 1 / 2 ^ 53) - 2 ^ (-1075 : ℤ) ≤ value p
  := by
  rw [hp.value_eq.2]
  have h := abs_roundDouble_sub_le ((n : ℚ) / 100)
  rw [abs_of_nonneg (by positivity : (0 : ℚ) ≤ n / 100)] at h
  obtain ⟨hlo, -⟩ := abs_le.mp h
  linarith

/-- A stored percentage is positive: at least one hundredth rounds far from zero. -/
theorem IsHundredths.value_pos :
  0 < value p
  := by
  rw [hp.value_eq.2]
  obtain ⟨h1, -, -⟩ := hp
  have h := abs_roundDouble_sub_le ((n : ℚ) / 100)
  rw [abs_of_nonneg (by positivity : (0 : ℚ) ≤ n / 100)] at h
  obtain ⟨hlo, -⟩ := abs_le.mp h
  have hn : (1 : ℚ) ≤ n := by exact_mod_cast h1
  have hδ := two_zpow_subnormal_le
  linarith

theorem IsHundredths.value_le_hundred :
  value p ≤ 100
  := by
  rw [hp.value_eq.2]
  exact roundDouble_hundredths_le_hundred hp.2.1

/-- A stored percentage is a percentage the schema admits. -/
theorem IsHundredths.inRange :
  InRange p
  := ⟨hp.value_eq.1, hp.value_pos, hp.value_le_hundred⟩

end Hundredths

/-! ### All the stored percentages -/

section Sums

variable {allocations : List Allocation} {ns : List ℕ}
  (h : List.Forall₂ (fun a n => IsHundredths a.percentage n) allocations ns)
include h

/-- The exact sum of percentages of whole hundredths, each rounded once. -/
theorem sum_value_le :
  (allocations.map fun a => value a.percentage).sum
    ≤ ns.sum / 100 * (1 + 1 / 2 ^ 53) + ns.length * 2 ^ (-1075 : ℤ)
  := by
  induction h with
  | nil => simp
  | cons ha _ ih =>
    have hle := ha.value_le
    simp only [List.map_cons, List.sum_cons, List.length_cons, Nat.cast_add, Nat.cast_one]
    linarith

theorem le_sum_value :
  ns.sum / 100 * (1 - 1 / 2 ^ 53) - ns.length * 2 ^ (-1075 : ℤ)
    ≤ (allocations.map fun a => value a.percentage).sum
  := by
  induction h with
  | nil => simp
  | cons ha _ ih =>
    have hle := ha.le_value
    simp only [List.map_cons, List.sum_cons, List.length_cons, Nat.cast_add, Nat.cast_one]
    linarith

/-- Stored percentages are nonnegative doubles, the terms the bounds on rounded sums take. -/
theorem percentages_nonneg_onGrid :
  ∀ x ∈ allocations.map fun a => value a.percentage, 0 ≤ x ∧ OnGrid x
  := by
  intro x hx
  obtain ⟨a, ha, rfl⟩ := List.mem_map.mp hx
  obtain ⟨n, -, hn⟩ := exists_of_forall₂_of_mem h.flip ha
  exact ⟨(IsHundredths.value_pos hn).le, onGrid_value _⟩

/-- Every row holds at least one hundredth, so hundredths adding up to at most 10,000 are
stored in at most 10,000 rows. -/
theorem length_le_of_hundredths (hsum : ns.sum ≤ 10000) :
  allocations.length ≤ 10000
  := by
  have hone : ∀ n ∈ ns, 1 ≤ n := by
    intro n hn
    obtain ⟨a, -, ha⟩ := exists_of_forall₂_of_mem h hn
    exact ha.1
  rw [h.length_eq]
  exact (List.length_le_sum_of_one_le ns hone).trans hsum

/-- Percentages of whole hundredths adding up to at most 10,000 have a left sum below
`100 + 9 / 10 ^ 10`: there are at most 10,000 of them, so the roundings of the sum cost at
most a factor `1 + 2 * 10000 / 2 ^ 53`. -/
theorem roundedSum_percentages_le (hsum : ns.sum ≤ 10000) :
  roundedSum 0 (allocations.map fun a => value a.percentage) ≤ 100 + 9 / 10 ^ 10
  := by
  have hgrid := percentages_nonneg_onGrid h
  have hlen := length_le_of_hundredths h hsum
  have hmul := roundedSum_le_mul_pow le_rfl ⟨0, by simp⟩ hgrid
  rw [zero_add, List.length_map] at hmul
  have hpow := one_add_pow_le allocations.length (by
    have : (allocations.length : ℚ) ≤ 10000 := by exact_mod_cast hlen
    rw [mul_one_div, div_le_one (by norm_num)]
    linarith)
  have hexact := sum_value_le h
  have hsum' : (ns.sum : ℚ) ≤ 10000 := by exact_mod_cast hsum
  have hlen' : (ns.length : ℚ) ≤ 10000 := by rw [← h.length_eq]; exact_mod_cast hlen
  have hδ := two_zpow_subnormal_le
  have hδ0 : (0 : ℚ) ≤ 2 ^ (-1075 : ℤ) := (two_zpow_pos _).le
  have hA : (allocations.map fun a => value a.percentage).sum
      ≤ 100 * (1 + 1 / 2 ^ 53) + 10000 / 2 ^ 60 := by
    calc _ ≤ (ns.sum : ℚ) / 100 * (1 + 1 / 2 ^ 53) + (ns.length : ℚ) * 2 ^ (-1075 : ℤ) := hexact
      _ ≤ (10000 : ℚ) / 100 * (1 + 1 / 2 ^ 53) + 10000 * (1 / 2 ^ 60) := by gcongr
      _ = 100 * (1 + 1 / 2 ^ 53) + 10000 / 2 ^ 60 := by ring
  have hF : (1 + 1 / 2 ^ 53 : ℚ) ^ allocations.length ≤ 1 + 2 * 10000 * (1 / 2 ^ 53) := by
    have : (allocations.length : ℚ) ≤ 10000 := by exact_mod_cast hlen
    linarith
  have hA0 : 0 ≤ (allocations.map fun a => value a.percentage).sum :=
    List.sum_nonneg fun x hx => (hgrid x hx).1
  calc roundedSum 0 (allocations.map fun a => value a.percentage)
      ≤ (allocations.map fun a => value a.percentage).sum * (1 + 1 / 2 ^ 53) ^ allocations.length :=
        hmul
    _ ≤ (100 * (1 + 1 / 2 ^ 53) + 10000 / 2 ^ 60) * (1 + 2 * 10000 * (1 / 2 ^ 53)) :=
        mul_le_mul hA hF (pow_nonneg (by norm_num) _) (by positivity)
    _ ≤ 100 + 9 / 10 ^ 10 := by norm_num

/-- Percentages of whole hundredths adding up to exactly 10,000 have a left sum above
`100 - 9 / 10 ^ 10`: the roundings of the terms and of the sum cost at most a factor
`1 - 10001 / 2 ^ 53`. -/
theorem le_roundedSum_percentages (hsum : ns.sum = 10000) :
  100 - 9 / 10 ^ 10 ≤ roundedSum 0 (allocations.map fun a => value a.percentage)
  := by
  have hgrid := percentages_nonneg_onGrid h
  have hlen := length_le_of_hundredths h hsum.le
  have hmul := mul_pow_le_roundedSum le_rfl ⟨0, by simp⟩ hgrid
  rw [zero_add, List.length_map] at hmul
  have hlen' : (allocations.length : ℚ) ≤ 10000 := by exact_mod_cast hlen
  have hpow : 1 - 10000 / 2 ^ 53 ≤ (1 - 1 / 2 ^ 53 : ℚ) ^ allocations.length := by
    have h := one_add_mul_le_pow (a := -(1 / 2 ^ 53 : ℚ)) (by norm_num) allocations.length
    rw [← sub_eq_add_neg] at h
    linarith
  have hexact := le_sum_value h
  have hsum' : (ns.sum : ℚ) = 10000 := by exact_mod_cast hsum
  have hnlen : (ns.length : ℚ) ≤ 10000 := by rw [← h.length_eq]; exact hlen'
  have hδ := two_zpow_subnormal_le
  have hA : 100 * (1 - 1 / 2 ^ 53) - 10000 / 2 ^ 60
      ≤ (allocations.map fun a => value a.percentage).sum := by
    calc 100 * (1 - 1 / 2 ^ 53) - 10000 / 2 ^ 60
        ≤ (ns.sum : ℚ) / 100 * (1 - 1 / 2 ^ 53) - (ns.length : ℚ) * 2 ^ (-1075 : ℤ) := by
          rw [hsum']
          have hprod : (ns.length : ℚ) * 2 ^ (-1075 : ℤ) ≤ 10000 * (1 / 2 ^ 60) :=
            mul_le_mul hnlen hδ (two_zpow_pos _).le (by norm_num)
          linarith
      _ ≤ _ := hexact
  calc 100 - 9 / 10 ^ 10
      ≤ (100 * (1 - 1 / 2 ^ 53) - 10000 / 2 ^ 60) * (1 - 10000 / 2 ^ 53) := by norm_num
    _ ≤ (allocations.map fun a => value a.percentage).sum * (1 - 1 / 2 ^ 53) ^ allocations.length :=
        mul_le_mul hA hpow (by norm_num) (List.sum_nonneg fun x hx => (hgrid x hx).1)
    _ ≤ roundedSum 0 (allocations.map fun a => value a.percentage) := hmul

end Sums

/-! ### What an allocation stores -/

/-- Dropping the zeros of whole numbers keeps their sum. -/
theorem sum_filter_pos (ns : List ℕ) :
  (ns.filter fun n => decide (0 < n)).sum = ns.sum
  := by
  induction ns with
  | nil => rfl
  | cons n ns ih =>
    rw [List.filter_cons, List.sum_cons, ← ih]
    split
    · rw [List.sum_cons]
    · rename_i hn
      have hzero : n = 0 := by simpa using hn
      rw [hzero, zero_add]

/-- An allocation of whole hundredths adding up to at most 10,000 stores, for each share it keeps,
its number of hundredths over 100; the shares it leaves out hold none, so the stored numbers add up
to the same total. The kept shares are those with a positive whole number of hundredths. -/
theorem allocate_hundredths {totalProfit : Int} {shares : List Share} {hundredths : List Float}
    {allocations : List Allocation} {ns : List ℕ} (h : allocate totalProfit shares = .ok allocations)
    (happortion : apportionHundredths totalProfit shares = .ok hundredths)
    (hwhole : List.Forall₂ IsWhole hundredths ns) (hsum : ns.sum ≤ 10000) :
  ∃ ms : List ℕ, List.Forall₂ (fun a n => IsHundredths a.percentage n) allocations ms
    ∧ ms.sum = ns.sum
  := by
  obtain ⟨-, hundredths', happortion', hrows⟩ := allocate_eq_ok h
  obtain rfl : hundredths = hundredths' := Except.ok.inj (happortion.symm.trans happortion')
  have hlen : shares.length = hundredths.length := (length_apportionHundredths happortion).symm
  have hkept := List.rel_filter (R := fun (sh : Share × Float) n => IsWhole sh.2 n)
    (p := fun sh => sh.2 > 0.0) (q := fun n => decide (0 < n))
    (by
      intro sh n hsn
      obtain ⟨hfin, hval⟩ := hsn
      simp only [decide_eq_true_eq]
      rw [gt_iff_lt, lt_iff_value_lt isFinite_zero hfin, value_zero, hval]
      exact_mod_cast Iff.rfl)
    (forall₂_zip_right hwhole hlen)
  have hkeptSum : (ns.filter fun n => decide (0 < n)).sum = ns.sum := sum_filter_pos ns
  refine ⟨ns.filter fun n => decide (0 < n), ?_, hkeptSum⟩
  apply forall₂_imp_of_mem (forall₂_of_common_left hrows hkept)
  rintro a n - hn ⟨sh, ⟨-, -, hpercentage, -⟩, hsh⟩
  have hpos : 0 < n := by simpa using (List.mem_filter.mp hn).2
  exact ⟨hpos, (List.le_sum_of_mem hn).trans (hkeptSum.le.trans hsum), sh.2, hsh, hpercentage⟩

/-- Every stored percentage of an allocation is a whole number of hundredths from 1 to
10,000 over 100. These numbers add up to 10,000, unless the floors of the shares with one
more hundredth for each share come to less: then they add up to that. -/
theorem computeAllocations_sum_hundredths {totalProfit : Int} {standings : List Standing}
    {allocations : List Allocation} (h : computeAllocations totalProfit standings = .ok allocations) :
  ∃ weights shares, computeWeights standings = .ok weights ∧ normalizeWeights weights = .ok shares
    ∧ (∀ s ∈ shares, s.hundredths.isFinite = true)
    ∧ ∃ ms : List ℕ, List.Forall₂ (fun a n => IsHundredths a.percentage n) allocations ms
      ∧ ms.sum = min 10000 ((shares.map fun s => ⌊value s.hundredths⌋₊).sum + shares.length)
  := by
  obtain ⟨weights, shares, hweights, hshares, hallocate⟩ := computeAllocations_eq_ok h
  obtain ⟨-, hundredths, happortion, -⟩ := allocate_eq_ok hallocate
  obtain ⟨hscaled, -⟩ := apportionHundredths_eq_ok happortion
  have hfin : ∀ s ∈ shares, s.hundredths.isFinite = true := fun s hs => (hscaled s hs).1
  have hfloors := sum_floor_hundredths_le hshares hfin
  obtain ⟨ns, hwhole, hsum⟩ := apportionHundredths_whole happortion hfloors
  obtain ⟨ms, hms, hmsum⟩ := allocate_hundredths hallocate happortion hwhole (by omega)
  refine ⟨weights, shares, hweights, hshares, hfin, ms, hms, ?_⟩
  omega

/-- Every stored percentage of an allocation is a whole number of hundredths from 1 to
10,000 over 100, and these numbers add up to at most 10,000. -/
theorem computeAllocations_hundredths {totalProfit : Int} {standings : List Standing}
    {allocations : List Allocation} (h : computeAllocations totalProfit standings = .ok allocations) :
  ∃ ns : List ℕ, List.Forall₂ (fun a n => IsHundredths a.percentage n) allocations ns
    ∧ ns.sum ≤ 10000
  := by
  obtain ⟨_, shares, -, -, -, ms, hms, hsum⟩ := computeAllocations_sum_hundredths h
  refine ⟨ms, hms, ?_⟩
  rw [hsum]
  exact min_le_left _ _

/-! ### Who an allocation keeps -/

/-- Weights are computed for the standings' participants, in order. -/
theorem computeWeights_participants {standings : List Standing} {weights : List Weighted}
    (h : computeWeights standings = .ok weights) :
  weights.map (·.participant) = standings.map (·.participant)
  := by
  apply eq_map_of_forall₂
  apply List.forall₂_map_right_iff.mpr
  apply (forall₂_of_mapM_eq_ok h).imp
  intro s w hw
  revert hw
  cases computeWeight s.investment (s.importance.getD 0.0) with
  | error e =>
    intro hw
    cases hw
  | ok x =>
    intro hw
    cases hw
    rfl

/-- Shares are given to some of the weighted participants, in order. -/
theorem normalizeWeights_participants {weights : List Weighted} {shares : List Share}
    (h : normalizeWeights weights = .ok shares) :
  (shares.map (·.participant)).Sublist (weights.map (·.participant))
  := by
  obtain ⟨-, -, rfl⟩ := normalizeWeights_eq_ok h
  rw [List.map_map]
  exact List.filter_sublist.map _

/-- An allocation keeps some of the participants of the standings, in their order. Each allocation
names the participant of its kept share. -/
theorem computeAllocations_participants {totalProfit : Int} {standings : List Standing}
    {allocations : List Allocation} (h : computeAllocations totalProfit standings = .ok allocations) :
  (allocations.map (·.participant)).Sublist (standings.map (·.participant))
  := by
  obtain ⟨weights, shares, hweights, hshares, hallocate⟩ := computeAllocations_eq_ok h
  obtain ⟨-, hundredths, happortion, hrows⟩ := allocate_eq_ok hallocate
  have hkept : allocations.map (·.participant)
      = ((shares.zip hundredths).filter fun sh => sh.2 > 0.0).map (·.1.participant) := by
    apply eq_map_of_forall₂
    apply List.forall₂_map_right_iff.mpr
    exact hrows.imp fun _ _ hrow => hrow.1
  have hzip : (shares.zip hundredths).map (·.1.participant) = shares.map (·.participant) := by
    rw [show (fun sh : Share × Float => sh.1.participant) = (·.participant) ∘ Prod.fst from rfl,
      ← List.map_map, List.map_fst_zip (length_apportionHundredths happortion).ge]
  have hfiltered : (((shares.zip hundredths).filter fun sh => sh.2 > 0.0).map (·.1.participant)).Sublist
      (shares.map (·.participant)) := by
    rw [← hzip]
    exact List.filter_sublist.map _
  rw [hkept, ← computeWeights_participants hweights]
  exact hfiltered.trans (normalizeWeights_participants hshares)

end Payout
