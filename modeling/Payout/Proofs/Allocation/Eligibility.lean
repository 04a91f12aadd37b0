import Payout.Proofs.Allocation.Monotone
import Payout.Proofs.Double.Removal

/-!
# Who takes part in an allocation

A standing's weight is its investment scaled by the importance bonus of its role
(`Standing.weight`). The pipeline computes weights in the order of the standings, shares only
the positive ones and drops a share that gets no hundredth, so the rows of an allocation name,
in order, some of the standings of positive weight (`allocation_participants_sublist`). A
standing without investment weighs nothing whatever its role, and nothing reads whether a
participant is active (`computeAllocations_activity`).

Nobody is eligible exactly when no weight is positive. Weights of standings that pass their
checks are nonnegative when finite (`Standing.value_weight_nonneg`), and the left sum of such
weights, from negative zero, is at most zero exactly when every weight is zero
(`sumFloats_le_zero_iff`), signed zeros included: a positive weight lifts the sum to at least
itself, or to the infinity. No stage after the shares refuses for want of participants
(`allocate_eq_error`), so that sum decides it (`noEligibleParticipants_iff`).
-/

namespace Payout

open Double

/-! ### Weights of standings -/

/-- The weight of a standing: its investment scaled by the importance bonus of its role, an
importance of 0 without one. -/
def Standing.weight (s : Standing) : Float :=
  s.investment * (1.0 + s.importance.getD 0.0 / 100.0)

/-- A standing whose investment and importance pass the checks of `computeWeight`: finite and
not below zero. -/
def Standing.Valid (s : Standing) : Prop :=
  s.investment.isFinite = true ∧ 0.0 ≤ s.investment
    ∧ (s.importance.getD 0.0).isFinite = true ∧ 0.0 ≤ s.importance.getD 0.0

instance : DecidablePred Standing.Valid :=
  fun _ => inferInstanceAs (Decidable (_ ∧ _ ∧ _ ∧ _))

/-- A computed weight is the weight of the standing. -/
theorem computeWeight_eq_ok {s : Standing} {w : Float}
    (h : computeWeight s.investment (s.importance.getD 0.0) = .ok w) :
  w = s.weight
  := by
  unfold computeWeight at h
  split at h
  · cases h
  split at h
  · cases h
  cases h
  rfl

/-- A valid standing has its weight computed. -/
theorem computeWeight_of_valid {s : Standing} (hs : s.Valid) :
  computeWeight s.investment (s.importance.getD 0.0) = .ok s.weight
  := by
  obtain ⟨hinv, hinv0, himp, himp0⟩ := hs
  unfold computeWeight
  rw [check_of_finite_nonneg hinv (value_nonneg_of_le hinv hinv0),
    check_of_finite_nonneg himp (value_nonneg_of_le himp himp0)]
  rfl

/-- Computed weights are the weights of the standings, in order. -/
theorem computeWeights_eq_ok {standings : List Standing} {weights : List Weighted}
    (h : computeWeights standings = .ok weights) :
  weights = standings.map fun s => ⟨s.participant, s.weight⟩
  := by
  apply eq_map_of_forall₂
  apply (forall₂_of_mapM_eq_ok h).imp
  intro s w hw
  cases hcw : computeWeight s.investment (s.importance.getD 0.0) with
  | error e =>
    rw [hcw] at hw
    cases hw
  | ok x =>
    rw [hcw] at hw
    cases hw
    rw [computeWeight_eq_ok hcw]

/-- Valid standings have all their weights computed. -/
theorem computeWeights_of_valid {standings : List Standing} (hs : ∀ s ∈ standings, s.Valid) :
  computeWeights standings = .ok (standings.map fun s => ⟨s.participant, s.weight⟩)
  := by
  apply mapM_eq_ok_map
  intro s hmem
  show (computeWeight s.investment (s.importance.getD 0.0)).map _ = _
  rw [computeWeight_of_valid (hs s hmem)]
  rfl

/-- The finite weight of a valid standing is not below zero: the investment and the bonus
`1 + importance / 100` are not, and rounding keeps the sign of each step. -/
theorem Standing.value_weight_nonneg {s : Standing} (hs : s.Valid) (hw : s.weight.isFinite = true) :
  0 ≤ value s.weight
  := by
  obtain ⟨hinv, hinv0, himp, himp0⟩ := hs
  obtain ⟨-, hbonus⟩ := isFinite_of_isFinite_mul hw
  obtain ⟨-, hq⟩ := isFinite_of_isFinite_add hbonus
  have hinv0 := value_nonneg_of_le hinv hinv0
  have himp0 := value_nonneg_of_le himp himp0
  have hq0 : 0 ≤ value (s.importance.getD 0.0 / 100.0) := by
    rw [value_div himp isFinite_hundred (by rw [value_hundred]; norm_num) hq, value_hundred]
    exact roundDouble_nonneg (by positivity)
  have hbonus0 : 0 ≤ value (1.0 + s.importance.getD 0.0 / 100.0) := by
    rw [value_add isFinite_one hq hbonus, value_one]
    exact roundDouble_nonneg (by linarith)
  rw [Standing.weight, value_mul hinv hbonus hw]
  exact roundDouble_nonneg (mul_nonneg hinv0 hbonus0)

/-! ### Who gets a row -/

/-- An allocation's rows name, in order, some of the participants of its shares. -/
theorem allocate_participants {totalProfit : Int} {shares : List Share} {rows : List Allocation}
    (h : allocate totalProfit shares = .ok rows) :
  (rows.map (·.participant)).Sublist (shares.map (·.participant))
  := by
  obtain ⟨-, hundredths, happ, hrows⟩ := allocate_eq_ok h
  obtain ⟨hids, hzip⟩ := participants_rows (length_apportionHundredths happ).symm hrows
  rw [hids, ← hzip]
  exact List.filter_sublist.map _

/-- The rows of an allocation name, in order, some of the standings of positive weight. The shares
are those of the positive weights, with their participants. -/
theorem allocation_participants_sublist {totalProfit : Int} {standings : List Standing}
    {rows : List Allocation} (h : computeAllocations totalProfit standings = .ok rows) :
  (rows.map (·.participant)).Sublist
    ((standings.filter fun s => s.weight > 0.0).map (·.participant))
  := by
  obtain ⟨weights, shares, hweights, hshares, hallocate⟩ := computeAllocations_eq_ok h
  have hshareids : shares.map (·.participant)
      = (standings.filter fun s => s.weight > 0.0).map (·.participant) := by
    obtain ⟨-, -, rfl⟩ := normalizeWeights_eq_ok hshares
    rw [computeWeights_eq_ok hweights, List.filter_map, List.map_map, List.map_map, List.map_map]
    rfl
  rw [← hshareids]
  exact allocate_participants hallocate

/-- Allocation does not read whether a participant is active. -/
theorem computeAllocations_activity (totalProfit : Int) (standings : List Standing) :
  computeAllocations totalProfit (standings.map fun s => { s with active := true })
    = computeAllocations totalProfit standings
  := by
  have hweights : computeWeights (standings.map fun s => { s with active := true })
      = computeWeights standings := by
    unfold computeWeights
    rw [List.mapM_map]
    rfl
  unfold computeAllocations
  rw [hweights]

/-! ### Nobody eligible -/

/-- Finite doubles are equal as doubles exactly when their values are: the two zeros are
equal. -/
theorem beq_iff_value_eq {a b : Float} (ha : a.isFinite = true) (hb : b.isFinite = true) :
  (a == b) = true ↔ value a = value b
  := by
  have h := compare_eq_some (packable_unpack a.toModel) (packable_unpack b.toModel) ha hb
  show (a.toModel.unpack.compare b.toModel.unpack == some .eq) = true ↔ _
  simp only [h, beq_iff_eq, Option.some.injEq]
  simp [value]

theorem beq_zero_iff {x : Float} (hx : x.isFinite = true) :
  (x == 0.0) = true ↔ value x = 0
  := by
  rw [beq_iff_value_eq hx isFinite_zero, value_zero]

/-- The left sum of finite nonnegative doubles is at most zero exactly when every term is zero: a
term above zero lifts a finite sum to at least itself, and an infinite sum is above zero anyway.
Zero terms leave the sum a finite zero. -/
theorem sumFloats_le_zero_iff {xs : List Float} (hxs : ∀ x ∈ xs, x.isFinite = true ∧ 0 ≤ value x) :
  sumFloats xs ≤ 0.0 ↔ ∀ x ∈ xs, value x = 0
  := by
  have hterms : ∀ y ∈ xs.map value, 0 ≤ y := by
    intro y hy
    obtain ⟨x, hx, rfl⟩ := List.mem_map.mp hy
    exact (hxs x hx).2
  constructor
  · intro hle x hx
    rcases NonnegOrInf.sumFloats hxs with ⟨hsum, -⟩ | hinf
    · have hterm : value x ≤ value (sumFloats xs) := by
        rw [(value_sumFloats hsum).2]
        calc value x = roundedSum 0 [value x] := by simp [roundDouble_value]
          _ ≤ roundedSum 0 (xs.map value) :=
            roundedSum_le_of_sublist (List.singleton_sublist.mpr (List.mem_map_of_mem hx)) hterms
              le_rfl roundDouble_zero
      rw [le_iff_value_le hsum isFinite_zero, value_zero] at hle
      linarith [(hxs x hx).2]
    · exact absurd hle (not_le_of_infinity hinf isFinite_zero)
  · intro hzero
    have hmodel : roundedSum 0 (xs.map value) = 0 := by
      rw [← roundedSum_filter_ne_zero roundDouble_zero, List.filter_eq_nil_iff.mpr]
      · rfl
      · intro y hy
        obtain ⟨x, hx, rfl⟩ := List.mem_map.mp hy
        simp [hzero x hx]
    have hsum := isFinite_sumFloats hxs (by rw [hmodel]; positivity)
    rw [le_iff_value_le hsum isFinite_zero, (value_sumFloats hsum).2, hmodel, value_zero]

/-- Normalizing finite nonnegative weights refuses for want of participants exactly when their
sum is at most zero. -/
theorem normalizeWeights_noEligible_iff {weights : List Weighted}
    (hw : ∀ w ∈ weights, w.weight.isFinite = true ∧ 0 ≤ value w.weight) :
  normalizeWeights weights = .error .noEligibleParticipants
    ↔ sumFloats (weights.map (·.weight)) ≤ 0.0
  := by
  have hnone : weights.find? (fun w => !isFinite w.weight || w.weight < 0.0) = none := by
    apply List.find?_eq_none.mpr
    intro w hmem
    obtain ⟨hfin, h0⟩ := hw w hmem
    rw [check_of_finite_nonneg hfin h0]
    decide
  unfold normalizeWeights
  rw [hnone]
  dsimp only
  split
  · rename_i hle
    exact ⟨fun _ => hle, fun _ => rfl⟩
  · rename_i hpos
    exact ⟨fun h => (by cases h), fun h => absurd h hpos⟩

/-- Apportioning refuses only a share whose hundredths are out of range. -/
theorem apportionHundredths_eq_error {totalProfit : Int} {shares : List Share} {e : DomainError}
    (h : apportionHundredths totalProfit shares = .error e) :
  ∃ p, e = .amountOutOfRange totalProfit p
  := by
  unfold apportionHundredths at h
  rcases bind_eq_error.mp h with hparts | ⟨parts, -, hrest⟩
  · obtain ⟨-, s, -, -, -, hs⟩ := mapM_eq_error_iff.mp hparts
    dsimp only at hs
    split at hs
    · cases hs
      exact ⟨s.share, rfl⟩
    · cases hs
  · cases hrest

/-- An allocation refuses only a negative total, or an amount out of range. -/
theorem allocate_eq_error {totalProfit : Int} {shares : List Share} {e : DomainError}
    (h : allocate totalProfit shares = .error e) :
  e = .invalidTotalProfit totalProfit ∨ ∃ p, e = .amountOutOfRange totalProfit p
  := by
  unfold allocate at h
  dsimp only at h
  split at h
  · cases h
    exact .inl rfl
  rcases bind_eq_error.mp h with happ | ⟨hundredths, -, hrows⟩
  · exact .inr (apportionHundredths_eq_error happ)
  · obtain ⟨-, sh, -, -, -, hrow⟩ := mapM_eq_error_iff.mp hrows
    rcases bind_eq_error.mp hrow with hamount | ⟨amount, -, hpure⟩
    · exact .inr ⟨_, Lifecycle.Books.computeAmount_eq_error hamount⟩
    · cases hpure

/-- Standings whose weights are computed lack eligible participants exactly when their weights
do: no later stage refuses so. -/
theorem computeAllocations_noEligible_iff {totalProfit : Int} {standings : List Standing}
    {weights : List Weighted} (hweights : computeWeights standings = .ok weights) :
  computeAllocations totalProfit standings = .error .noEligibleParticipants
    ↔ normalizeWeights weights = .error .noEligibleParticipants
  := by
  unfold computeAllocations
  rw [hweights, ok_bind]
  cases hnorm : normalizeWeights weights with
  | error e =>
    rw [error_bind]
    simp only [Except.error.injEq]
  | ok shares =>
    rw [ok_bind]
    constructor
    · intro h
      rcases allocate_eq_error h with hbad | ⟨p, hbad⟩ <;> cases hbad
    · intro h
      cases h

/-- Valid standings of finite weights lack eligible participants exactly when every weight is
zero. -/
theorem noEligibleParticipants_iff {totalProfit : Int} {standings : List Standing}
    (hs : ∀ s ∈ standings, s.Valid ∧ s.weight.isFinite = true) :
  computeAllocations totalProfit standings = .error .noEligibleParticipants
    ↔ ∀ s ∈ standings, (s.weight == 0.0) = true
  := by
  have hterms : ∀ x ∈ standings.map Standing.weight, x.isFinite = true ∧ 0 ≤ value x := by
    intro x hx
    obtain ⟨s, hmem, rfl⟩ := List.mem_map.mp hx
    exact ⟨(hs s hmem).2, Standing.value_weight_nonneg (hs s hmem).1 (hs s hmem).2⟩
  have hsums : (standings.map fun s => (⟨s.participant, s.weight⟩ : Weighted)).map (·.weight)
      = standings.map Standing.weight := by
    rw [List.map_map]
    rfl
  have hweights : ∀ w ∈ standings.map (fun s => (⟨s.participant, s.weight⟩ : Weighted)),
      w.weight.isFinite = true ∧ 0 ≤ value w.weight := by
    intro w hw
    apply hterms
    rw [← hsums]
    exact List.mem_map_of_mem hw
  rw [computeAllocations_noEligible_iff (computeWeights_of_valid fun s hmem => (hs s hmem).1),
    normalizeWeights_noEligible_iff hweights, hsums, sumFloats_le_zero_iff hterms]
  constructor
  · intro h s hmem
    exact (beq_zero_iff (hs s hmem).2).mpr (h _ (List.mem_map_of_mem hmem))
  · intro h x hx
    obtain ⟨s, hmem, rfl⟩ := List.mem_map.mp hx
    exact (beq_zero_iff (hs s hmem).2).mp (h s hmem)

/-! ### The rows of an allocation and its refusal -/

/-- An allocation's rows name, in order, some of the standings of positive weight; it does not
read whether a participant is active; and for valid standings of finite weights it refuses for
want of participants exactly when every weight is zero. -/
theorem allocation_rows_from_positive_weights (totalProfit : Int) (standings : List Standing) :
  (∀ rows, computeAllocations totalProfit standings = .ok rows →
      (rows.map (·.participant)).Sublist
        ((standings.filter fun s => s.weight > 0.0).map (·.participant)))
    ∧ computeAllocations totalProfit (standings.map fun s => { s with active := true })
      = computeAllocations totalProfit standings
    ∧ ((∀ s ∈ standings, s.Valid ∧ s.weight.isFinite = true) →
      (computeAllocations totalProfit standings = .error .noEligibleParticipants
        ↔ ∀ s ∈ standings, (s.weight == 0.0) = true))
  := ⟨fun _ h => allocation_participants_sublist h, computeAllocations_activity totalProfit standings,
    noEligibleParticipants_iff⟩

/-- Two standings of equal investment, the first inactive, and a third without investment
whose role is important. -/
def idleAndEmpty : List Standing :=
  [⟨1, 100.0, none, false⟩, ⟨2, 100.0, none, true⟩, ⟨3, 0.0, some 50.0, true⟩]

/-- Their allocation of 1,000: the two invested participants share it equally. -/
def idleAndEmptyRows : List Allocation :=
  [⟨1, 50.0, 50.0, 500⟩, ⟨2, 50.0, 50.0, 500⟩]

/-- Standings without investment, one of them of negative zero, whatever their roles. -/
def withoutInvestment : List Standing :=
  [⟨1, 0.0, some 50.0, true⟩, ⟨2, -0.0, none, false⟩]

theorem allocation_rows_from_positive_weights_samples :
  computeAllocations 1000 idleAndEmpty = .ok idleAndEmptyRows
    ∧ (idleAndEmptyRows.map (·.participant)).Sublist
      ((idleAndEmpty.filter fun s => s.weight > 0.0).map (·.participant))
    ∧ (∀ s ∈ withoutInvestment, s.Valid ∧ s.weight.isFinite = true)
    ∧ computeAllocations 1000 withoutInvestment = .error .noEligibleParticipants
  := by
  have hrun : computeAllocations 1000 idleAndEmpty = .ok idleAndEmptyRows :=
    eq_ok_of_toOption (by decide +kernel)
  have hvalid : ∀ s ∈ withoutInvestment, s.Valid ∧ s.weight.isFinite = true := by decide +kernel
  have hzero : ∀ s ∈ withoutInvestment, (s.weight == 0.0) = true := by decide +kernel
  exact ⟨hrun, (allocation_rows_from_positive_weights 1000 idleAndEmpty).1 _ hrun, hvalid,
    ((allocation_rows_from_positive_weights 1000 withoutInvestment).2.2 hvalid).mpr hzero⟩

end Payout
