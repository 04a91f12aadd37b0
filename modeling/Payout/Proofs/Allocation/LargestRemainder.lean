import Payout.Proofs.Allocation.Pipeline
import Payout.Proofs.Allocation.Ranking

/-!
# Largest remainders

`largestRemainder total quotas` is the largest remainder method in exact arithmetic: every
quota rounded down, and one more for each of the `total - Σ ⌊q⌋` entries of largest remainder,
the earlier entry first among equal remainders. It is monotone: a larger quota, or an equal
one at an earlier place, never gets fewer units (`largestRemainder_le_of_le`), and no quota
gets more than one unit above a quota at least as large (`largestRemainder_le_succ`).

For shares whose hundredths of a percent are finite nonnegative doubles adding up, as exact
numbers, to within one hundredth of 10,000, the apportionment computed with doubles is that
method, exactly (`allocate_largest_remainder`): the floors, their sum, the shortfall and the
fractional parts are computed without rounding, and the fractional parts are ranked by the
order of their values. Every share gets its floor or one more, the hundredths add up to
10,000, and the allocation keeps, in order, every share with a positive number of hundredths,
with that number as a percentage and the amount of that percentage; it fails with the first
amount that cannot be computed.
-/

namespace Payout

open Double

/-! ### The method in exact arithmetic -/

/-- The largest remainder method for a whole `total`: every quota rounded down, and one more
for each of the `total - Σ ⌊q⌋` entries of largest remainder, the earlier first among equal
remainders. -/
def largestRemainder (total : ℕ) (quotas : List ℚ) : List ℕ :=
  (List.range quotas.length).map fun i =>
    ⌊quotas.getD i 0⌋₊
      + if remainderRank (quotas.map fun q => q - ⌊q⌋₊) i < total - (quotas.map (⌊·⌋₊)).sum then 1 else 0

example : largestRemainder 10 [7 / 2, 7 / 2, 3] = [4, 3, 3] := by decide +kernel

/-- Floors of nonnegative quotas add up to at most a whole number above their sum. -/
theorem sum_floor_le {quotas : List ℚ} {total : ℕ} (hnonneg : ∀ q ∈ quotas, 0 ≤ q)
    (h : quotas.sum < total + 1) :
  (quotas.map (⌊·⌋₊)).sum ≤ total
  := by
  have hle : (((quotas.map (⌊·⌋₊)).sum : ℕ) : ℚ) ≤ quotas.sum := by
    rw [Nat.cast_list_sum, List.map_map]
    calc (quotas.map fun q => ((⌊q⌋₊ : ℕ) : ℚ)).sum ≤ (quotas.map fun q => q).sum :=
          List.sum_le_sum fun q hq => Nat.floor_le (hnonneg q hq)
      _ = quotas.sum := by rw [List.map_id']
  have hlt : (((quotas.map (⌊·⌋₊)).sum : ℕ) : ℚ) < total + 1 := hle.trans_lt h
  exact_mod_cast Nat.lt_succ_iff.mp (by exact_mod_cast hlt)

/-- Floors fall short of their quotas by less than one each. -/
theorem le_sum_floor_add_length {quotas : List ℚ} {total : ℕ} (h : (total : ℚ) - 1 < quotas.sum) :
  total ≤ (quotas.map (⌊·⌋₊)).sum + quotas.length
  := by
  have hle : quotas.sum ≤ (((quotas.map (⌊·⌋₊)).sum + quotas.length : ℕ) : ℚ) := by
    calc quotas.sum = (quotas.map fun q => q).sum := by rw [List.map_id']
      _ ≤ (quotas.map fun q => ((⌊q⌋₊ : ℕ) : ℚ) + 1).sum :=
          List.sum_le_sum fun q _ => (Nat.lt_floor_add_one q).le
      _ = (((quotas.map (⌊·⌋₊)).sum + quotas.length : ℕ) : ℚ) := by
          rw [List.sum_map_add]
          push_cast
          simp [List.map_map, Function.comp_def]
  have hlt : (total : ℚ) < (((quotas.map (⌊·⌋₊)).sum + quotas.length : ℕ) : ℚ) + 1 := by linarith
  exact_mod_cast Nat.lt_succ_iff.mp (by exact_mod_cast hlt)

theorem getD_largestRemainder {total : ℕ} {quotas : List ℚ} {i : ℕ} (hi : i < quotas.length) :
  (largestRemainder total quotas).getD i 0 = ⌊quotas.getD i 0⌋₊
    + if remainderRank (quotas.map fun q => q - ⌊q⌋₊) i < total - (quotas.map (⌊·⌋₊)).sum then 1 else 0
  := by
  unfold largestRemainder
  rw [List.getD_eq_getElem _ _ (by simpa using hi)]
  simp

/-- A quota never gets fewer units than a smaller one, nor than an equal one at a later place. With
equal floors the remainders compare as the quotas, and the earlier place ranks first. -/
theorem largestRemainder_le_of_le {total : ℕ} {quotas : List ℚ} {i j : ℕ} (hi : i < quotas.length)
    (hj : j < quotas.length) (hq : quotas.getD j 0 ≤ quotas.getD i 0)
    (hord : quotas.getD j 0 < quotas.getD i 0 ∨ i ≤ j) :
  (largestRemainder total quotas).getD j 0 ≤ (largestRemainder total quotas).getD i 0
  := by
  rw [getD_largestRemainder hi, getD_largestRemainder hj]
  have hfloor : ⌊quotas.getD j 0⌋₊ ≤ ⌊quotas.getD i 0⌋₊ := Nat.floor_le_floor hq
  rcases hfloor.lt_or_eq with hlt | heq
  · split_ifs <;> omega
  rcases eq_or_ne i j with rfl | hne
  · exact le_rfl
  set rems := quotas.map fun q : ℚ => q - ⌊q⌋₊
  have hrem : ∀ k < quotas.length, rems.getD k 0 = quotas.getD k 0 - ⌊quotas.getD k 0⌋₊ := by
    intro k hk
    rw [List.getD_eq_getElem _ _ (by simpa [rems] using hk), List.getD_eq_getElem _ _ hk,
      List.getElem_map]
  have hranks : rems.getD j 0 < rems.getD i 0 ∨ (rems.getD j 0 = rems.getD i 0 ∧ i < j) := by
    rw [hrem i hi, hrem j hj, heq]
    rcases hord with hlt | hle
    · exact .inl (by linarith)
    · rcases hq.lt_or_eq with hlt | hqeq
      · exact .inl (by linarith)
      · exact .inr ⟨by rw [hqeq], by omega⟩
  have hrank := remainderRank_lt (by simpa [rems] using hi) hranks
  split_ifs <;> omega

/-- A quota gets at most one unit more than a quota at least as large, wherever it stands. -/
theorem largestRemainder_le_succ {total : ℕ} {quotas : List ℚ} {i j : ℕ} (hi : i < quotas.length)
    (hj : j < quotas.length) (hq : quotas.getD j 0 ≤ quotas.getD i 0) :
  (largestRemainder total quotas).getD j 0 ≤ (largestRemainder total quotas).getD i 0 + 1
  := by
  rw [getD_largestRemainder hi, getD_largestRemainder hj]
  have hfloor : ⌊quotas.getD j 0⌋₊ ≤ ⌊quotas.getD i 0⌋₊ := Nat.floor_le_floor hq
  split_ifs <;> omega

/-! ### The apportionment of accepted shares -/

/-- A finite nonnegative double passes the check `!isFinite x || x < 0.0`. -/
theorem check_of_finite_nonneg {x : Float} (hfin : x.isFinite = true) (h0 : 0 ≤ value x) :
  (!isFinite x || x < 0.0) = false
  := by
  rw [isFinite_eq, hfin, Bool.not_true, Bool.false_or, decide_eq_false_iff_not,
    lt_iff_value_lt hfin isFinite_zero, value_zero]
  exact not_lt.mpr h0

/-- A map in `Except` succeeds with the images when it does on each element. -/
theorem mapM_eq_ok_map {ε α β : Type} {f : α → Except ε β} {xs : List α} (g : α → β)
    (h : ∀ x ∈ xs, f x = .ok (g x)) :
  xs.mapM f = .ok (xs.map g)
  := by
  apply mapM_eq_ok_of_forall₂
  rw [List.forall₂_map_right_iff]
  exact List.forall₂_same.mpr h

/-- When every share is a finite nonnegative number of hundredths, the apportionment gives the
floors with one more hundredth at the first ranked fractional parts, as many as the shortfall
the floors leave. -/
theorem apportionHundredths_eq {totalProfit : Int} {shares : List Share}
    (hshares : ∀ s ∈ shares, s.hundredths.isFinite = true ∧ 0 ≤ value s.hundredths) :
  apportionHundredths totalProfit shares = .ok (bumpAt
    (((rankRemainders ((List.range shares.length).zip
        (shares.map fun s => s.hundredths - s.floorHundredths))).take
      (missingHundredths (shares.map Share.floorHundredths))).map (·.1))
    (shares.map Share.floorHundredths))
  := by
  unfold apportionHundredths
  rw [mapM_eq_ok_map (fun s => (s.floorHundredths, s.hundredths - s.floorHundredths)), ok_bind]
  · simp only [bumpAt, List.map_map, List.length_map]
    rfl
  · intro s hs
    obtain ⟨hfin, h0⟩ := hshares s hs
    have hcheck := check_of_finite_nonneg hfin h0
    dsimp only
    split
    · rename_i hfails
      exact absurd (hfails.symm.trans hcheck) (by decide)
    · rfl

/-- The fractional part of an accepted share is a finite double with the sign bit clear, and
is the exact fractional part of its hundredths. -/
theorem fractionalPart_hundredths {s : Share} (hfin : s.hundredths.isFinite = true)
    (h0 : 0 ≤ value s.hundredths) :
  (s.hundredths - s.floorHundredths).isFinite = true
    ∧ (s.hundredths - s.floorHundredths).toBits.toNat < 2 ^ 63
    ∧ value (s.hundredths - s.floorHundredths) = value s.hundredths - ⌊value s.hundredths⌋₊
  := by
  obtain ⟨hfin', hval⟩ := sub_floorToWhole hfin h0
  refine ⟨hfin', toNat_toBits_sub_floorToWhole_lt hfin h0, ?_⟩
  rw [Share.floorHundredths, hval, ← Int.natCast_floor_eq_floor h0, Int.cast_natCast]

section Shares

variable {shares : List Share}
  (hshares : ∀ s ∈ shares, s.hundredths.isFinite = true ∧ 0 ≤ value s.hundredths)
include hshares

/-- The floors with one more at the first ranked fractional parts are the largest remainder method
on the exact hundredths, for the shortfall of the floors from 10,000. The ranked doubles are the
exact fractional parts. -/
theorem bumpWhole_eq_largestRemainder :
  bumpWhole (((rankRemainders ((List.range shares.length).zip
        (shares.map fun s => s.hundredths - s.floorHundredths))).take
      (10000 - (shares.map fun s => ⌊value s.hundredths⌋₊).sum)).map (·.1))
    (shares.map fun s => ⌊value s.hundredths⌋₊)
    = largestRemainder 10000 (shares.map fun s => value s.hundredths)
  := by
  set rems := shares.map fun s => s.hundredths - s.floorHundredths
  have hrems : ∀ r ∈ rems, r.isFinite = true ∧ r.toBits.toNat < 2 ^ 63 := by
    intro r hr
    obtain ⟨s, hs, rfl⟩ := List.mem_map.mp hr
    obtain ⟨hfin, hsign, -⟩ := fractionalPart_hundredths (hshares s hs).1 (hshares s hs).2
    exact ⟨hfin, hsign⟩
  have hvalues : rems.map value = (shares.map fun s => value s.hundredths).map fun q : ℚ => q - ⌊q⌋₊ := by
    rw [List.map_map, List.map_map]
    apply List.map_congr_left
    intro s hs
    exact (fractionalPart_hundredths (hshares s hs).1 (hshares s hs).2).2.2
  have hfloors : (shares.map fun s => value s.hundredths).map (⌊·⌋₊)
      = shares.map fun s => ⌊value s.hundredths⌋₊ := by
    rw [List.map_map]
    rfl
  unfold bumpWhole largestRemainder
  rw [zip_range_eq_map _ 0, List.map_map, hfloors]
  simp only [List.length_map]
  apply List.map_congr_left
  intro i hi
  have hi' : i < shares.length := List.mem_range.mp hi
  have hrank := mem_rankedIndices_iff hrems (by simpa [rems] using hi')
    (10000 - (shares.map fun s => ⌊value s.hundredths⌋₊).sum)
  rw [hvalues, List.length_map] at hrank
  have hfloor : (shares.map fun s => ⌊value s.hundredths⌋₊).getD i 0
      = ⌊(shares.map fun s => value s.hundredths).getD i 0⌋₊ := by
    rw [List.getD_eq_getElem _ _ (by simpa using hi'), List.getD_eq_getElem _ _ (by simpa using hi'),
      List.getElem_map, List.getElem_map]
  simp only [Function.comp_apply, hfloor]
  by_cases hbump : remainderRank ((shares.map fun s => value s.hundredths).map fun q : ℚ => q - ⌊q⌋₊) i
      < 10000 - (shares.map fun s => ⌊value s.hundredths⌋₊).sum
  · rw [if_pos (List.contains_iff_mem.mpr (hrank.mpr hbump)), if_pos hbump]
  · rw [if_neg (fun h => hbump (hrank.mp (List.contains_iff_mem.mp h))), if_neg hbump, Nat.add_zero]

/-- Hundredths adding up, as exact numbers, to within one of 10,000 have floors that fall
short of 10,000 by at most one per share. -/
theorem sum_floor_shares_bounds (hlo : 9999 < (shares.map fun s => value s.hundredths).sum)
    (hhi : (shares.map fun s => value s.hundredths).sum < 10001) :
  (shares.map fun s => ⌊value s.hundredths⌋₊).sum ≤ 10000
    ∧ 10000 ≤ (shares.map fun s => ⌊value s.hundredths⌋₊).sum + shares.length
  := by
  have hnonneg : ∀ q ∈ shares.map (fun s => value s.hundredths), 0 ≤ q := by
    intro q hq
    obtain ⟨s, hs, rfl⟩ := List.mem_map.mp hq
    exact (hshares s hs).2
  have hfloors : (shares.map fun s => value s.hundredths).map (⌊·⌋₊)
      = shares.map fun s => ⌊value s.hundredths⌋₊ := by
    rw [List.map_map]
    rfl
  constructor
  · rw [← hfloors]
    exact sum_floor_le hnonneg (by norm_num; linarith)
  · have h : 10000 ≤ ((shares.map fun s => value s.hundredths).map (⌊·⌋₊)).sum
        + (shares.map fun s => value s.hundredths).length :=
      le_sum_floor_add_length (by norm_num; linarith)
    rwa [hfloors, List.length_map] at h

end Shares

section Allocate

variable {shares : List Share}

/-- The allocation of apportioned hundredths keeps, in order, every share with a positive
number of hundredths, with that number as a percentage and its amount. -/
theorem allocate_eq_ok_iff {totalProfit : Int} (hprofit : 0 ≤ totalProfit) {hundredths : List Float}
    (hh : apportionHundredths totalProfit shares = .ok hundredths) (rows : List Allocation) :
  allocate totalProfit shares = .ok rows ↔
    List.Forall₂ (fun (sh : Share × Float) a => computeAmount totalProfit (sh.2 / 100.0) = .ok a.amount
        ∧ a = ⟨sh.1.participant, sh.1.share, sh.2 / 100.0, a.amount⟩)
      ((shares.zip hundredths).filter fun (_, h) => h > 0.0) rows
  := by
  unfold allocate
  rw [if_neg (by omega), hh, ok_bind]
  constructor
  · intro h
    apply (forall₂_of_mapM_eq_ok h).imp
    rintro ⟨s, h⟩ a hrow
    obtain ⟨amount, hamount, hrow⟩ := bind_eq_ok.mp hrow
    cases hrow
    exact ⟨hamount, rfl⟩
  · intro h
    apply mapM_eq_ok_of_forall₂
    apply h.imp
    rintro ⟨s, h⟩ a ⟨hamount, ha⟩
    dsimp only at hamount ⊢
    rw [ha, hamount]
    rfl

/-- The allocation of apportioned hundredths fails with the first amount, among the shares with a
positive number of hundredths in order, that cannot be computed. A row succeeds or fails exactly
when its amount does. -/
theorem allocate_eq_error_iff {totalProfit : Int} (hprofit : 0 ≤ totalProfit) {hundredths : List Float}
    (hh : apportionHundredths totalProfit shares = .ok hundredths) (e : DomainError) :
  allocate totalProfit shares = .error e ↔
    ∃ pre sh post, (shares.zip hundredths).filter (fun (_, h) => h > 0.0) = pre ++ sh :: post
      ∧ (∀ p ∈ pre, ∃ amount, computeAmount totalProfit (p.2 / 100.0) = .ok amount)
      ∧ computeAmount totalProfit (sh.2 / 100.0) = .error e
  := by
  unfold allocate
  rw [if_neg (by omega), hh, ok_bind, mapM_eq_error_iff]
  refine exists_congr fun pre => exists_congr fun sh => exists_congr fun post => and_congr_right fun _ => ?_
  refine and_congr (forall₂_congr fun p _ => ?_) ?_
  · obtain ⟨s, h⟩ := p
    dsimp only
    cases computeAmount totalProfit (h / 100.0) with
    | error e' => simp
    | ok amount => simp [ok_bind, pure_except]
  · obtain ⟨s, h⟩ := sh
    dsimp only
    cases computeAmount totalProfit (h / 100.0) with
    | error e' => simp
    | ok amount => simp [ok_bind, pure_except]

end Allocate

/-! ### The apportionment is the largest remainder method -/

/-- When the floors of the hundredths add up to at most 10,000, the apportionment is the largest
remainder method on the exact hundredths, and hands out the shortfall of the floors, at most one
hundredth per share. The floors are whole, so the shortfall is counted exactly. -/
theorem apportionHundredths_largestRemainder (totalProfit : Int) {shares : List Share}
    (hshares : ∀ s ∈ shares, s.hundredths.isFinite = true ∧ 0 ≤ value s.hundredths)
    (hsum_le : (shares.map fun s => ⌊value s.hundredths⌋₊).sum ≤ 10000) :
  ∃ hundredths, apportionHundredths totalProfit shares = .ok hundredths
    ∧ List.Forall₂ IsWhole hundredths (largestRemainder 10000 (shares.map fun s => value s.hundredths))
    ∧ (largestRemainder 10000 (shares.map fun s => value s.hundredths)).sum
      = (shares.map fun s => ⌊value s.hundredths⌋₊).sum
        + min (10000 - (shares.map fun s => ⌊value s.hundredths⌋₊).sum) shares.length
  := by
  set ks := shares.map fun s => ⌊value s.hundredths⌋₊
  have hwhole : List.Forall₂ IsWhole (shares.map Share.floorHundredths) ks := by
    rw [List.forall₂_map_left_iff, List.forall₂_map_right_iff]
    apply List.forall₂_same.mpr
    intro s hs
    exact isWhole_floorHundredths (hshares s hs).1 (hshares s hs).2
  have hmissing := missingHundredths_eq hwhole hsum_le
  have hsmall : ∀ k ∈ ks, k + 1 < 2 ^ 53 := by
    intro k hk
    have := List.le_sum_of_mem hk
    omega
  have happ : apportionHundredths totalProfit shares = _ := apportionHundredths_eq hshares
  rw [hmissing] at happ
  obtain ⟨hnodup, hlt, hcount⟩ := rankedIndices_take (shares.map fun s => s.hundredths - s.floorHundredths)
    (10000 - ks.sum)
  simp only [List.length_map] at hnodup hlt hcount
  have heq := bumpWhole_eq_largestRemainder hshares
  refine ⟨_, happ, ?_, ?_⟩
  · rw [← heq]
    exact forall₂_bumpAt _ hwhole hsmall
  · rw [← heq, sum_bumpWhole_of_nodup _ ks hnodup (by rw [List.length_map]; exact hlt), List.length_map,
      hcount]

/-- For shares whose hundredths of a percent are finite nonnegative doubles adding up, as exact
numbers, to more than 9,999 and less than 10,001, the apportionment succeeds with the largest
remainder method on the exact hundredths: each share gets its floor, and one more if fewer
than the shortfall of the floors from 10,000 have a larger fractional part, or an equal one
and an earlier place; the hundredths add up to 10,000. The allocation then gives, in order,
one row for each share with a positive number of hundredths, with its participant and share,
that number as a percentage and its amount, or fails with the first amount that fails. -/
theorem allocate_largest_remainder {totalProfit : Int} (hprofit : 0 ≤ totalProfit) {shares : List Share}
    (hshares : ∀ s ∈ shares, s.hundredths.isFinite = true ∧ 0 ≤ value s.hundredths)
    (hlo : 9999 < (shares.map fun s => value s.hundredths).sum)
    (hhi : (shares.map fun s => value s.hundredths).sum < 10001) :
  ∃ hundredths, apportionHundredths totalProfit shares = .ok hundredths
    ∧ List.Forall₂ IsWhole hundredths (largestRemainder 10000 (shares.map fun s => value s.hundredths))
    ∧ (largestRemainder 10000 (shares.map fun s => value s.hundredths)).sum = 10000
    ∧ (∀ rows, allocate totalProfit shares = .ok rows ↔
        List.Forall₂ (fun (sh : Share × Float) a => computeAmount totalProfit (sh.2 / 100.0) = .ok a.amount
            ∧ a = ⟨sh.1.participant, sh.1.share, sh.2 / 100.0, a.amount⟩)
          ((shares.zip hundredths).filter fun (_, h) => h > 0.0) rows)
    ∧ (∀ e, allocate totalProfit shares = .error e ↔
        ∃ pre sh post, (shares.zip hundredths).filter (fun (_, h) => h > 0.0) = pre ++ sh :: post
          ∧ (∀ p ∈ pre, ∃ amount, computeAmount totalProfit (p.2 / 100.0) = .ok amount)
          ∧ computeAmount totalProfit (sh.2 / 100.0) = .error e)
  := by
  obtain ⟨hsum_le, hshort⟩ := sum_floor_shares_bounds hshares hlo hhi
  obtain ⟨hundredths, happ, hwhole, hsum⟩ := apportionHundredths_largestRemainder totalProfit hshares hsum_le
  refine ⟨hundredths, happ, hwhole, by omega, allocate_eq_ok_iff hprofit happ,
    allocate_eq_error_iff hprofit happ⟩

/-- Three shares of about a third of the whole, the first two equal. -/
def thirdsShares : List Share := [⟨1, 33.335⟩, ⟨2, 33.335⟩, ⟨3, 33.33⟩]

/-- The floors of the thirds fall one hundredth short, and the first of the two equal largest
remainders gets it. -/
example : largestRemainder 10000 (thirdsShares.map fun s => value s.hundredths) = [3334, 3333, 3333] := by
  decide +kernel

/-- The thirds are apportioned by largest remainders. -/
theorem allocate_largest_remainder_thirds :
  0 ≤ (120000 : Int)
    ∧ (∀ s ∈ thirdsShares, s.hundredths.isFinite = true ∧ 0 ≤ value s.hundredths)
    ∧ 9999 < (thirdsShares.map fun s => value s.hundredths).sum
    ∧ (thirdsShares.map fun s => value s.hundredths).sum < 10001
    ∧ ∃ hundredths, apportionHundredths 120000 thirdsShares = .ok hundredths
      ∧ List.Forall₂ IsWhole hundredths (largestRemainder 10000 (thirdsShares.map fun s => value s.hundredths))
      ∧ (largestRemainder 10000 (thirdsShares.map fun s => value s.hundredths)).sum = 10000
      ∧ (∀ rows, allocate 120000 thirdsShares = .ok rows ↔
          List.Forall₂ (fun (sh : Share × Float) a => computeAmount 120000 (sh.2 / 100.0) = .ok a.amount
              ∧ a = ⟨sh.1.participant, sh.1.share, sh.2 / 100.0, a.amount⟩)
            ((thirdsShares.zip hundredths).filter fun (_, h) => h > 0.0) rows)
      ∧ (∀ e, allocate 120000 thirdsShares = .error e ↔
          ∃ pre sh post, (thirdsShares.zip hundredths).filter (fun (_, h) => h > 0.0) = pre ++ sh :: post
            ∧ (∀ p ∈ pre, ∃ amount, computeAmount 120000 (p.2 / 100.0) = .ok amount)
            ∧ computeAmount 120000 (sh.2 / 100.0) = .error e)
  := by
  obtain ⟨hshares, hlo, hhi⟩ :
      (∀ s ∈ thirdsShares, s.hundredths.isFinite = true ∧ 0 ≤ value s.hundredths)
        ∧ 9999 < (thirdsShares.map fun s => value s.hundredths).sum
        ∧ (thirdsShares.map fun s => value s.hundredths).sum < 10001 := by
    decide +kernel
  exact ⟨by norm_num, hshares, hlo, hhi, allocate_largest_remainder (by norm_num) hshares hlo hhi⟩

end Payout
