import Payout.Proofs.Allocation.Amounts
import Payout.Proofs.Allocation.LargestRemainder

/-!
# Allocations follow the weights

An allocation is read by participant (`percentageOf`, `amountOf`): the stored percentage and
amount of its row, and 0% with amount 0 for a participant without a row. Of two participants,
the earlier never receives less than a later one of no greater weight, and a later one of at
least the weight receives no less than the earlier one, with a single exception
(`allocation_follows_weights`, from `receives_le_of_later_le` and `receives_le_of_earlier_le`):
when their two shares in hundredths come out as the same double, the largest remainder method
gives a hundredth it has left to the earlier one first, so the earlier may receive exactly one
hundredth more with a smaller weight. Weights 7, 7 and 7.000000000000001 share 10,000 so
(`heavier_weight_gets_less`).

The argument follows the stages of the pipeline:

* shares in hundredths are monotone in the weight (`shareHundredths_le_of_le`), and the largest
  remainder method in the quotas (`largestRemainder_le_of_le`, `largestRemainder_le_succ`);
* each participant holds in the rows the double nearest its number of hundredths and the
  amount of that percentage (`Receives`, `receives_of_computeAllocations`);
* amounts are monotone in the percentage (`computeAmount_le_of_le`), so more hundredths never
  mean less (`Receives.le`).
-/

namespace Payout

open Double

/-! ### Reading an allocation by participant -/

/-- The row of a participant in an allocation, the first if several name it. -/
def rowOf (rows : List Allocation) (participant : Int) : Option Allocation :=
  rows.find? fun a => a.participant == participant

/-- The stored percentage of a participant, 0% without a row. -/
def percentageOf (rows : List Allocation) (participant : Int) : Float :=
  ((rowOf rows participant).map (·.percentage)).getD 0.0

/-- The amount of a participant, 0 without a row. -/
def amountOf (rows : List Allocation) (participant : Int) : Int :=
  ((rowOf rows participant).map (·.amount)).getD 0

/-- With one row per participant, a row is the row of its participant. -/
theorem rowOf_of_mem {rows : List Allocation} (hids : (rows.map (·.participant)).Nodup)
    {a : Allocation} (ha : a ∈ rows) :
  rowOf rows a.participant = some a
  := by
  obtain ⟨a', ha'⟩ : ∃ a', rowOf rows a.participant = some a' := by
    cases h : rowOf rows a.participant with
    | some a' => exact ⟨a', rfl⟩
    | none =>
      rw [rowOf, List.find?_eq_none] at h
      exact absurd (beq_self_eq_true _) (h a ha)
  have hmem := List.mem_of_find?_eq_some ha'
  have hkey : a'.participant = a.participant := by simpa using List.find?_some ha'
  rw [ha', List.inj_on_of_nodup_map hids hmem ha hkey]

theorem rowOf_of_not_mem {rows : List Allocation} {participant : Int}
    (h : participant ∉ rows.map (·.participant)) :
  rowOf rows participant = none
  := by
  rw [rowOf, List.find?_eq_none]
  intro a ha heq
  exact h (List.mem_map.mpr ⟨a, ha, by simpa using heq⟩)

/-! ### What a participant holds -/

/-- No hundredths are stored as `0.0`. -/
theorem ofHundredths_zero :
  OfHundredths 0.0 0
  := ⟨isFinite_zero, by rw [value_zero, Nat.cast_zero, zero_div, roundDouble_zero]⟩

section Hundredths

variable {p q : Float} {m n : ℕ}

theorem OfHundredths.value_nonneg (hp : OfHundredths p n) :
  0 ≤ value p
  := by
  rw [hp.2]
  exact roundDouble_nonneg (by positivity)

/-- Fewer hundredths are stored as a percentage no larger. -/
theorem OfHundredths.value_le (hp : OfHundredths p m) (hq : OfHundredths q n) (h : m ≤ n) :
  value p ≤ value q
  := by
  rw [hp.2, hq.2]
  apply roundDouble_mono
  exact div_le_div_of_nonneg_right (by exact_mod_cast h) (by norm_num)

end Hundredths

/-- What a participant holds in the rows of an allocation of `t` for `n` hundredths: the
double nearest `n / 100` as its percentage, and as its amount the amount of that percentage,
nothing without hundredths. -/
structure Receives (t : ℤ) (rows : List Allocation) (participant : Int) (n : ℕ) : Prop where
  percentage : OfHundredths (percentageOf rows participant) n
  amount_zero : n = 0 → amountOf rows participant = 0
  amount_pos : 0 < n → computeAmount t (percentageOf rows participant) = .ok (amountOf rows participant)

/-- A finite double is above zero exactly when its value is positive. -/
theorem gt_zero_iff_value_pos {x : Float} (hx : x.isFinite = true) :
  x > 0.0 ↔ 0 < value x
  := by
  rw [gt_iff_lt, lt_iff_value_lt isFinite_zero hx, value_zero]

/-- A participant without a row holds nothing. -/
theorem receives_zero {t : ℤ} {rows : List Allocation} {participant : Int}
    (h : rowOf rows participant = none) :
  Receives t rows participant 0
  := by
  have hp : percentageOf rows participant = 0.0 := by rw [percentageOf, h]; rfl
  have ha : amountOf rows participant = 0 := by rw [amountOf, h]; rfl
  exact ⟨hp ▸ ofHundredths_zero, fun _ => ha, fun h0 => absurd h0 (lt_irrefl 0)⟩

/-- Of a nonnegative total, more hundredths never mean a smaller percentage or amount. Without
hundredths there is no amount, and the other amount is not negative. -/
theorem Receives.le {t : ℤ} {rows : List Allocation} {u v : Int} {m n : ℕ} (ht : 0 ≤ t)
    (hv : Receives t rows v m) (hu : Receives t rows u n) (h : m ≤ n) :
  percentageOf rows v ≤ percentageOf rows u ∧ amountOf rows v ≤ amountOf rows u
  := by
  have hvalue := hv.percentage.value_le hu.percentage h
  refine ⟨(le_iff_value_le hv.percentage.1 hu.percentage.1).mpr hvalue, ?_⟩
  rcases Nat.eq_zero_or_pos m with hm | hm
  · rw [hv.amount_zero hm]
    rcases Nat.eq_zero_or_pos n with hn | hn
    · rw [hu.amount_zero hn]
    · exact computeAmount_nonneg ht hu.percentage.1 hu.percentage.value_nonneg (hu.amount_pos hn)
  · exact computeAmount_le_of_le ht hv.percentage.1 hu.percentage.1 hv.percentage.value_nonneg hvalue
      (hv.amount_pos hm) (hu.amount_pos (by omega))

/-! ### The rows of an allocation -/

section Rows

variable {t : ℤ} {shares : List Share} {hundredths : List Float} {rows : List Allocation}
  (hids : (shares.map (·.participant)).Nodup) (hlen : shares.length = hundredths.length)
  (hrows : List.Forall₂ (fun (sh : Share × Float) a => a.participant = sh.1.participant
      ∧ a.share = sh.1.share ∧ a.percentage = sh.2 / 100.0
      ∧ computeAmount t (sh.2 / 100.0) = .ok a.amount)
    ((shares.zip hundredths).filter fun (_, h) => h > 0.0) rows)
include hlen hrows

/-- The rows name the participants of the kept shares, each once. -/
theorem participants_rows :
  rows.map (·.participant) = ((shares.zip hundredths).filter fun (_, h) => h > 0.0).map (·.1.participant)
    ∧ (shares.zip hundredths).map (·.1.participant) = shares.map (·.participant)
  := by
  refine ⟨?_, ?_⟩
  · apply eq_map_of_forall₂
    apply List.forall₂_map_right_iff.mpr
    exact hrows.imp fun _ _ h => h.1
  · calc (shares.zip hundredths).map (·.1.participant)
        = ((shares.zip hundredths).map Prod.fst).map (·.participant) := by rw [List.map_map]; rfl
      _ = shares.map (·.participant) := by rw [List.map_fst_zip hlen.le]

/-- A participant without a share holds nothing. -/
theorem receives_of_not_mem {participant : Int} (h : participant ∉ shares.map (·.participant)) :
  Receives t rows participant 0
  := by
  obtain ⟨hrowids, hzip⟩ := participants_rows hlen hrows
  apply receives_zero
  apply rowOf_of_not_mem
  rw [hrowids]
  intro hmem
  apply h
  rw [← hzip]
  exact (List.filter_sublist.map _).subset hmem

include hids

/-- With one share per participant, there is one row per participant. -/
theorem nodup_participants_rows :
  (rows.map (·.participant)).Nodup
  := by
  obtain ⟨hrowids, hzip⟩ := participants_rows hlen hrows
  rw [hrowids]
  exact (List.filter_sublist.map _).nodup (hzip ▸ hids)

/-- The participant of a share holds its whole number of hundredths. A share without hundredths has
no row, and no other share has its participant; a kept share has its row. -/
theorem receives_of_mem_zip {x : Share × Float} {n : ℕ} (hx : x ∈ shares.zip hundredths)
    (hw : IsWhole x.2 n) (hn : n ≤ 10000) :
  Receives t rows x.1.participant n
  := by
  obtain ⟨hrowids, hzip⟩ := participants_rows hlen hrows
  have hkept : x.2 > 0.0 ↔ 0 < n := by
    rw [gt_zero_iff_value_pos hw.1, hw.2]
    exact_mod_cast Iff.rfl
  rcases Nat.eq_zero_or_pos n with rfl | hpos
  · apply receives_zero
    apply rowOf_of_not_mem
    rw [hrowids]
    intro hmem
    obtain ⟨y, hy, hyx⟩ := List.mem_map.mp hmem
    obtain ⟨hyzip, hypos⟩ := List.mem_filter.mp hy
    obtain rfl := List.inj_on_of_nodup_map (hzip ▸ hids) hyzip hx hyx
    exact absurd (hkept.mp (by simpa using hypos)) (lt_irrefl 0)
  · have hmem : x ∈ (shares.zip hundredths).filter fun (_, h) => h > 0.0 :=
      List.mem_filter.mpr ⟨hx, by simpa using hkept.mpr hpos⟩
    obtain ⟨a, ha, hid, -, hpercentage, hamount⟩ := exists_of_forall₂_of_mem hrows.flip hmem
    have hrow : rowOf rows x.1.participant = some a := by
      rw [← hid]
      exact rowOf_of_mem (nodup_participants_rows hids hlen hrows) ha
    have hp : percentageOf rows x.1.participant = x.2 / 100.0 := by
      rw [percentageOf, hrow, Option.map_some, Option.getD_some, hpercentage]
    have ha' : amountOf rows x.1.participant = a.amount := by
      rw [amountOf, hrow, Option.map_some, Option.getD_some]
    have hhundredths : IsHundredths (x.2 / 100.0) n := ⟨hpos, hn, x.2, hw, rfl⟩
    exact ⟨hp ▸ hhundredths.ofHundredths, fun h0 => absurd h0 (by omega),
      fun _ => by rw [hp, ha']; exact hamount⟩

/-- With the hundredths of the largest remainder method, the participant of each share holds the
hundredths of its place. The share, its hundredths and their number stand at the same place. -/
theorem receives_largestRemainder {quotas : List ℚ}
    (hwhole : List.Forall₂ IsWhole hundredths (largestRemainder 10000 quotas))
    (hsum : (largestRemainder 10000 quotas).sum ≤ 10000) {i : ℕ} {s : Share}
    (hs : shares[i]? = some s) :
  Receives t rows s.participant ((largestRemainder 10000 quotas).getD i 0)
  := by
  have hi : i < hundredths.length := hlen ▸ (List.getElem?_eq_some_iff.mp hs).1
  have hi' : i < (largestRemainder 10000 quotas).length := hwhole.length_eq ▸ hi
  have hn : (largestRemainder 10000 quotas)[i]? = some ((largestRemainder 10000 quotas).getD i 0) := by
    rw [List.getD_eq_getElem _ _ hi']
    exact List.getElem?_eq_getElem hi'
  have hh := List.getElem?_eq_getElem hi
  have hx : (s, hundredths[i]) ∈ shares.zip hundredths :=
    List.mem_iff_getElem?.mpr ⟨i, List.getElem?_zip_eq_some.mpr ⟨hs, hh⟩⟩
  have hw : IsWhole hundredths[i] ((largestRemainder 10000 quotas).getD i 0) :=
    List.forall₂_zip hwhole (List.mem_iff_getElem?.mpr ⟨i, List.getElem?_zip_eq_some.mpr ⟨hh, hn⟩⟩)
  have hle : (largestRemainder 10000 quotas).getD i 0 ≤ 10000 :=
    (List.le_sum_of_mem (List.mem_of_getElem? hn)).trans hsum
  exact receives_of_mem_zip hids hlen hrows hx hw hle

end Rows

/-! ### Quotas of weights -/

/-- The hundredths of a percent of the shares of the positive weights, as exact numbers: the
quotas the apportionment divides 10,000 among. -/
def weightQuotas (weights : List Weighted) : List ℚ :=
  (weights.filter fun w => w.weight > 0.0).map fun w =>
    value ((100.0 * w.weight / sumFloats (weights.map (·.weight))) * 100.0)

section Quotas

variable {weights : List Weighted} {i : ℕ} {w : Weighted}
  (hw : (weights.filter fun w => w.weight > 0.0)[i]? = some w)
include hw

theorem getD_weightQuotas :
  (weightQuotas weights).getD i 0
    = value ((100.0 * w.weight / sumFloats (weights.map (·.weight))) * 100.0)
  := by
  rw [weightQuotas, List.getD_eq_getElem?_getD, List.getElem?_map, hw]
  rfl

theorem lt_length_weightQuotas :
  i < (weightQuotas weights).length
  := by
  rw [weightQuotas, List.length_map]
  exact (List.getElem?_eq_some_iff.mp hw).1

end Quotas

/-- Two entries that a filter keeps keep their order among the kept entries. -/
theorem exists_getElem?_filter {α : Type} {p : α → Bool} (pre mid post : List α) {u v : α}
    (hu : p u = true) (hv : p v = true) :
  ∃ i j : ℕ, i < j ∧ ((pre ++ u :: (mid ++ v :: post)).filter p)[i]? = some u
    ∧ ((pre ++ u :: (mid ++ v :: post)).filter p)[j]? = some v
  := by
  refine ⟨(pre.filter p).length, (pre.filter p).length + 1 + (mid.filter p).length, by omega, ?_, ?_⟩
  · simp [List.filter_append, List.filter_cons, hu]
  · rw [List.filter_append, List.filter_cons_of_pos hu, List.filter_append, List.filter_cons_of_pos hv,
      List.getElem?_append_right (by omega), Nat.add_assoc, Nat.add_sub_cancel_left, Nat.add_comm,
      List.getElem?_cons_succ, List.getElem?_append_right (Nat.le_refl _), Nat.sub_self,
      List.getElem?_cons_zero]

/-- Two positive weights, one after the other, stand at places `i < j` among the positive
weights. -/
theorem exists_places_of_pos {weights pre mid post : List Weighted} {u v : Weighted}
    (hsplit : weights = pre ++ u :: (mid ++ v :: post)) (hu : u.weight > 0.0) (hv : v.weight > 0.0) :
  ∃ i j : ℕ, i < j ∧ (weights.filter fun w => w.weight > 0.0)[i]? = some u
    ∧ (weights.filter fun w => w.weight > 0.0)[j]? = some v
  := by
  rw [hsplit]
  exact exists_getElem?_filter pre mid post (by simpa using hu) (by simpa using hv)

/-! ### The allocation of standings -/

section Standings

variable {totalProfit : Int} {standings : List Standing} {weights : List Weighted}
  {rows : List Allocation} (hweights : computeWeights standings = .ok weights)
  (hrun : computeAllocations totalProfit standings = .ok rows)
include hweights hrun

/-- In an allocation of standings with distinct participants, the participant of the positive weight
at place `i` among the positive weights holds the hundredths the largest remainder method gives the
quota at that place, and a participant of weight zero holds nothing. The shares are those of the
positive weights, with their participants, each once; a weight of zero has no share. -/
theorem receives_of_computeAllocations (hids : (standings.map (·.participant)).Nodup) :
  (∀ i w, (weights.filter fun w => w.weight > 0.0)[i]? = some w →
      Receives totalProfit rows w.participant ((largestRemainder 10000 (weightQuotas weights)).getD i 0))
    ∧ ∀ w ∈ weights, ¬w.weight > 0.0 → Receives totalProfit rows w.participant 0
  := by
  obtain ⟨shares, hnorm, hallocate⟩ := computeAllocations_eq_ok_of_weights hweights hrun
  obtain ⟨-, hundredths, happ, hrows⟩ := allocate_eq_ok hallocate
  obtain ⟨hscaled, -⟩ := apportionHundredths_eq_ok happ
  obtain ⟨-, -, hshares⟩ := normalizeWeights_eq_ok hnorm
  have hfloors := sum_floor_hundredths_le hnorm fun s hs => (hscaled s hs).1
  obtain ⟨hundredths', happ', hwhole, hsum⟩ :=
    apportionHundredths_largestRemainder totalProfit hscaled hfloors
  obtain rfl : hundredths = hundredths' := Except.ok.inj (happ.symm.trans happ')
  have hshareids : shares.map (·.participant)
      = (weights.filter fun w => w.weight > 0.0).map (·.participant) := by
    rw [hshares, List.map_map]
    rfl
  have hwids : (weights.map (·.participant)).Nodup := by
    rw [computeWeights_participants hweights]
    exact hids
  have hids' : (shares.map (·.participant)).Nodup := by
    rw [hshareids]
    exact (List.filter_sublist.map _).nodup hwids
  have hlen : shares.length = hundredths.length := (length_apportionHundredths happ).symm
  have hquotas : shares.map (fun s => value s.hundredths) = weightQuotas weights := by
    rw [hshares, List.map_map]
    rfl
  rw [hquotas] at hwhole hsum
  refine ⟨fun i w hw => ?_, fun w hw hzero => ?_⟩
  · have hs : shares[i]? = some ⟨w.participant, 100.0 * w.weight / sumFloats (weights.map (·.weight))⟩ := by
      rw [hshares, List.getElem?_map, hw]
      rfl
    exact receives_largestRemainder hids' hlen hrows hwhole (by omega) hs
  · apply receives_of_not_mem hlen hrows
    rw [hshareids]
    intro hmem
    obtain ⟨w', hw', hid⟩ := List.mem_map.mp hmem
    obtain rfl := List.inj_on_of_nodup_map hwids (List.mem_of_mem_filter hw') hw hid
    exact hzero (by simpa using (List.mem_filter.mp hw').2)

/-- An allocation that succeeds has a nonnegative total and finite nonnegative weights. -/
theorem computeAllocations_weights_valid :
  0 ≤ totalProfit ∧ ∀ w ∈ weights, w.weight.isFinite = true ∧ 0 ≤ value w.weight
  := by
  obtain ⟨_, hnorm, hallocate⟩ := computeAllocations_eq_ok_of_weights hweights hrun
  exact ⟨(allocate_eq_ok hallocate).1, (normalizeWeights_eq_ok hnorm).1⟩

/-- A positive weight no greater than another has a quota no greater. Both shares were scaled to
finite hundredths. -/
theorem weightQuotas_le_of_le {i j : ℕ} {w w' : Weighted}
    (hi : (weights.filter fun w => w.weight > 0.0)[i]? = some w)
    (hj : (weights.filter fun w => w.weight > 0.0)[j]? = some w') (hle : value w'.weight ≤ value w.weight) :
  (weightQuotas weights).getD j 0 ≤ (weightQuotas weights).getD i 0
  := by
  obtain ⟨shares, hnorm, hallocate⟩ := computeAllocations_eq_ok_of_weights hweights hrun
  obtain ⟨-, hundredths, happ, -⟩ := allocate_eq_ok hallocate
  obtain ⟨hscaled, -⟩ := apportionHundredths_eq_ok happ
  obtain ⟨-, hpos, hshares⟩ := normalizeWeights_eq_ok hnorm
  have hfinite : ∀ (k : ℕ) (x : Weighted), (weights.filter fun w => w.weight > 0.0)[k]? = some x →
      ((100.0 * x.weight / sumFloats (weights.map (·.weight))) * 100.0).isFinite = true := by
    intro k x hk
    have hmem : (⟨x.participant, 100.0 * x.weight / sumFloats (weights.map (·.weight))⟩ : Share) ∈ shares := by
      rw [hshares]
      exact List.mem_map.mpr ⟨x, List.mem_of_getElem? hk, rfl⟩
    exact (hscaled _ hmem).1
  rw [getD_weightQuotas hi, getD_weightQuotas hj]
  exact shareHundredths_le_of_le hpos (hfinite j w' hj) (hfinite i w hi) hle

section Pair

variable (hids : (standings.map (·.participant)).Nodup) {pre mid post : List Weighted}
  {u v : Weighted} (hsplit : weights = pre ++ u :: (mid ++ v :: post))
include hids

/-- Every participant holds some number of hundredths. -/
theorem exists_receives {w : Weighted} (hw : w ∈ weights) :
  ∃ n, Receives totalProfit rows w.participant n
  := by
  obtain ⟨hkept, hdropped⟩ := receives_of_computeAllocations hweights hrun hids
  by_cases hw0 : w.weight > 0.0
  · have hmem : w ∈ weights.filter fun w => w.weight > 0.0 :=
      List.mem_filter.mpr ⟨hw, by simpa using hw0⟩
    obtain ⟨i, hi⟩ := List.mem_iff_getElem?.mp hmem
    exact ⟨_, hkept i w hi⟩
  · exact ⟨0, hdropped w hw hw0⟩

include hsplit

/-- The earlier of two participants receives at least what the later does when the later weighs no
more. When both weights are positive, the later has the smaller quota, or an equal one at a later
place. -/
theorem receives_le_of_later_le (hvu : v.weight ≤ u.weight) :
  percentageOf rows v.participant ≤ percentageOf rows u.participant
    ∧ amountOf rows v.participant ≤ amountOf rows u.participant
  := by
  obtain ⟨hkept, hdropped⟩ := receives_of_computeAllocations hweights hrun hids
  obtain ⟨ht, hvalid⟩ := computeAllocations_weights_valid hweights hrun
  have hu : u ∈ weights := by simp [hsplit]
  have hv : v ∈ weights := by simp [hsplit]
  have hvu' := (le_iff_value_le (hvalid v hv).1 (hvalid u hu).1).mp hvu
  by_cases hv0 : v.weight > 0.0
  · have hu0 := (gt_zero_iff_value_pos (hvalid u hu).1).mpr
      (((gt_zero_iff_value_pos (hvalid v hv).1).mp hv0).trans_le hvu')
    obtain ⟨i, j, hij, hi, hj⟩ := exists_places_of_pos hsplit hu0 hv0
    have hq := weightQuotas_le_of_le hweights hrun hi hj hvu'
    exact (hkept j v hj).le ht (hkept i u hi) (largestRemainder_le_of_le
      (lt_length_weightQuotas hi) (lt_length_weightQuotas hj) hq (.inr hij.le))
  · obtain ⟨n, hun⟩ := exists_receives hweights hrun hids hu
    exact (hdropped v hv hv0).le ht hun (Nat.zero_le n)

/-- The later of two participants receives at least what the earlier does when it weighs no less,
unless their shares in hundredths are the same double and the earlier receives one hundredth more.
With equal quotas the earlier gets the units of the later, or one more. -/
theorem receives_le_of_earlier_le (huv : u.weight ≤ v.weight) :
  (percentageOf rows u.participant ≤ percentageOf rows v.participant
      ∧ amountOf rows u.participant ≤ amountOf rows v.participant)
    ∨ (value ((100.0 * u.weight / sumFloats (weights.map (·.weight))) * 100.0)
          = value ((100.0 * v.weight / sumFloats (weights.map (·.weight))) * 100.0)
        ∧ amountOf rows v.participant ≤ amountOf rows u.participant
        ∧ ∃ n, OfHundredths (percentageOf rows v.participant) n
          ∧ OfHundredths (percentageOf rows u.participant) (n + 1))
  := by
  obtain ⟨hkept, hdropped⟩ := receives_of_computeAllocations hweights hrun hids
  obtain ⟨ht, hvalid⟩ := computeAllocations_weights_valid hweights hrun
  have hu : u ∈ weights := by simp [hsplit]
  have hv : v ∈ weights := by simp [hsplit]
  have huv' := (le_iff_value_le (hvalid u hu).1 (hvalid v hv).1).mp huv
  by_cases hu0 : u.weight > 0.0
  swap
  · obtain ⟨n, hvn⟩ := exists_receives hweights hrun hids hv
    exact .inl ((hdropped u hu hu0).le ht hvn (Nat.zero_le n))
  have hv0 := (gt_zero_iff_value_pos (hvalid v hv).1).mpr
    (((gt_zero_iff_value_pos (hvalid u hu).1).mp hu0).trans_le huv')
  obtain ⟨i, j, hij, hi, hj⟩ := exists_places_of_pos hsplit hu0 hv0
  have hi' := lt_length_weightQuotas hi
  have hj' := lt_length_weightQuotas hj
  have hq := weightQuotas_le_of_le hweights hrun hj hi huv'
  rcases hq.lt_or_eq with hlt | heq
  · exact .inl ((hkept i u hi).le ht (hkept j v hj) (largestRemainder_le_of_le hj' hi' hlt.le (.inl hlt)))
  set units := largestRemainder 10000 (weightQuotas weights)
  have hge : units.getD j 0 ≤ units.getD i 0 := largestRemainder_le_of_le hi' hj' heq.ge (.inr hij.le)
  have hsucc : units.getD i 0 ≤ units.getD j 0 + 1 := largestRemainder_le_succ hj' hi' heq.le
  rcases Nat.lt_or_ge (units.getD j 0) (units.getD i 0) with hmore | hle
  · have hone : units.getD i 0 = units.getD j 0 + 1 := by omega
    refine .inr ⟨?_, ((hkept j v hj).le ht (hkept i u hi) hge).2, _, (hkept j v hj).percentage,
      hone ▸ (hkept i u hi).percentage⟩
    rw [← getD_weightQuotas hi, ← getD_weightQuotas hj, heq]
  · exact .inl ((hkept i u hi).le ht (hkept j v hj) hle)

end Pair

end Standings

/-- Of two participants in the order of the standings, each with its computed weight, the
earlier receives at least what the later does when the later weighs no more; and the later
receives at least what the earlier does when it weighs no less, unless their shares in
hundredths are the same double: then the earlier may receive one hundredth more, and so an
amount no smaller. Participants are told apart by identifier, and one without a row
receives 0% and nothing. -/
theorem allocation_follows_weights {totalProfit : Int} {standings : List Standing}
    {weights : List Weighted} {rows : List Allocation}
    (hids : (standings.map (·.participant)).Nodup)
    (hweights : computeWeights standings = .ok weights)
    (hrun : computeAllocations totalProfit standings = .ok rows)
    {pre mid post : List Weighted} {u v : Weighted} (hsplit : weights = pre ++ u :: (mid ++ v :: post)) :
  (v.weight ≤ u.weight → percentageOf rows v.participant ≤ percentageOf rows u.participant
      ∧ amountOf rows v.participant ≤ amountOf rows u.participant)
    ∧ (u.weight ≤ v.weight →
      (percentageOf rows u.participant ≤ percentageOf rows v.participant
          ∧ amountOf rows u.participant ≤ amountOf rows v.participant)
        ∨ (value ((100.0 * u.weight / sumFloats (weights.map (·.weight))) * 100.0)
              = value ((100.0 * v.weight / sumFloats (weights.map (·.weight))) * 100.0)
            ∧ amountOf rows v.participant ≤ amountOf rows u.participant
            ∧ ∃ n, OfHundredths (percentageOf rows v.participant) n
              ∧ OfHundredths (percentageOf rows u.participant) (n + 1)))
  := ⟨receives_le_of_later_le hweights hrun hids hsplit, receives_le_of_earlier_le hweights hrun hids hsplit⟩

/-- Three standings whose investments, and so weights, are 7, 7 and the next double above 7. -/
def crowdedThirds : List Standing :=
  [⟨1, 7.0, none, true⟩, ⟨2, 7.0, none, true⟩, ⟨3, 7.000000000000001, none, true⟩]

/-- Their weights. -/
def crowdedWeights : List Weighted :=
  [⟨1, 7.0⟩, ⟨2, 7.0⟩, ⟨3, 7.000000000000001⟩]

/-- Their allocation of 10,000: the three shares are the same double, and the hundredth left
over goes to the first. -/
def crowdedThirdsRows : List Allocation :=
  [⟨1, 33.333333333333336, 33.34, 3334⟩, ⟨2, 33.333333333333336, 33.33, 3333⟩,
    ⟨3, 33.333333333333336, 33.33, 3333⟩]

theorem crowdedThirds_run :
  computeWeights crowdedThirds = .ok crowdedWeights
    ∧ computeAllocations 10000 crowdedThirds = .ok crowdedThirdsRows
  := by
  obtain ⟨hweights, hrun⟩ : (computeWeights crowdedThirds).toOption = some crowdedWeights
      ∧ (computeAllocations 10000 crowdedThirds).toOption = some crowdedThirdsRows := by
    decide +kernel
  exact ⟨eq_ok_of_toOption hweights, eq_ok_of_toOption hrun⟩

/-- Allocation is not monotone in weight across the order of the standings: of weights 7, 7
and the next double above 7, the heaviest, last, receives one hundredth less than the first. -/
theorem heavier_weight_gets_less :
  computeWeights crowdedThirds = .ok crowdedWeights
    ∧ (7.0 : Float) < 7.000000000000001
    ∧ computeAllocations 10000 crowdedThirds = .ok crowdedThirdsRows
    ∧ percentageOf crowdedThirdsRows 3 < percentageOf crowdedThirdsRows 1
    ∧ amountOf crowdedThirdsRows 3 < amountOf crowdedThirdsRows 1
  := by
  obtain ⟨hweights, hrun⟩ := crowdedThirds_run
  obtain ⟨hheavier, hless⟩ : (7.0 : Float) < 7.000000000000001
      ∧ percentageOf crowdedThirdsRows 3 < percentageOf crowdedThirdsRows 1 := by
    decide +kernel
  exact ⟨hweights, hheavier, hrun, hless, by decide⟩

/-- The statement at the weights 7, 7 and the next double above 7, for the first and the
last: the first weighs less and takes the hundredth left over. -/
theorem allocation_follows_weights_crowdedThirds :
  (crowdedThirds.map (·.participant)).Nodup
    ∧ computeWeights crowdedThirds = .ok crowdedWeights
    ∧ computeAllocations 10000 crowdedThirds = .ok crowdedThirdsRows
    ∧ crowdedWeights = [] ++ ⟨1, 7.0⟩ :: ([⟨2, 7.0⟩] ++ ⟨3, 7.000000000000001⟩ :: [])
    ∧ ((7.000000000000001 : Float) ≤ 7.0
        → percentageOf crowdedThirdsRows 3 ≤ percentageOf crowdedThirdsRows 1
          ∧ amountOf crowdedThirdsRows 3 ≤ amountOf crowdedThirdsRows 1)
    ∧ ((7.0 : Float) ≤ 7.000000000000001
      → (percentageOf crowdedThirdsRows 1 ≤ percentageOf crowdedThirdsRows 3
          ∧ amountOf crowdedThirdsRows 1 ≤ amountOf crowdedThirdsRows 3)
        ∨ (value ((100.0 * 7.0 / sumFloats (crowdedWeights.map (·.weight))) * 100.0)
              = value ((100.0 * 7.000000000000001 / sumFloats (crowdedWeights.map (·.weight))) * 100.0)
            ∧ amountOf crowdedThirdsRows 3 ≤ amountOf crowdedThirdsRows 1
            ∧ ∃ n, OfHundredths (percentageOf crowdedThirdsRows 3) n
              ∧ OfHundredths (percentageOf crowdedThirdsRows 1) (n + 1)))
  := by
  obtain ⟨hweights, hrun⟩ := crowdedThirds_run
  have hsplit : crowdedWeights = [] ++ ⟨1, 7.0⟩ :: ([⟨2, 7.0⟩] ++ ⟨3, 7.000000000000001⟩ :: []) := rfl
  have hids : (crowdedThirds.map (·.participant)).Nodup := by decide
  have h := allocation_follows_weights hids hweights hrun hsplit
  dsimp only at h
  exact ⟨hids, hweights, hrun, hsplit, h⟩

end Payout
