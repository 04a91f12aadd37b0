import Payout.Domain.Allocation
import Payout.Proofs.Except
import Payout.Proofs.Double.Sums
import Payout.Proofs.Double.Whole

/-!
# Apportioned hundredths

`apportionHundredths` floors every share to whole hundredths of a percent, then gives one more
hundredth to each of the largest remainders, as many as the floors fall short of 10,000. Read
backward (`apportionHundredths_eq_ok`), a success says that every share in hundredths was a
finite nonnegative double, and that the result is the list of floors with one more hundredth
at the indices of a list no longer than the shortfall.

The shortfall is computed with doubles. When the floors add up to at most 10,000 it is exact
(`missingHundredths_eq`), and then every hundredth is a whole number and they add up to at
most 10,000 (`apportionHundredths_whole`). That the floors do is a property of the shares,
proved where the shares are made.
-/

namespace Payout

open Double

/-! ### What the apportionment computes -/

/-- A share in hundredths of a percent. -/
def Share.hundredths (s : Share) : Float := s.share * 100.0

/-- The whole hundredths of a share, rounded down. -/
def Share.floorHundredths (s : Share) : Float := Decimal.floorToWhole s.hundredths

/-- The hundredths that floors fall short of 10,000, as the apportionment counts them. -/
def missingHundredths (floors : List Float) : ℕ :=
  (floatToSize? (Decimal.roundToWhole (10000.0 - sumFloats floors))).getD 0

/-- Floors, with one more hundredth at each index in `bumped`. -/
def bumpAt (bumped : List ℕ) (floors : List Float) : List Float :=
  (List.range floors.length).zip floors |>.map fun (i, f) =>
    if bumped.contains i then f + 1.0 else f

/-- A double that passes the check `!isFinite x || x < 0.0` is a finite nonnegative number. -/
theorem finite_nonneg_of_check {x : Float} (h : ¬(!isFinite x || x < 0.0) = true) :
  x.isFinite = true ∧ 0 ≤ value x
  := by
  simp only [Bool.or_eq_true, Bool.not_eq_true', decide_eq_true_eq, not_or, Bool.not_eq_false] at h
  obtain ⟨hfin, hneg⟩ := h
  rw [isFinite_eq] at hfin
  refine ⟨hfin, ?_⟩
  rw [lt_iff_value_lt hfin isFinite_zero, value_zero] at hneg
  exact le_of_not_gt hneg

/-! ### The ranking of remainders -/

/-- Inserting a remainder into a ranking adds it and keeps the others. -/
theorem insertRanked_perm (x : ℕ × Float) (l : List (ℕ × Float)) :
  (insertRanked x l).Perm (x :: l)
  := by
  induction l with
  | nil => exact .refl _
  | cons y ys ih =>
    unfold insertRanked
    split
    · exact .refl _
    · exact (ih.cons y).trans (.swap x y ys)

/-- A ranking holds the remainders it ranks, each as often as they occur. -/
theorem rankRemainders_perm (xs : List (ℕ × Float)) :
  (rankRemainders xs).Perm xs
  := by
  induction xs with
  | nil => exact .refl _
  | cons x xs ih => exact (insertRanked_perm x _).trans (ih.cons x)

/-- The indices of the first `k` ranked remainders of a list, numbered from zero, are indices of the
list, each once, and there are `k` of them when the list has that many. The ranked indices are the
indices of the list in another order. -/
theorem rankedIndices_take (rems : List Float) (k : ℕ) :
  (((rankRemainders ((List.range rems.length).zip rems)).take k).map (·.1)).Nodup
    ∧ (∀ i ∈ ((rankRemainders ((List.range rems.length).zip rems)).take k).map (·.1),
        i < rems.length)
    ∧ (((rankRemainders ((List.range rems.length).zip rems)).take k).map (·.1)).length
        = min k rems.length
  := by
  have hperm : ((rankRemainders ((List.range rems.length).zip rems)).map (·.1)).Perm
      (List.range rems.length) := by
    have h := (rankRemainders_perm ((List.range rems.length).zip rems)).map Prod.fst
    rwa [List.map_fst_zip (by rw [List.length_range])] at h
  rw [List.map_take]
  refine ⟨(List.take_sublist _ _).nodup (hperm.nodup_iff.mpr List.nodup_range), fun i hi => ?_, ?_⟩
  · exact List.mem_range.mp (hperm.subset (List.mem_of_mem_take hi))
  · rw [List.length_take, hperm.length_eq, List.length_range]

/-! ### What a success says -/

/-- A success floored every share, each a finite nonnegative number of hundredths, and added
one hundredth at distinct indices of the shares, as many as the shortfall, up to one for
each share. -/
theorem apportionHundredths_eq_ok {totalProfit : Int} {shares : List Share}
    {hundredths : List Float} (h : apportionHundredths totalProfit shares = .ok hundredths) :
  (∀ s ∈ shares, s.hundredths.isFinite = true ∧ 0 ≤ value s.hundredths)
    ∧ ∃ bumped : List ℕ, bumped.Nodup ∧ (∀ i ∈ bumped, i < shares.length)
      ∧ bumped.length = min (missingHundredths (shares.map Share.floorHundredths)) shares.length
      ∧ hundredths = bumpAt bumped (shares.map Share.floorHundredths)
  := by
  unfold apportionHundredths at h
  obtain ⟨parts, hparts, h⟩ := bind_eq_ok.mp h
  have hrows : List.Forall₂ (fun s p => (s.hundredths.isFinite = true ∧ 0 ≤ value s.hundredths)
      ∧ p = (s.floorHundredths, s.hundredths - s.floorHundredths)) shares parts := by
    apply (forall₂_of_mapM_eq_ok hparts).imp
    intro s p hp
    dsimp only at hp
    split at hp
    · cases hp
    · rename_i hcheck
      cases hp
      exact ⟨finite_nonneg_of_check hcheck, rfl⟩
  have hmap : parts = shares.map fun s => (s.floorHundredths, s.hundredths - s.floorHundredths) :=
    eq_map_of_forall₂ (hrows.imp fun _ _ hp => hp.2)
  have hfloors : parts.map (·.1) = shares.map Share.floorHundredths := by
    rw [hmap, List.map_map]
    rfl
  have hlength : parts.length = shares.length := hrows.length_eq.symm
  obtain ⟨hnodup, hlt, hcount⟩ :=
    rankedIndices_take (parts.map (·.2)) (missingHundredths (parts.map (·.1)))
  simp only [List.length_map] at hnodup hlt hcount
  cases h
  refine ⟨fun s hs => ?_, _, hnodup, fun i hi => hlength ▸ hlt i hi, ?_, ?_⟩
  · obtain ⟨p, -, hp⟩ := exists_of_forall₂_of_mem hrows.flip hs
    exact hp.1
  · rw [List.length_map, hcount, hfloors, hlength]
  · rw [← hfloors]
    rfl

theorem length_bumpAt (bumped : List ℕ) (floors : List Float) :
  (bumpAt bumped floors).length = floors.length
  := by
  rw [bumpAt, List.length_map, List.length_zip, List.length_range, Nat.min_self]

/-- The apportionment gives one number of hundredths for each share. -/
theorem length_apportionHundredths {totalProfit : Int} {shares : List Share}
    {hundredths : List Float} (h : apportionHundredths totalProfit shares = .ok hundredths) :
  hundredths.length = shares.length
  := by
  obtain ⟨-, bumped, -, -, -, rfl⟩ := apportionHundredths_eq_ok h
  rw [length_bumpAt, List.length_map]

/-! ### Whole numbers of hundredths -/

/-- A double that is the whole number `k`. -/
def IsWhole (f : Float) (k : ℕ) : Prop := f.isFinite = true ∧ value f = k

/-- One more than a whole number below `2 ^ 53 - 1` is computed exactly. -/
theorem IsWhole.add_one {f : Float} {k : ℕ} (h : IsWhole f k) (hk : k + 1 < 2 ^ 53) :
  IsWhole (f + 1.0) (k + 1)
  := by
  obtain ⟨hfin, hval⟩ := h
  have hexact : roundDouble (value f + value 1.0) = ((k + 1 : ℕ) : ℚ) := by
    rw [hval, value_one, ← Nat.cast_one, ← Nat.cast_add]
    exact roundDouble_natCast hk
  have hfin' : (f + 1.0).isFinite = true := by
    apply isFinite_add hfin isFinite_one
    rw [hexact]
    exact abs_natCast_lt_overflow hk
  exact ⟨hfin', by rw [value_add hfin isFinite_one hfin', hexact]⟩

/-- The floor of an accepted share is the whole number of its hundredths, rounded down. -/
theorem isWhole_floorHundredths {s : Share} (hfin : s.hundredths.isFinite = true)
    (hnonneg : 0 ≤ value s.hundredths) :
  IsWhole s.floorHundredths ⌊value s.hundredths⌋₊
  := by
  obtain ⟨hfin', hval⟩ := value_floorToWhole hfin
  refine ⟨hfin', ?_⟩
  rw [Share.floorHundredths, hval, ← Int.natCast_floor_eq_floor hnonneg, Int.cast_natCast]

theorem map_value_eq {floors : List Float} {ks : List ℕ} (h : List.Forall₂ IsWhole floors ks) :
  floors.map value = ks.map (↑)
  := by
  induction h with
  | nil => rfl
  | cons hfk _ ih => rw [List.map_cons, List.map_cons, hfk.2, ih]

/-- A sum of whole numbers below `2 ^ 53` is computed exactly. -/
theorem isWhole_sumFloats {floors : List Float} {ks : List ℕ}
    (h : List.Forall₂ IsWhole floors ks) (hsum : ks.sum < 2 ^ 53) :
  IsWhole (sumFloats floors) ks.sum
  := by
  have hexact : roundedSum 0 (floors.map value) = ks.sum := by
    rw [map_value_eq h, ← Nat.cast_zero, roundedSum_natCast 0 ks (by omega), Nat.zero_add]
  have hfin : (sumFloats floors).isFinite = true := by
    apply isFinite_sumFloats
    · intro f hf
      obtain ⟨k, -, hfk⟩ := exists_of_forall₂_of_mem h.flip hf
      exact ⟨hfk.1, by rw [hfk.2]; exact Nat.cast_nonneg k⟩
    · rw [hexact]
      exact lt_of_abs_lt (abs_natCast_lt_overflow hsum)
  exact ⟨hfin, by rw [(value_sumFloats hfin).2, hexact]⟩

/-- When the floors add up to at most 10,000, the shortfall the apportionment counts is
exactly what they miss of 10,000: the difference, its rounding and its conversion are all
exact on whole numbers. -/
theorem missingHundredths_eq {floors : List Float} {ks : List ℕ}
    (h : List.Forall₂ IsWhole floors ks) (hsum : ks.sum ≤ 10000) :
  missingHundredths floors = 10000 - ks.sum
  := by
  obtain ⟨hfin, hval⟩ := isWhole_sumFloats h (by omega)
  have hdiff : roundDouble (value 10000.0 - value (sumFloats floors)) = ((10000 - ks.sum : ℕ) : ℚ) := by
    rw [value_tenThousand, hval, show (10000 : ℚ) = ((10000 : ℕ) : ℚ) by norm_num,
      ← Nat.cast_sub hsum]
    exact roundDouble_natCast (by omega)
  have hfin' : (10000.0 - sumFloats floors).isFinite = true := by
    apply isFinite_sub isFinite_tenThousand hfin
    rw [hdiff]
    exact abs_natCast_lt_overflow (by omega)
  have hval' : value (10000.0 - sumFloats floors) = ((10000 - ks.sum : ℕ) : ℚ) := by
    rw [value_sub isFinite_tenThousand hfin hfin', hdiff]
  obtain ⟨hfin'', hround⟩ := value_roundToWhole hfin'
  rw [hval', if_neg (not_lt.mpr (Nat.cast_nonneg _)), ← Int.cast_natCast, round_intCast] at hround
  have hsize := floatToSize?_eq hfin''
    (by rw [hround, Int.cast_natCast]; linarith [Nat.cast_nonneg (α := ℚ) (10000 - ks.sum)])
    (by rw [hround, Int.cast_natCast]; exact_mod_cast (by omega : 10000 - ks.sum < 2 ^ 64))
  rw [hround, Int.cast_natCast, Nat.floor_natCast] at hsize
  rw [missingHundredths, hsize, Option.getD_some]

/-! ### One more hundredth at some indices -/

section Bump

variable (bumped : List ℕ)

/-- Whole numbers with one more at each index in `bumped`. -/
def bumpWhole (ks : List ℕ) : List ℕ :=
  (List.range ks.length).zip ks |>.map fun (i, k) => if bumped.contains i then k + 1 else k

/-- Bumping whole numbers of doubles bumps the numbers, counted from any start index. -/
theorem forall₂_bump {floors : List Float} {ks : List ℕ} (h : List.Forall₂ IsWhole floors ks)
    (hks : ∀ k ∈ ks, k + 1 < 2 ^ 53) (start : ℕ) :
  List.Forall₂ IsWhole
    ((List.range' start floors.length).zip floors |>.map fun (i, f) =>
      if bumped.contains i then f + 1.0 else f)
    ((List.range' start ks.length).zip ks |>.map fun (i, k) =>
      if bumped.contains i then k + 1 else k)
  := by
  induction h generalizing start with
  | nil => exact .nil
  | @cons f k floors ks hfk _ ih =>
    rw [List.length_cons, List.length_cons, List.range'_succ, List.range'_succ]
    refine .cons ?_ (ih (fun k' hk' => hks k' (List.mem_cons_of_mem _ hk')) _)
    dsimp only
    split
    · exact hfk.add_one (hks k List.mem_cons_self)
    · exact hfk

/-- Bumping adds one for each index, among those counted, that is in `bumped`. -/
theorem sum_bump (ks : List ℕ) (start : ℕ) :
  ((List.range' start ks.length).zip ks |>.map fun (i, k) =>
      if bumped.contains i then k + 1 else k).sum
    = ks.sum + ((List.range' start ks.length).filter bumped.contains).length
  := by
  induction ks generalizing start with
  | nil => rfl
  | cons k ks ih =>
    rw [List.length_cons, List.range'_succ, List.zip_cons_cons, List.map_cons, List.sum_cons,
      ih, List.filter_cons]
    dsimp only
    split <;> simp only [List.sum_cons, List.length_cons] <;> omega

/-- Bumping at distinct indices of the list adds one for each of them. -/
theorem sum_bumpWhole_of_nodup (ks : List ℕ) (hnodup : bumped.Nodup)
    (hlt : ∀ i ∈ bumped, i < ks.length) :
  (bumpWhole bumped ks).sum = ks.sum + bumped.length
  := by
  rw [bumpWhole, List.range_eq_range', sum_bump]
  have hperm : ((List.range' 0 ks.length).filter bumped.contains).Perm bumped := by
    apply (List.perm_ext_iff_of_nodup ((List.nodup_range' ..).filter _) hnodup).mpr
    intro i
    rw [List.mem_filter, List.mem_range'_1, List.contains_iff_mem]
    constructor
    · exact fun hi => hi.2
    · intro hi
      have := hlt i hi
      exact ⟨⟨Nat.zero_le i, by omega⟩, hi⟩
  rw [hperm.length_eq]

theorem forall₂_bumpAt {floors : List Float} {ks : List ℕ} (h : List.Forall₂ IsWhole floors ks)
    (hks : ∀ k ∈ ks, k + 1 < 2 ^ 53) :
  List.Forall₂ IsWhole (bumpAt bumped floors) (bumpWhole bumped ks)
  := by
  rw [bumpAt, bumpWhole, List.range_eq_range', List.range_eq_range']
  exact forall₂_bump bumped h hks 0

end Bump

/-- When the floors of the shares add up to at most 10,000, every apportioned hundredth is a
whole number, and they add up to the floors and the shortfall, one hundredth of it at most
for each share. -/
theorem apportionHundredths_whole {totalProfit : Int} {shares : List Share}
    {hundredths : List Float} (h : apportionHundredths totalProfit shares = .ok hundredths)
    (hfloors : (shares.map fun s => ⌊value s.hundredths⌋₊).sum ≤ 10000) :
  ∃ ns : List ℕ, List.Forall₂ IsWhole hundredths ns
    ∧ ns.sum = (shares.map fun s => ⌊value s.hundredths⌋₊).sum
      + min (10000 - (shares.map fun s => ⌊value s.hundredths⌋₊).sum) shares.length
  := by
  obtain ⟨hshares, bumped, hnodup, hlt, hlen, rfl⟩ := apportionHundredths_eq_ok h
  set ks := shares.map fun s => ⌊value s.hundredths⌋₊ with hks
  have hwhole : List.Forall₂ IsWhole (shares.map Share.floorHundredths) ks := by
    rw [hks, List.forall₂_map_left_iff, List.forall₂_map_right_iff]
    apply List.forall₂_same.mpr
    intro s hs
    exact isWhole_floorHundredths (hshares s hs).1 (hshares s hs).2
  have hsmall : ∀ k ∈ ks, k + 1 < 2 ^ 53 := by
    intro k hk
    have := List.le_sum_of_mem hk
    omega
  rw [missingHundredths_eq hwhole hfloors] at hlen
  refine ⟨bumpWhole bumped ks, forall₂_bumpAt bumped hwhole hsmall, ?_⟩
  rw [sum_bumpWhole_of_nodup bumped ks hnodup (by rw [hks, List.length_map]; exact hlt), hlen]

end Payout
