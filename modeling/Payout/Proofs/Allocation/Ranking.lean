import Payout.Proofs.Allocation.Hundredths
import Payout.Proofs.Double.Order

/-!
# The ranking of remainders

`rankRemainders` is an insertion sort by `ranksBefore`: the larger remainder first, in the
total order of doubles, and of two equal ones the smaller index. On entries with distinct
indices that order is strict and total, so the ranking is sorted by it
(`rankRemainders_pairwise`), and an entry is among the first `k` ranked exactly when fewer
than `k` entries rank before it (`mem_take_iff_of_pairwise`).

Fractional parts are finite doubles with the sign bit clear, on which the total order of
doubles is the order of their values. So an index is among the first `k` ranked exactly when
fewer than `k` indices have a larger remainder, or an equal one and a smaller index
(`mem_rankedIndices_iff`): when its `remainderRank` among the values is below `k`. A smaller
remainder, or an equal one at a later place, has a larger rank (`remainderRank_lt`).
-/

namespace Payout

open Double

/-- How many entries come before entry `i` when remainders are ordered largest first, and of
two equal ones the earlier first. -/
def remainderRank (rems : List ℚ) (i : ℕ) : ℕ :=
  ((List.range rems.length).filter fun j =>
    rems.getD i 0 < rems.getD j 0 ∨ (rems.getD j 0 = rems.getD i 0 ∧ j < i)).length

example : remainderRank [1 / 2, 3 / 4, 1 / 2, 0] 2 = 2 := by decide +kernel

/-- A predicate that implies another on a list, and fails where the other holds, counts fewer. -/
theorem countP_lt_countP {α : Type} {p q : α → Bool} {l : List α}
    (himp : ∀ x ∈ l, p x = true → q x = true) {y : α} (hy : y ∈ l) (hq : q y = true)
    (hp : p y = false) :
  l.countP p < l.countP q
  := by
  induction l with
  | nil => cases hy
  | cons x xs ih =>
    have himp' : ∀ z ∈ xs, p z = true → q z = true := fun z hz => himp z (List.mem_cons_of_mem _ hz)
    have hmono := List.countP_mono_left himp'
    rw [List.countP_cons, List.countP_cons]
    rcases List.mem_cons.mp hy with rfl | hy'
    · simp [hq, hp]
      omega
    · have hlt := ih himp' hy'
      by_cases hpx : p x = true
      · simp [hpx, himp x (List.mem_cons_self ..) hpx]
        omega
      · simp only [Bool.not_eq_true] at hpx
        simp only [hpx, Bool.false_eq_true, ↓reduceIte, Nat.add_zero]
        split <;> omega

/-- An entry of smaller remainder, or of equal remainder and later place, ranks later. Whatever
ranks before the first entry ranks before the second. -/
theorem remainderRank_lt {rems : List ℚ} {i j : ℕ} (hi : i < rems.length)
    (h : rems.getD j 0 < rems.getD i 0 ∨ (rems.getD j 0 = rems.getD i 0 ∧ i < j)) :
  remainderRank rems i < remainderRank rems j
  := by
  unfold remainderRank
  rw [← List.countP_eq_length_filter, ← List.countP_eq_length_filter]
  apply countP_lt_countP _ (List.mem_range.mpr hi)
  · simp only [decide_eq_true_eq]
    rcases h with hji | ⟨hji, hij⟩
    · exact .inl hji
    · exact .inr ⟨hji.symm, hij⟩
  · simp
  · intro k _ hk
    simp only [decide_eq_true_eq] at hk ⊢
    rcases h with hji | ⟨hji, hij⟩ <;> rcases hk with hik | ⟨hki, hki'⟩
    · exact .inl (hji.trans hik)
    · exact .inl (hki ▸ hji)
    · exact .inl (hji ▸ hik)
    · exact .inr ⟨hki.trans hji.symm, by omega⟩

/-! ### The order of the ranking -/

theorem ranksBefore_iff (a b : ℕ × Float) :
  ranksBefore a b = true ↔ totalKey b.2 < totalKey a.2 ∨ (totalKey a.2 = totalKey b.2 ∧ a.1 < b.1)
  := by
  simp [ranksBefore]

theorem ranksBefore_asymm {a b : ℕ × Float} (h : ranksBefore a b = true) :
  ranksBefore b a = false
  := by
  rw [ranksBefore_iff] at h
  rw [← Bool.not_eq_true, ranksBefore_iff]
  omega

theorem ranksBefore_trans {a b c : ℕ × Float} (hab : ranksBefore a b = true)
    (hbc : ranksBefore b c = true) :
  ranksBefore a c = true
  := by
  rw [ranksBefore_iff] at hab hbc ⊢
  omega

theorem ranksBefore_total {a b : ℕ × Float} (hne : a.1 ≠ b.1) :
  ranksBefore a b = true ∨ ranksBefore b a = true
  := by
  rw [ranksBefore_iff, ranksBefore_iff]
  omega

/-- Inserting an entry whose index the ranking lacks keeps the ranking in order. Either the entry
goes first, before everything the head ranks before, or the head stays first and ranks before the
entry too. -/
theorem insertRanked_pairwise (x : ℕ × Float) {l : List (ℕ × Float)}
    (hl : l.Pairwise fun a b => ranksBefore a b = true) (hx : ∀ y ∈ l, y.1 ≠ x.1) :
  (insertRanked x l).Pairwise fun a b => ranksBefore a b = true
  := by
  induction l with
  | nil => exact List.pairwise_singleton _ _
  | cons y ys ih =>
    obtain ⟨hy, hys⟩ := List.pairwise_cons.mp hl
    unfold insertRanked
    split
    · rename_i hxy
      refine List.Pairwise.cons (fun z hz => ?_) hl
      rcases List.mem_cons.mp hz with rfl | hz
      · exact hxy
      · exact ranksBefore_trans hxy (hy z hz)
    · rename_i hxy
      have hyx : ranksBefore y x = true :=
        (ranksBefore_total (hx y List.mem_cons_self)).resolve_right hxy
      refine List.Pairwise.cons (fun z hz => ?_) (ih hys fun z hz => hx z (List.mem_cons_of_mem _ hz))
      rcases List.mem_cons.mp ((insertRanked_perm x ys).subset hz) with rfl | hz
      · exact hyx
      · exact hy z hz

/-- Entries with distinct indices are ranked in order. -/
theorem rankRemainders_pairwise {xs : List (ℕ × Float)} (hxs : (xs.map (·.1)).Nodup) :
  (rankRemainders xs).Pairwise fun a b => ranksBefore a b = true
  := by
  induction xs with
  | nil => exact List.Pairwise.nil
  | cons x xs ih =>
    rw [List.map_cons, List.nodup_cons] at hxs
    apply insertRanked_pairwise x (ih hxs.2)
    intro y hy hyx
    exact hxs.1 (hyx ▸ List.mem_map_of_mem ((rankRemainders_perm xs).subset hy))

/-- In a list sorted by an asymmetric relation, a member is among the first `k` exactly when fewer
than `k` members come before it in the relation. Nothing comes before the head, and the head comes
before every later member. -/
theorem mem_take_iff_of_pairwise {α : Type} {R : α → α → Bool}
    (hasymm : ∀ a b, R a b = true → R b a = false) {l : List α}
    (hl : l.Pairwise fun a b => R a b = true) {x : α} (hx : x ∈ l) (k : ℕ) :
  x ∈ l.take k ↔ (l.filter fun y => R y x).length < k
  := by
  induction l generalizing k with
  | nil => cases hx
  | cons y l ih =>
    obtain ⟨hy, hl'⟩ := List.pairwise_cons.mp hl
    by_cases hxy : x = y
    · subst hxy
      have hself : R x x = false := by
        cases h : R x x
        · rfl
        · simpa [h] using hasymm x x h
      have hnone : (l.filter fun y => R y x) = [] :=
        List.filter_eq_nil_iff.mpr fun z hz => by simp [hasymm x z (hy z hz)]
      cases k <;> simp [hself, hnone]
    · have hx' : x ∈ l := (List.mem_cons.mp hx).resolve_left hxy
      have hyx : R y x = true := hy x hx'
      cases k with
      | zero => simp
      | succ k =>
        rw [List.take_succ_cons, List.mem_cons, List.filter_cons, if_pos hyx, List.length_cons,
          ih hl' hx' k]
        simp [hxy]

/-! ### Ranked indices -/

theorem zip_range_eq_map {β : Type} (l : List β) (d : β) :
  (List.range l.length).zip l = (List.range l.length).map fun j => (j, l.getD j d)
  := by
  apply List.ext_getElem (by simp)
  intro j h₁ h₂
  simp [List.getElem?_eq_getElem (show j < l.length by simpa using h₂)]

/-- An index is among the first `k` ranked fractional parts exactly when fewer than `k` indices have
a larger one, or an equal one and a smaller index. An index is ranked among the first `k` exactly
when its entry is, and the entries ranked before it are those of the indices before it in the order
of values. -/
theorem mem_rankedIndices_iff {rems : List Float}
    (hrems : ∀ r ∈ rems, r.isFinite = true ∧ r.toBits.toNat < 2 ^ 63) {i : ℕ} (hi : i < rems.length)
    (k : ℕ) :
  i ∈ ((rankRemainders ((List.range rems.length).zip rems)).take k).map (·.1)
    ↔ remainderRank (rems.map value) i < k
  := by
  have hP := zip_range_eq_map rems 0.0
  set P := (List.range rems.length).zip rems
  have hperm := rankRemainders_perm P
  have hsorted : (rankRemainders P).Pairwise fun a b => ranksBefore a b = true := by
    apply rankRemainders_pairwise
    rw [List.map_fst_zip (by simp)]
    exact List.nodup_range
  set x := (i, rems.getD i 0.0)
  have hxP : x ∈ P := by
    rw [hP]
    exact List.mem_map.mpr ⟨i, List.mem_range.mpr hi, rfl⟩
  have hidx : i ∈ ((rankRemainders P).take k).map (·.1) ↔ x ∈ (rankRemainders P).take k := by
    constructor
    · intro h
      obtain ⟨p, hp, rfl⟩ := List.mem_map.mp h
      have hpP : p ∈ P := hperm.subset (List.mem_of_mem_take hp)
      rw [hP] at hpP
      obtain ⟨j, -, rfl⟩ := List.mem_map.mp hpP
      exact hp
    · intro h
      exact List.mem_map.mpr ⟨x, h, rfl⟩
  rw [hidx, mem_take_iff_of_pairwise (fun _ _ => ranksBefore_asymm) hsorted (hperm.symm.subset hxP),
    (hperm.filter _).length_eq, hP, List.filter_map, List.length_map]
  unfold remainderRank
  rw [List.length_map]
  apply Iff.of_eq
  congr 2
  apply List.filter_congr
  intro j hj
  have hj' : j < rems.length := List.mem_range.mp hj
  have hget : ∀ n (hn : n < rems.length),
      rems.getD n 0.0 = rems[n] ∧ (rems.map value).getD n 0 = value rems[n] := by
    intro n hn
    exact ⟨List.getD_eq_getElem _ _ hn, by rw [List.getD_eq_getElem _ _ (by simpa using hn),
      List.getElem_map]⟩
  obtain ⟨hrj, hvj⟩ := hget j hj'
  obtain ⟨hri, hvi⟩ := hget i hi
  obtain ⟨hfj, hsj⟩ := hrems rems[j] (List.getElem_mem hj')
  obtain ⟨hfi, hsi⟩ := hrems rems[i] (List.getElem_mem hi)
  simp only [Function.comp_apply, x, hrj, hri, hvj, hvi]
  rw [Bool.eq_iff_iff, ranksBefore_iff, totalKey_lt_iff hfi hfj hsi hsj,
    totalKey_eq_iff hfj hfi hsj hsi]
  simp

end Payout
