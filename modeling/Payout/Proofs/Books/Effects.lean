import Payout.Proofs.Books.Keyed

/-!
# What each operation does to a distribution

Every statement about the lifecycle is about one distribution at a time: its record and its
rows, listed in the order they were stored. This file gives, for each operation that is
admitted on keyed books, the record and rows of the distribution it targets afterwards, and
shows that no other distribution's record or rows change (`Frame`). A property of every
distribution with its rows (`Everywhere`) then survives an operation as soon as it holds of
the target afterwards.
-/

namespace Payout.Lifecycle.Books

/-- `b'` differs from `b` at most in the record and the rows of distribution `id`. -/
structure Frame (id : Int) (b b' : Books) : Prop where
  distributionOf_ne : ∀ j ≠ id, b'.distributionOf j = b.distributionOf j
  detailsOf_ne : ∀ j ≠ id, b'.detailsOf j = b.detailsOf j

/-- A property holds of every stored distribution together with its rows. -/
def Everywhere (P : Distribution → List Detail → Prop) (b : Books) : Prop :=
  ∀ id d, b.distributionOf id = some d → P d (b.detailsOf id)

/-- A property of every distribution survives a change confined to one distribution when it
holds of that distribution afterwards. -/
theorem Everywhere.of_frame {P : Distribution → List Detail → Prop} {id : Int} {b b' : Books}
    (h : Everywhere P b) (hf : Frame id b b')
    (ht : ∀ d, b'.distributionOf id = some d → P d (b'.detailsOf id)) :
  Everywhere P b'
  := by
  intro j d hd
  by_cases hj : j = id
  · subst hj
    exact ht d hd
  · rw [hf.detailsOf_ne j hj]
    rw [hf.distributionOf_ne j hj] at hd
    exact h j d hd

/-! ### Views of the basic writes -/

theorem distribution_of_mem_detailsOf {b : Books} {j : Int} {r : Detail} (hr : r ∈ b.detailsOf j) :
  r.distribution = j
  := by
  simpa using (List.mem_filter.mp hr).2

theorem detailsOf_filter (b : Books) (p : Detail → Bool) (j : Int) :
  ({ b with details := b.details.filter p } : Books).detailsOf j = (b.detailsOf j).filter p
  := by
  simp only [detailsOf, List.filter_filter, Bool.and_comm]

theorem detailsOf_storeDetail (b : Books) (r : Detail) (j : Int) :
  (b.storeDetail r).2.detailsOf j
    = b.detailsOf j ++ if r.distribution = j then [{ r with id := some (b.lastId + 1) }] else []
  := by
  rw [storeDetail_eq]
  simp only [detailsOf, List.filter_append, List.filter_cons, List.filter_nil, beq_iff_eq]

/-- Changing a distribution other than `j`, or changing none, leaves what `j` names. -/
theorem distributionOf_modifyDistribution_ne (b : Books) {id j : Int} (f : Distribution → Distribution)
    (hf : ∀ d, (f d).id = d.id) (hj : j ≠ id) :
  (b.modifyDistribution id f).distributionOf j = b.distributionOf j
  := by
  rw [distributionOf_modifyDistribution b id j f hf]
  simp [hj]

theorem distributionOf_modifyDistribution_self (b : Books) {id : Int} {d : Distribution}
    (f : Distribution → Distribution) (hf : ∀ d, (f d).id = d.id) (hd : b.distributionOf id = some d) :
  (b.modifyDistribution id f).distributionOf id = some (f d)
  := by
  rw [distributionOf_modifyDistribution b id id f hf, hd]
  simp

theorem frame_modifyDistribution (b : Books) (id : Int) (f : Distribution → Distribution)
    (hf : ∀ d, (f d).id = d.id) :
  Frame id b (b.modifyDistribution id f)
  := ⟨fun _ hj => distributionOf_modifyDistribution_ne b f hf hj, fun _ _ => rfl⟩

theorem Frame.trans {id : Int} {b b' b'' : Books} (h : Frame id b b') (h' : Frame id b' b'') :
  Frame id b b''
  := ⟨fun j hj => (h'.distributionOf_ne j hj).trans (h.distributionOf_ne j hj),
      fun j hj => (h'.detailsOf_ne j hj).trans (h.detailsOf_ne j hj)⟩

/-! ### The five operations, as admitted -/

/-- Replacing a distribution's rows lists exactly the new rows, numbered from the next
identifier, and sets the state from their sum; no other distribution changes. -/
theorem replaceRows_views {b : Books} {distribution : Int} {d : Distribution} {rows : List Detail}
    (hd : b.distributionOf distribution = some d) (hrows : ∀ r ∈ rows, r.distribution = distribution) :
  (b.replaceRows distribution rows).distributionOf distribution
      = some { d with state := stateFor (totalPercentage rows) }
    ∧ (b.replaceRows distribution rows).detailsOf distribution = numberFrom (b.lastId + 1) rows
    ∧ Frame distribution b (b.replaceRows distribution rows)
  := by
  have hnum : ∀ j, (numberFrom (b.lastId + 1) rows).filter (·.distribution == j)
      = if distribution = j then numberFrom (b.lastId + 1) rows else [] := by
    intro j
    have hmem : ∀ r ∈ numberFrom (b.lastId + 1) rows, r.distribution = distribution := by
      intro r hr
      obtain ⟨s, hs, he, -⟩ := mem_numberFrom hr
      rw [he]
      exact hrows s hs
    split
    · rename_i hj
      exact List.filter_eq_self.mpr fun r hr => by simp [hmem r hr, hj]
    · rename_i hj
      exact List.filter_eq_nil_iff.mpr fun r hr => by simp [hmem r hr, hj]
  have hview : ∀ j, (Books.storeDetails rows
        { b with details := b.details.filter (·.distribution != distribution) }).2.detailsOf j
      = (b.detailsOf j).filter (·.distribution != distribution)
        ++ if distribution = j then numberFrom (b.lastId + 1) rows else [] := by
    intro j
    rw [storeDetails_eq]
    simp only [detailsOf, List.filter_append, ← hnum j]
    congr 1
    simp only [List.filter_filter, Bool.and_comm]
  have hstored : Frame distribution b (Books.storeDetails rows
      { b with details := b.details.filter (·.distribution != distribution) }).2 := by
    refine ⟨fun j _ => by rw [storeDetails_eq]; rfl, fun j hj => ?_⟩
    rw [hview, if_neg (Ne.symm hj), List.append_nil]
    exact List.filter_eq_self.mpr fun r hr => by simp [distribution_of_mem_detailsOf hr, hj]
  refine ⟨?_, ?_, hstored.trans (frame_modifyDistribution _ _ _ fun _ => rfl)⟩
  · rw [replaceRows]
    exact distributionOf_modifyDistribution_self _ _ (fun _ => rfl) (by rw [storeDetails_eq]; exact hd)
  · rw [replaceRows, detailsOf_modifyDistribution, hview, if_pos rfl]
    have hgone : (b.detailsOf distribution).filter (·.distribution != distribution) = [] :=
      List.filter_eq_nil_iff.mpr fun r hr => by simp [distribution_of_mem_detailsOf hr]
    rw [hgone, List.nil_append]

/-- A row added by hand is listed last among its distribution's rows, and the distribution
takes the state of the new sum; no other distribution changes. -/
theorem addManual_views {b : Books} {distribution : Int} (participant : Int) (percentage : Float)
    {d : Distribution} (amount : Int) (hd : b.distributionOf distribution = some d) :
  (b.addManual distribution participant percentage d amount).distributionOf distribution
      = some { d with state := stateFor (totalPercentage (b.detailsOf distribution) + percentage) }
    ∧ (b.addManual distribution participant percentage d amount).detailsOf distribution
      = b.detailsOf distribution ++ [⟨some (b.lastId + 1), distribution, participant, percentage, amount⟩]
    ∧ Frame distribution b (b.addManual distribution participant percentage d amount)
  := by
  have hstored : Frame distribution b (b.storeDetail ⟨none, distribution, participant, percentage, amount⟩).2 :=
    ⟨fun _ _ => rfl, fun j hj => by simp [detailsOf_storeDetail, Ne.symm hj]⟩
  have hrows : (b.storeDetail ⟨none, distribution, participant, percentage, amount⟩).2.detailsOf distribution
      = b.detailsOf distribution ++ [⟨some (b.lastId + 1), distribution, participant, percentage, amount⟩] := by
    simp [detailsOf_storeDetail]
  unfold addManual
  dsimp only
  split
  · refine ⟨distributionOf_modifyDistribution_self _ _ (fun _ => rfl) hd, hrows,
      hstored.trans (frame_modifyDistribution _ _ _ fun _ => rfl)⟩
  · rename_i hs
    have he : stateFor (totalPercentage (b.detailsOf distribution) + percentage) = d.state := by
      simpa using hs
    exact ⟨by rw [he]; exact hd, hrows, hstored⟩

/-! ### Writing amounts -/

/-- A row after the amounts of pairs of identifier and amount are written in order. -/
def withAmounts (pairs : List (Int × Int)) (r : Detail) : Detail :=
  pairs.foldl (fun r p => if r.id == some p.1 then { r with amount := p.2 } else r) r

/-- Writing amounts changes only amounts. -/
theorem withAmounts_eq (pairs : List (Int × Int)) (r : Detail) :
  withAmounts pairs r = { r with amount := (withAmounts pairs r).amount }
  := by
  induction pairs generalizing r with
  | nil => rfl
  | cons p pairs ih =>
    rw [withAmounts, List.foldl_cons, ← withAmounts, ih]
    split <;> rfl

theorem distribution_withAmounts (pairs : List (Int × Int)) (r : Detail) :
  (withAmounts pairs r).distribution = r.distribution
  := by
  rw [withAmounts_eq]

/-- A row keeps its amount when every pair that names it writes that amount. -/
theorem withAmounts_eq_self {pairs : List (Int × Int)} {r : Detail}
    (h : ∀ p ∈ pairs, r.id = some p.1 → p.2 = r.amount) :
  withAmounts pairs r = r
  := by
  induction pairs with
  | nil => rfl
  | cons p pairs ih =>
    have hstep : (if r.id == some p.1 then { r with amount := p.2 } else r) = r := by
      by_cases hp : r.id = some p.1
      · rw [if_pos (by simpa using hp), h p List.mem_cons_self hp]
      · rw [if_neg (by simpa using hp)]
    rw [withAmounts, List.foldl_cons, hstep, ← withAmounts]
    exact ih fun q hq => h q (List.mem_cons_of_mem _ hq)

/-- A row that no pair names keeps its amount. -/
theorem withAmounts_of_forall_ne {pairs : List (Int × Int)} {r : Detail}
    (h : ∀ p ∈ pairs, r.id ≠ some p.1) :
  withAmounts pairs r = r
  := withAmounts_eq_self fun p hp hid => absurd hid (h p hp)

/-- Writing amounts changes only the rows, each by the pairs in order. -/
theorem setAmounts_eq (b : Books) (pairs : List (Int × Int)) :
  pairs.foldl setAmount b = { b with details := b.details.map (withAmounts pairs) }
  := by
  induction pairs generalizing b with
  | nil => exact congrArg (fun rows => { b with details := rows }) (List.map_id'' (fun _ => rfl) _).symm
  | cons p pairs ih =>
    rw [List.foldl_cons, ih]
    simp only [setAmount, List.map_map]
    rfl

theorem details_setAmounts (b : Books) (pairs : List (Int × Int)) :
  (pairs.foldl setAmount b).details = b.details.map (withAmounts pairs)
  := by
  rw [setAmounts_eq]

theorem distributions_setAmounts (b : Books) (pairs : List (Int × Int)) :
  (pairs.foldl setAmount b).distributions = b.distributions
  := by
  rw [setAmounts_eq]

theorem detailsOf_setAmounts (b : Books) (pairs : List (Int × Int)) (j : Int) :
  (pairs.foldl setAmount b).detailsOf j = (b.detailsOf j).map (withAmounts pairs)
  := by
  rw [detailsOf, details_setAmounts, List.filter_map]
  congr 2
  funext r
  simp only [Function.comp_apply, distribution_withAmounts]

theorem distributionOf_setAmounts (b : Books) (pairs : List (Int × Int)) (j : Int) :
  (pairs.foldl setAmount b).distributionOf j = b.distributionOf j
  := by
  simp only [distributionOf, distributions_setAmounts]

theorem amountUpdates_cons (r : Detail) (rows : List Detail) (a : Int) (amounts : List Int) :
  amountUpdates (r :: rows) (a :: amounts) = (r.id.map fun i => (i, a)).toList ++ amountUpdates rows amounts
  := by
  unfold amountUpdates
  cases hr : r.id <;> simp [hr]

/-- Every pair of identifier and amount names one of the rows. -/
theorem mem_amountUpdates {rows : List Detail} {amounts : List Int} {p : Int × Int}
    (hp : p ∈ amountUpdates rows amounts) :
  ∃ r ∈ rows, r.id = some p.1
  := by
  induction rows generalizing amounts with
  | nil => simp [amountUpdates] at hp
  | cons r rows ih =>
    obtain _ | ⟨a, amounts⟩ := amounts
    · simp [amountUpdates] at hp
    rw [amountUpdates_cons] at hp
    rcases List.mem_append.mp hp with hp | hp
    · obtain ⟨i, hi, rfl⟩ := Option.map_eq_some_iff.mp (Option.mem_toList.mp hp)
      exact ⟨r, List.mem_cons_self, hi⟩
    · obtain ⟨s, hs, hsp⟩ := ih hp
      exact ⟨s, List.mem_cons_of_mem _ hs, hsp⟩

/-- On rows under increasing identifiers, writing the amount updates of a list of amounts,
one per row, gives each row its amount. -/
theorem map_withAmounts_amountUpdates {rows : List Detail} {amounts : List Int}
    (hid : ∀ r ∈ rows, r.id = some (rowKey r)) (hord : rows.Pairwise fun r s => rowKey r < rowKey s)
    (hlen : amounts.length = rows.length) :
  rows.map (withAmounts (amountUpdates rows amounts))
    = List.zipWith (fun r a => { r with amount := a }) rows amounts
  := by
  induction rows generalizing amounts with
  | nil => rfl
  | cons r rows ih =>
    obtain _ | ⟨a, amounts⟩ := amounts
    · simp at hlen
    have hr := hid r List.mem_cons_self
    have hrest : ∀ p ∈ amountUpdates rows amounts, ∃ s ∈ rows, s.id = some p.1 ∧ rowKey r < rowKey s := by
      intro p hp
      obtain ⟨s, hs, hsp⟩ := mem_amountUpdates hp
      exact ⟨s, hs, hsp, List.rel_of_pairwise_cons hord hs⟩
    rw [amountUpdates_cons, hr]
    rw [Option.map_some, Option.toList_some, List.singleton_append, List.map_cons, List.zipWith_cons_cons]
    congr 1
    · rw [withAmounts, List.foldl_cons, if_pos (by simp [hr]), ← withAmounts]
      apply withAmounts_of_forall_ne
      intro p hp
      obtain ⟨s, hs, hsp, hlt⟩ := hrest p hp
      rw [hr, ← hsp, hid s (List.mem_cons_of_mem _ hs)]
      simp only [ne_eq, Option.some.injEq]
      omega
    · rw [← ih (fun s hs => hid s (List.mem_cons_of_mem _ hs)) hord.of_cons (by simpa using hlen)]
      apply List.map_congr_left
      intro s hs
      have hne : (s.id == some (rowKey r)) = false := by
        rw [hid s (List.mem_cons_of_mem _ hs)]
        simpa using Int.ne_of_gt (List.rel_of_pairwise_cons hord hs)
      rw [withAmounts, List.foldl_cons, hne, if_neg Bool.false_ne_true, ← withAmounts]

/-! ### Rows named by identifier

Two writes name rows by identifier rather than by distribution: removing a row, and writing
amounts. They stay inside one distribution because no two stored rows share an identifier,
as the table's primary key guarantees. -/

/-- No two stored rows share an identifier. -/
def RowIdsUnique (b : Books) : Prop :=
  ∀ r ∈ b.details, ∀ s ∈ b.details, r.id = s.id → r = s

/-- A new distribution is stored under the next identifier; no other distribution changes. -/
theorem frame_addDistribution (b : Books) (d : Distribution) :
  Frame (b.lastId + 1) b (b.addDistribution d)
  := by
  refine ⟨fun j hj => ?_, fun _ _ => rfl⟩
  have hne : (some (b.lastId + 1) == some j) = false := by simpa using Ne.symm hj
  simp [distributionOf, Books.addDistribution, List.find?_append, hne]

section Unique

variable {b : Books} (hu : b.RowIdsUnique)
include hu

/-- Removing the row of an identifier changes the rows of its distribution only. A row of another
distribution is not the row removed, so it has another identifier. -/
theorem frame_dropRow {id : Int} {r : Detail} (hr : b.details.find? (·.id == some id) = some r) :
  Frame r.distribution b { b with details := b.details.filter (·.id != some id) }
  := by
  have hrid : r.id = some id := by simpa using List.find?_some hr
  have hrmem : r ∈ b.details := List.mem_of_find?_eq_some hr
  refine ⟨fun _ _ => rfl, fun j hj => ?_⟩
  rw [detailsOf_filter]
  apply List.filter_eq_self.mpr
  intro s hs
  have hne : s.id ≠ some id := by
    intro hsid
    have hsr : s = r := hu s (List.mem_filter.mp hs).1 r hrmem (hsid.trans hrid.symm)
    exact hj ((distribution_of_mem_detailsOf hs).symm.trans (congrArg Detail.distribution hsr))
  simpa using hne

theorem frame_removeRow {id : Int} {r : Detail} (hr : b.details.find? (·.id == some id) = some r)
    (d : Distribution) :
  Frame r.distribution b (b.removeRow id r d)
  := by
  unfold removeRow
  dsimp only
  split
  · exact (frame_dropRow hu hr).trans (frame_modifyDistribution _ _ _ fun _ => rfl)
  · exact frame_dropRow hu hr

/-- Changing the total profit of a distribution, with its amounts written by row identifier, changes
that distribution only. Every pair names a row of the distribution, which a row of another one
cannot be. -/
theorem frame_retotal (distribution total : Int) (amounts : List Int) :
  Frame distribution b (b.retotal distribution total amounts)
  := by
  have hwritten : Frame distribution (b.modifyDistribution distribution fun d => { d with totalProfit := total })
      (b.retotal distribution total amounts) := by
    refine ⟨fun j _ => distributionOf_setAmounts _ _ j, fun j hj => ?_⟩
    rw [retotal, detailsOf_setAmounts, detailsOf_modifyDistribution]
    apply (List.map_congr_left fun s hs => withAmounts_of_forall_ne ?_).trans (List.map_id _)
    intro p hp hsp
    obtain ⟨r, hr, hrp⟩ := mem_amountUpdates hp
    have hsr : s = r := hu s (List.mem_filter.mp hs).1 r (List.mem_filter.mp hr).1 (hsp.trans hrp.symm)
    exact hj ((distribution_of_mem_detailsOf hs).symm.trans
      ((congrArg Detail.distribution hsr).trans (distribution_of_mem_detailsOf hr)))
  exact (frame_modifyDistribution b distribution (fun d => { d with totalProfit := total })
    fun _ => rfl).trans hwritten

end Unique

theorem Keyed.rowIdsUnique {b : Books} (hk : b.Keyed) :
  b.RowIdsUnique
  := fun _ hr _ hs he => hk.row_eq hr hs he

section Views

variable {b : Books} (hk : b.Keyed)
include hk

/-- A new distribution is stored under the next identifier, with no rows; no other
distribution changes. -/
theorem Keyed.addDistribution_views (d : Distribution) :
  (b.addDistribution d).distributionOf (b.lastId + 1) = some { d with id := some (b.lastId + 1) }
    ∧ (b.addDistribution d).detailsOf (b.lastId + 1) = []
    ∧ Frame (b.lastId + 1) b (b.addDistribution d)
  := by
  have hnone := hk.distributionOf_eq_none (show b.lastId < b.lastId + 1 by omega)
  simp only [distributionOf] at hnone
  refine ⟨?_, hk.detailsOf_eq_nil (by omega), frame_addDistribution b d⟩
  simp [distributionOf, Books.addDistribution, List.find?_append, hnone]

/-- Removing a row drops it from its distribution's rows, and a distributed distribution
whose other rows no longer add up to 100% becomes pending; no other distribution changes. -/
theorem Keyed.removeRow_views {id : Int} {r : Detail} {d : Distribution}
    (hr : b.details.find? (·.id == some id) = some r) (hd : b.distributionOf r.distribution = some d) :
  (b.removeRow id r d).distributionOf r.distribution
      = some (if d.state == .distributed
          && !isFullyAllocated (totalPercentage ((b.detailsOf r.distribution).filter (·.id != some id)))
        then { d with state := .pending } else d)
    ∧ (b.removeRow id r d).detailsOf r.distribution = (b.detailsOf r.distribution).filter (·.id != some id)
    ∧ Frame r.distribution b (b.removeRow id r d)
  := by
  refine ⟨?_, ?_, frame_removeRow hk.rowIdsUnique hr d⟩
  all_goals
    unfold removeRow
    dsimp only
    split
  · exact distributionOf_modifyDistribution_self _ _ (fun _ => rfl) hd
  · exact hd
  · exact detailsOf_filter _ _ _
  · exact detailsOf_filter _ _ _

/-- Changing the total profit with one amount per row writes the total and gives every row of
the distribution its amount; no other distribution changes. -/
theorem Keyed.retotal_views {distribution : Int} (total : Int) {amounts : List Int} {d : Distribution}
    (hd : b.distributionOf distribution = some d) (hlen : amounts.length = (b.detailsOf distribution).length) :
  (b.retotal distribution total amounts).distributionOf distribution = some { d with totalProfit := total }
    ∧ (b.retotal distribution total amounts).detailsOf distribution
      = List.zipWith (fun r a => { r with amount := a }) (b.detailsOf distribution) amounts
    ∧ Frame distribution b (b.retotal distribution total amounts)
  := by
  have hrows : ∀ r ∈ b.detailsOf distribution, r ∈ b.details := fun r hr => (List.mem_filter.mp hr).1
  refine ⟨?_, ?_, frame_retotal hk.rowIdsUnique distribution total amounts⟩
  · rw [retotal, distributionOf_setAmounts]
    exact distributionOf_modifyDistribution_self _ _ (fun _ => rfl) hd
  · rw [retotal, detailsOf_setAmounts, detailsOf_modifyDistribution]
    exact map_withAmounts_amountUpdates (fun r hr => (hk.row_id r (hrows r hr)).1)
      (hk.row_order.filter _) hlen

end Views

end Payout.Lifecycle.Books
