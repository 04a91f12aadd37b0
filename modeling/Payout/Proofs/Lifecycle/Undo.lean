import Payout.Proofs.Lifecycle.Distributed

/-!
# Removing a row added by hand undoes it

A row added by hand is stored last, under the next identifier, and its distribution takes the
state of the sum its rows then reach. Removing that row again gives back the books as they
were before the addition, but for the identifier counter
(`removeDetail_undoes_addManualDetail`): the removal is admitted (`Keyed.admitRemove_addManual`)
and writes back the books before the addition (`Keyed.removeRow_addManual`). The row goes and
no other with it, since no other row has its identifier (`Keyed.filter_fresh_append`). The
state comes back because on reachable books it agrees with the rows (`StateAgrees`):

* a pending distribution that the row made distributed falls short of 100 without it, and the
  removal makes it pending again;
* a distributed distribution was within tolerance of 100, and the row, which fits under the
  ceiling, leaves it so; the removal then has nothing to demote.
-/

namespace Payout.Lifecycle.Books

open Double

/-! ### The state comes back -/

/-- A row that fits under the ceiling keeps a full allocation full: the new sum lies between
the old one and the ceiling. -/
theorem WithinCapacity.isFullyAllocated_append {ps : List Float} (h : WithinCapacity ps) {p : Float}
    (hp : InRange p) {distribution : Int} (hcapacity : validateCapacity distribution (sumFloats ps) p = .ok ())
    (hfull : isFullyAllocated (sumFloats ps) = true) :
  isFullyAllocated (sumFloats ps + p) = true
  := by
  have hwithin := h.append hp hcapacity
  obtain ⟨hfin, hval⟩ := h.value_sumFloats
  obtain ⟨hfin', hval'⟩ := hwithin.value_sumFloats
  rw [sumFloats_append_singleton] at hfin' hval'
  have h0 : 0 ≤ value (sumFloats ps) := by
    rw [hval]
    exact le_roundedSum roundDouble_zero h.values_nonneg
  have hle : value (sumFloats ps) ≤ value (sumFloats ps + p) := by
    calc value (sumFloats ps) = roundDouble (value (sumFloats ps)) := (roundDouble_value _).symm
      _ ≤ roundDouble (value (sumFloats ps) + value p) := roundDouble_mono (by linarith [hp.2.1])
      _ = value (sumFloats ps + p) := (value_add hfin hp.1 hfin').symm
  have hceiling : value (sumFloats ps + p) ≤ value (maxPercentage + ceilingEpsilon) := by
    rw [hval']
    exact hwithin.bounded
  by_cases h100 : 100 < value (sumFloats ps + p)
  · exact isFullyAllocated_of_le_ceiling hfin' h100 hceiling
  · cases hnew : isFullyAllocated (sumFloats ps + p) with
    | true => rfl
    | false =>
      have hold := isFullyAllocated_eq_false_of_le hfin' hfin h0 hle (le_of_not_gt h100) hnew
      rw [hfull] at hold
      cases hold

/-- On a distribution whose state agrees with its rows, the state a removal leaves after a row added
by hand is the state before the addition. The removal reads the state the addition set and the sum
of the rows without the new one. Either the rows were a full allocation, which the row kept, or they
fell short, and the removal demotes whatever the addition set. -/
theorem StateAgrees.state_undone {d : Distribution} {rows : List Detail} (h : StateAgrees d rows)
    {p : Float} (hp : InRange p) {distribution : Int}
    (hcapacity : validateCapacity distribution (totalPercentage rows) p = .ok ()) :
  (if stateFor (totalPercentage rows + p) == .distributed && !isFullyAllocated (totalPercentage rows)
    then State.pending else stateFor (totalPercentage rows + p)) = d.state
  := by
  cases hstate : d.state with
  | distributed =>
    have hfull : isFullyAllocated (totalPercentage rows) = true := h.state_iff.mp hstate
    have hstill : isFullyAllocated (totalPercentage rows + p) = true :=
      h.within.isFullyAllocated_append hp hcapacity hfull
    rw [stateFor, if_pos hstill]
    simp [hfull]
  | pending =>
    have hshort : isFullyAllocated (totalPercentage rows) = false := by
      simpa [hstate] using h.state_iff
    cases stateFor (totalPercentage rows + p) <;> simp [hshort]

/-! ### The books come back -/

/-- Changing a distribution twice is changing it once by both changes. -/
theorem modifyDistribution_modifyDistribution (b : Books) (id : Int) (f g : Distribution → Distribution)
    (hf : ∀ d, (f d).id = d.id) :
  (b.modifyDistribution id f).modifyDistribution id g = b.modifyDistribution id (g ∘ f)
  := by
  simp only [modifyDistribution, List.map_map]
  congr 2
  funext d
  by_cases hid : d.id = some id <;> simp [hid, hf]

section Keyed

variable {b : Books} (hk : b.Keyed)
include hk

/-- The identifier after the last one given names no stored row. -/
theorem Keyed.filter_fresh :
  b.details.filter (·.id != some (b.lastId + 1)) = b.details
  := by
  apply List.filter_eq_self.mpr
  intro r hr
  have hid := hk.row_id r hr
  rw [hid.1]
  simp only [bne_iff_ne, ne_eq, Option.some.injEq]
  omega

/-- Setting the state of the stored distribution of an identifier to the state it has changes
nothing, on any books that hold the same distributions. -/
theorem Keyed.setState_self {d : Distribution} {id : Int} (hd : b.distributionOf id = some d)
    (b' : Books) (hsame : b'.distributions = b.distributions) :
  b'.modifyDistribution id (fun e => { e with state := d.state }) = b'
  := by
  obtain ⟨hdmem, hdid⟩ := hk.distributionOf_eq_some.mp hd
  apply modifyDistribution_eq_self
  intro e he hid
  rw [hsame] at he
  rw [hk.distribution_eq he hdmem (hid.trans hdid.symm)]

/-- A row added by hand is stored, and the distribution's state is set from the new sum,
whether or not it changes. -/
theorem Keyed.addManual_eq (participant : Int) (percentage : Float) {distribution : Int} {d : Distribution}
    (amount : Int) (hd : b.distributionOf distribution = some d) :
  b.addManual distribution participant percentage d amount
    = (b.storeDetail ⟨none, distribution, participant, percentage, amount⟩).2.modifyDistribution
        distribution fun e => { e with state := stateFor (totalPercentage (b.detailsOf distribution) + percentage) }
  := by
  unfold addManual
  dsimp only
  split
  · rfl
  · rename_i hsame
    have he : stateFor (totalPercentage (b.detailsOf distribution) + percentage) = d.state := by
      simpa using hsame
    rw [he]
    exact (hk.setState_self hd (b.storeDetail ⟨none, distribution, participant, percentage, amount⟩).2 rfl).symm

/-- The next identifier finds the row added under it, after all stored rows. -/
theorem Keyed.find?_fresh {r : Detail} (hr : r.id = some (b.lastId + 1)) :
  (b.details ++ [r]).find? (·.id == some (b.lastId + 1)) = some r
  := by
  rw [List.find?_append, List.find?_eq_none.mpr]
  · simp [hr]
  · intro s hs
    have hne := List.mem_filter.mp ((hk.filter_fresh).symm ▸ hs)
    simpa using hne.2

/-- Leaving out the next identifier leaves out the row added under it and no other, among all
rows and among the rows of any distribution. -/
theorem Keyed.filter_fresh_append {r : Detail} (hr : r.id = some (b.lastId + 1)) (distribution : Int) :
  (b.details ++ [r]).filter (·.id != some (b.lastId + 1)) = b.details
    ∧ (b.detailsOf distribution ++ [r]).filter (·.id != some (b.lastId + 1)) = b.detailsOf distribution
  := by
  constructor
  · rw [List.filter_append, hk.filter_fresh]
    simp [hr]
  · rw [List.filter_append, detailsOf, List.filter_filter]
    conv_rhs => rw [← hk.filter_fresh]
    simp [hr, List.filter_filter, Bool.and_comm]

section Added

variable {distribution : Int} (participant : Int) (percentage : Float) {d : Distribution}
  (amount : Int) (hd : b.distributionOf distribution = some d)
include hd

/-- After a row added by hand, removing the next identifier is admitted: it finds the new row,
and its distribution with the state the addition set. -/
theorem Keyed.admitRemove_addManual :
  (b.addManual distribution participant percentage d amount).admitRemove (b.lastId + 1)
    = .ok (b.manualRow distribution participant percentage amount,
        { d with state := stateFor (totalPercentage (b.detailsOf distribution) + percentage) })
  := by
  obtain ⟨hd₁, -, -⟩ := addManual_views participant percentage amount hd
  have hdetails : (b.addManual distribution participant percentage d amount).details
      = b.details ++ [b.manualRow distribution participant percentage amount] := by
    rw [hk.addManual_eq participant percentage amount hd]
    rfl
  unfold admitRemove
  rw [hdetails, hk.find?_fresh rfl]
  dsimp only
  rw [show (b.manualRow distribution participant percentage amount).distribution = distribution from rfl, hd₁]
  rfl

/-- On a distribution whose state agrees with its rows, removing the row added by hand, with the
state the removal computes, gives the books before the addition with the counter after it. Without
the row, the books after the addition are the books before it with the new state, and the removal
writes back the state the addition found. -/
theorem Keyed.removeRow_addManual (hagrees : StateAgrees d (b.detailsOf distribution))
    (hp : InRange percentage)
    (hcapacity : validateCapacity distribution (totalPercentage (b.detailsOf distribution)) percentage = .ok ()) :
  (b.addManual distribution participant percentage d amount).removeRow (b.lastId + 1)
      (b.manualRow distribution participant percentage amount)
      { d with state := stateFor (totalPercentage (b.detailsOf distribution) + percentage) }
    = { b with lastId := (b.addManual distribution participant percentage d amount).lastId }
  := by
  set r := b.manualRow distribution participant percentage amount
  set s₁ := stateFor (totalPercentage (b.detailsOf distribution) + percentage)
  have hb₁ := hk.addManual_eq participant percentage amount hd
  obtain ⟨-, hrows₁, -⟩ := addManual_views participant percentage amount hd
  replace hrows₁ : (b.addManual distribution participant percentage d amount).detailsOf distribution
      = b.detailsOf distribution ++ [r] := hrows₁
  obtain ⟨hkept, hrowsKept⟩ := hk.filter_fresh_append (show r.id = some (b.lastId + 1) from rfl) distribution
  have hdetails : (b.addManual distribution participant percentage d amount).details = b.details ++ [r] := by
    rw [hb₁]
    rfl
  have hlast : (b.addManual distribution participant percentage d amount).lastId = b.lastId + 1 := by
    rw [hb₁]
    rfl
  have hdropped : { (b.addManual distribution participant percentage d amount) with details := b.details }
      = ({ b with lastId := b.lastId + 1 } : Books).modifyDistribution distribution
        fun e => { e with state := s₁ } := by
    rw [hb₁]
    rfl
  rw [hlast, ← hk.setState_self hd { b with lastId := b.lastId + 1 } rfl,
    ← hagrees.state_undone hp hcapacity]
  unfold removeRow
  simp only [show r.distribution = distribution from rfl, hrows₁, hrowsKept, hdetails, hkept, hdropped]
  split
  · exact modifyDistribution_modifyDistribution _ _ _ _ fun _ => rfl
  · rfl

end Added

end Keyed

/-- On reachable books, a row added by hand can be removed at once, and the removal gives it
back and leaves the books as they were before the addition, but for the identifier counter:
every distribution's record and rows, every role and participant are as before. -/
theorem removeDetail_undoes_addManualDetail {b : Books} (hb : Reachable b) {distribution participant : Int}
    {percentage : Float} {actor : Actor} {cause : Cause} {t : Transition Detail} {b₁ : Books}
    (hadd : (addManualDetail distribution participant percentage actor cause : Work (Transition Detail)).run.run b
      = (.ok t, b₁))
    (actor' : Actor) (cause' : Cause) :
  ∃ k, t.value.id = some k ∧ ∃ t', (removeDetail k actor' cause' : Work (Transition Detail)).run.run b₁
      = (.ok t', { b with lastId := b₁.lastId }) ∧ t'.value = t.value
  := by
  have hk := hb.keyed
  obtain ⟨⟨d, amount⟩, hadmit, ⟨action, rfl⟩, rfl⟩ :=
    (follows_addManualDetail b actor cause distribution participant percentage).eq_ok hadd
  obtain ⟨hvalid, hd, -, -, hcapacity, -⟩ := admitManual_eq_ok b hadmit
  have hagrees := stateAgrees_kept.reachable hb distribution d hd
  have hbooks := hk.removeRow_addManual participant percentage amount hd hagrees
    (validatePercentage_eq_ok hvalid) hcapacity
  obtain ⟨t', hrun, ⟨action', rfl⟩⟩ :=
    (follows_removeDetail (b.addManual distribution participant percentage d amount) actor' cause'
      (b.lastId + 1)).of_admitted (hk.admitRemove_addManual participant percentage amount hd)
  exact ⟨b.lastId + 1, rfl, _, hrun.trans (congrArg _ hbooks), rfl⟩

/-- A second participant registered after the sample run. -/
def sampleRunRegistered : Books :=
  (sampleRun.addParticipant "Bob" 30000.0 none true).2

set_option maxRecDepth 20000 in
/-- On the sample run with a second participant, the remaining 60% given by hand to the new
participant makes the distribution distributed, and removing that row undoes it. -/
theorem removeDetail_undoes_addManualDetail_sampleRun :
  Reachable sampleRunRegistered
    ∧ ∃ t b₁, (addManualDetail 1 4 60.0 ⟨"admin", "user"⟩ ⟨"r3", "allocate the rest"⟩
          : Work (Transition Detail)).run.run sampleRunRegistered = (.ok t, b₁)
      ∧ ∃ k, t.value.id = some k ∧ ∃ t', (removeDetail k ⟨"admin", "user"⟩ ⟨"r4", "undo"⟩
          : Work (Transition Detail)).run.run b₁
          = (.ok t', { sampleRunRegistered with lastId := b₁.lastId }) ∧ t'.value = t.value
  := by
  have hreach : Reachable sampleRunRegistered :=
    .tail reachable_sampleRun (Step.addParticipant _ _ _ _ _)
  obtain ⟨a, ha⟩ := Option.isSome_iff_exists.mp
    (show (sampleRunRegistered.admitManual 1 4 60.0).toOption.isSome = true by decide +kernel)
  obtain ⟨t, hrun, -⟩ := (follows_addManualDetail sampleRunRegistered ⟨"admin", "user"⟩
    ⟨"r3", "allocate the rest"⟩ 1 4 60.0).of_admitted (eq_ok_of_toOption ha)
  exact ⟨hreach, t, _, hrun, removeDetail_undoes_addManualDetail hreach hrun _ _⟩

end Payout.Lifecycle.Books
