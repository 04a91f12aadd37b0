import Payout.Proofs.Books.Outcomes

/-!
# An automatic allocation replaces a distribution's rows

An automatic allocation throws away every row a distribution had, by hand or from an earlier
allocation, and stores the allocation computed from the distribution's total profit and every
participant's standing, in its order (`automatic_allocation_replaces_rows`). The distribution
takes the state that the new rows' sum gives it. Nothing of its earlier rows or state enters
the result, so running the allocation again at once is admitted with the same allocation, and
stores the same participants, percentages and amounts under new identifiers, leaving the
distribution as it was.
-/

namespace Payout

/-- What a stored row gives its participant: the participant, the percentage and the amount. -/
def Detail.entry (r : Detail) : Int × Float × Int := (r.participant, r.percentage, r.amount)

/-- What an allocation gives its participant: the participant, the percentage and the amount. -/
def Allocation.entry (a : Allocation) : Int × Float × Int := (a.participant, a.percentage, a.amount)

namespace Lifecycle.Books

/-! ### Rows written by an allocation -/

theorem entries_allocationRows (distribution : Int) (allocations : List Allocation) :
  (allocationRows distribution allocations).map Detail.entry = allocations.map Allocation.entry
  := by
  rw [allocationRows, List.map_map]
  rfl

theorem entries_numberFrom (start : Int) (rows : List Detail) :
  (numberFrom start rows).map Detail.entry = rows.map Detail.entry
  := numberFrom_map Detail.entry (fun _ _ => rfl) start rows

/-- Replacing rows leaves every participant's standing. -/
theorem standings_replaceRows (b : Books) (distribution : Int) (rows : List Detail) :
  (b.replaceRows distribution rows).participants.map (b.replaceRows distribution rows).standingOf
    = b.participants.map b.standingOf
  := by
  rw [replaceRows, storeDetails_eq]
  rfl

/-- After an admitted allocation, allocating the same distribution again is admitted with the
same allocation: the total profit and the standings it reads are the ones it read before. -/
theorem admitAutomatic_replaceRows {b : Books} {distribution : Int} {d : Distribution}
    {allocations : List Allocation} (hadmitted : b.admitAutomatic distribution = .ok (d, allocations)) :
  (b.replaceRows distribution (allocationRows distribution allocations)).admitAutomatic distribution
    = .ok ({ d with state := stateFor (totalPercentage (allocationRows distribution allocations)) }, allocations)
  := by
  obtain ⟨hd, hpos, hcompute⟩ := admitAutomatic_eq_ok b hadmitted
  obtain ⟨hd', -, -⟩ := replaceRows_views hd allocationRows_distribution
  unfold admitAutomatic
  rw [hd', standings_replaceRows]
  dsimp only
  rw [if_neg (by omega), hcompute]
  rfl

/-- An admitted allocation runs, and leaves the books with the distribution's rows replaced. -/
theorem runAutomaticAllocation_of_admitted {b : Books} {distribution : Int} {d : Distribution}
    {allocations : List Allocation} (hadmitted : b.admitAutomatic distribution = .ok (d, allocations))
    (actor : Actor) (cause : Cause) :
  ∃ t, (runAutomaticAllocation distribution actor cause : Work _).run.run b
    = (.ok t, b.replaceRows distribution (allocationRows distribution allocations))
  := by
  obtain ⟨t, hrun, -⟩ := (follows_runAutomaticAllocation b actor cause distribution).of_admitted hadmitted
  exact ⟨t, hrun⟩

/-- An admitted allocation from keyed books leaves keyed books. -/
theorem Keyed.replaceRows {b : Books} (hk : b.Keyed) {distribution : Int} {d : Distribution}
    {allocations : List Allocation} (hadmitted : b.admitAutomatic distribution = .ok (d, allocations)) :
  (b.replaceRows distribution (allocationRows distribution allocations)).Keyed
  := by
  have hserve := hk.serve (.allocate distribution) ⟨"", ""⟩ ⟨"", ""⟩
  rwa [serve_allocate, commit_runAutomaticAllocation, hadmitted] at hserve

/-! ### The replacement -/

/-- On reachable books, an automatic allocation that succeeds leaves the distribution with exactly
the rows of the allocation computed from its total profit and every participant's standing, in order
and in increasing identifier order, whatever rows and state it had; the distribution keeps its
record but for its state, which is that of the new rows' sum. Running it again at once succeeds,
stores the same participants, percentages and amounts under identifiers no row had before, and
leaves the distribution as it was. The second run is admitted with the same allocation, so it writes
the same rows again, numbered past the last identifier, which bounds every stored row. -/
theorem automatic_allocation_replaces_rows {b b' : Books} (hb : Reachable b) {distribution : Int}
    {actor : Actor} {cause : Cause} {t : Transition (List Detail)}
    (h : (runAutomaticAllocation distribution actor cause : Work _).run.run b = (.ok t, b')) :
  ∃ d allocations, b.distributionOf distribution = some d
    ∧ computeAllocations d.totalProfit (b.participants.map b.standingOf) = .ok allocations
    ∧ (b'.detailsOf distribution).map Detail.entry = allocations.map Allocation.entry
    ∧ (b'.detailsOf distribution).Pairwise (fun r s => rowKey r < rowKey s)
    ∧ b'.distributionOf distribution
      = some { d with state := stateFor (totalPercentage (b'.detailsOf distribution)) }
    ∧ ∀ actor' cause', ∃ t' b'',
        (runAutomaticAllocation distribution actor' cause' : Work _).run.run b' = (.ok t', b'')
        ∧ (b''.detailsOf distribution).map Detail.entry = (b'.detailsOf distribution).map Detail.entry
        ∧ b''.distributionOf distribution = b'.distributionOf distribution
        ∧ ∀ r ∈ b''.detailsOf distribution, ∀ s ∈ b'.details, s.id ≠ r.id
  := by
  obtain ⟨⟨d, allocations⟩, hadmitted, -, rfl⟩ := (follows_runAutomaticAllocation b actor cause distribution).eq_ok h
  obtain ⟨hd, -, hcompute⟩ := admitAutomatic_eq_ok b hadmitted
  obtain ⟨hd', hrows, -⟩ := replaceRows_views hd allocationRows_distribution
  have hk' := hb.keyed.replaceRows hadmitted
  refine ⟨d, allocations, hd, hcompute, ?_, ?_, ?_, fun actor' cause' => ?_⟩
  · rw [hrows, entries_numberFrom, entries_allocationRows]
  · rw [hrows]
    exact numberFrom_order _ _
  · rw [hd', hrows, totalPercentage_numberFrom]
  obtain ⟨t', hrun⟩ := runAutomaticAllocation_of_admitted (admitAutomatic_replaceRows hadmitted) actor' cause'
  obtain ⟨hd'', hrows', -⟩ := replaceRows_views hd' allocationRows_distribution
  refine ⟨t', _, hrun, ?_, ?_, fun r hr s hs => ?_⟩
  · rw [hrows', hrows, entries_numberFrom, entries_numberFrom]
  · rw [hd'', hd']
  · rw [hrows'] at hr
    obtain ⟨_, -, hr', hlo, -⟩ := mem_numberFrom hr
    obtain ⟨hsid, hsle⟩ := hk'.row_id s hs
    have hrid : r.id = some (rowKey r) := congrArg Detail.id hr'
    rw [hsid, hrid, ne_eq, Option.some.injEq]
    omega

/-- Allocating the sample run's distribution succeeds, and replaces the row given by hand. -/
theorem automatic_allocation_replaces_rows_sampleRun :
  Reachable sampleRun ∧ ∃ t b',
    (runAutomaticAllocation 1 ⟨"admin", "user"⟩ ⟨"r3", "allocate"⟩ : Work _).run.run sampleRun = (.ok t, b')
    ∧ ∃ d allocations, sampleRun.distributionOf 1 = some d
      ∧ computeAllocations d.totalProfit (sampleRun.participants.map sampleRun.standingOf) = .ok allocations
      ∧ (b'.detailsOf 1).map Detail.entry = allocations.map Allocation.entry
      ∧ (b'.detailsOf 1).Pairwise (fun r s => rowKey r < rowKey s)
      ∧ b'.distributionOf 1 = some { d with state := stateFor (totalPercentage (b'.detailsOf 1)) }
      ∧ ∀ actor' cause', ∃ t' b'',
          (runAutomaticAllocation 1 actor' cause' : Work _).run.run b' = (.ok t', b'')
          ∧ (b''.detailsOf 1).map Detail.entry = (b'.detailsOf 1).map Detail.entry
          ∧ b''.distributionOf 1 = b'.distributionOf 1
          ∧ ∀ r ∈ b''.detailsOf 1, ∀ s ∈ b'.details, s.id ≠ r.id
  := by
  obtain ⟨⟨d, allocations⟩, hadmitted⟩ := Option.isSome_iff_exists.mp
    (show (sampleRun.admitAutomatic 1).toOption.isSome = true by decide +kernel)
  obtain ⟨t, hrun⟩ := runAutomaticAllocation_of_admitted (eq_ok_of_toOption hadmitted) ⟨"admin", "user"⟩ ⟨"r3", "allocate"⟩
  exact ⟨reachable_sampleRun, t, _, hrun, automatic_allocation_replaces_rows reachable_sampleRun hrun⟩

end Lifecycle.Books

end Payout
