import Payout.Proofs.Books.Outcomes

/-!
# Every call stays inside its distribution

A call of a lifecycle operation works on one distribution: the one it opens, the one it names,
or, for a removal, the one that owns the row. Whatever it does to that distribution, and
whether it succeeds or is refused, it leaves every other distribution's record and rows, and
every role and participant, as they were (`call_confined_to_target`).

Three writes are keyed by distribution, and stay inside it by construction. Two are keyed by
row identifier (removing a row, writing amounts), and stay inside the distribution because no
two stored rows share an identifier (`RowIdsUnique`), as the table's primary key guarantees;
nothing more about the store is assumed.
-/

namespace Payout.Lifecycle

/-- The distribution a call works on: the one it opens, under the next identifier; the owner
of the row it removes, when that row is stored; the one it names otherwise. -/
def Request.target (b : Books) : Request → Option Int
  | .create .. => some (b.lastId + 1)
  | .addManual distribution .. => some distribution
  | .allocate distribution => some distribution
  | .remove detail => (b.details.find? (·.id == some detail)).map (·.distribution)
  | .retotal distribution _ => some distribution

namespace Books

/-- A change confined to distribution `id` leaves what another identifier names, and its
rows. -/
theorem Frame.views {id j : Int} {b b' : Books} (hf : Frame id b b') (hj : j ≠ id) :
  b'.distributionOf j = b.distributionOf j ∧ b'.detailsOf j = b.detailsOf j
  := ⟨hf.distributionOf_ne j hj, hf.detailsOf_ne j hj⟩

/-- Serving a call leaves every distribution other than its target, with its rows. The target is the
owner of the row the admission found. -/
theorem RowIdsUnique.serve_views {b : Books} (hu : b.RowIdsUnique) (req : Request) (actor : Actor)
    (cause : Cause) {j : Int} (hj : req.target b ≠ some j) :
  (b.serve req actor cause).distributionOf j = b.distributionOf j
    ∧ (b.serve req actor cause).detailsOf j = b.detailsOf j
  := by
  cases req with
  | create period date totalProfit =>
    rw [serve_create, commit_createDistribution]
    split
    · exact ⟨rfl, rfl⟩
    · exact (frame_addDistribution b _).views fun h => hj (by rw [h]; rfl)
  | addManual distribution participant percentage =>
    rw [serve_addManual, commit_addManualDetail]
    split
    · exact ⟨rfl, rfl⟩
    · rename_i d amount hadmit
      obtain ⟨-, hd, -⟩ := admitManual_eq_ok b hadmit
      exact (addManual_views participant percentage amount hd).2.2.views fun h => hj (by rw [h]; rfl)
  | allocate distribution =>
    rw [serve_allocate, commit_runAutomaticAllocation]
    split
    · exact ⟨rfl, rfl⟩
    · rename_i d allocations hadmit
      obtain ⟨hd, -⟩ := admitAutomatic_eq_ok b hadmit
      exact (replaceRows_views hd allocationRows_distribution).2.2.views fun h => hj (by rw [h]; rfl)
  | remove id =>
    rw [serve_remove, commit_removeDetail]
    split
    · exact ⟨rfl, rfl⟩
    · rename_i r d hadmit
      obtain ⟨hr, -⟩ := admitRemove_eq_ok b hadmit
      have htarget : (Request.remove id).target b = some r.distribution := by
        simp only [Request.target, hr, Option.map_some]
      exact (frame_removeRow hu hr d).views fun h => hj (by rw [htarget, h])
  | retotal distribution total =>
    rw [serve_retotal, commit_updateTotalProfit]
    split
    · exact ⟨rfl, rfl⟩
    · rename_i d amounts hadmit
      exact (frame_retotal hu distribution total amounts).views fun h => hj (by rw [h]; rfl)

/-- On books whose rows have distinct identifiers, a call, whether it succeeds or is refused,
leaves every distribution other than its target with its record and rows, and every role and
participant, as they were. -/
theorem call_confined_to_target {b : Books} (hu : b.RowIdsUnique) (req : Request) (actor : Actor)
    (cause : Cause) :
  (∀ j, req.target b ≠ some j →
      ((req.work actor cause : Work Unit).run.run b).2.distributionOf j = b.distributionOf j
        ∧ ((req.work actor cause : Work Unit).run.run b).2.detailsOf j = b.detailsOf j)
    ∧ ((req.work actor cause : Work Unit).run.run b).2.participants = b.participants
    ∧ ((req.work actor cause : Work Unit).run.run b).2.roles = b.roles
  := by
  rw [run_work_state]
  obtain ⟨ds, rows, n, hserve⟩ := serve_eq_with b actor cause req
  refine ⟨fun j hj => hu.serve_views req actor cause hj, ?_, ?_⟩
  · rw [hserve]
  · rw [hserve]

/-- Removing the row given by hand in the sample run keeps every other distribution, role
and participant. -/
theorem call_confined_to_target_sampleRun :
  sampleRun.RowIdsUnique
    ∧ (∀ j, (Request.remove 3).target sampleRun ≠ some j →
        (((Request.remove 3).work ⟨"admin", "user"⟩ ⟨"r3", "undo"⟩ : Work Unit).run.run sampleRun).2.distributionOf j
            = sampleRun.distributionOf j
          ∧ (((Request.remove 3).work ⟨"admin", "user"⟩ ⟨"r3", "undo"⟩ : Work Unit).run.run sampleRun).2.detailsOf j
            = sampleRun.detailsOf j)
    ∧ (((Request.remove 3).work ⟨"admin", "user"⟩ ⟨"r3", "undo"⟩ : Work Unit).run.run sampleRun).2.participants
      = sampleRun.participants
    ∧ (((Request.remove 3).work ⟨"admin", "user"⟩ ⟨"r3", "undo"⟩ : Work Unit).run.run sampleRun).2.roles
      = sampleRun.roles
  := ⟨reachable_sampleRun.keyed.rowIdsUnique,
      call_confined_to_target reachable_sampleRun.keyed.rowIdsUnique _ _ _⟩

end Books

end Payout.Lifecycle
