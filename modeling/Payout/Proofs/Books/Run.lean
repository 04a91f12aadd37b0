import Payout.Proofs.Books.Effects
import Mathlib.Logic.Relation

/-!
# Runs of the lifecycle

A run starts from empty books. Each step either serves one call of a lifecycle operation in a
transaction, which keeps the call's writes when it succeeds and drops them when it fails, or
does bookkeeping of roles and participants, which leaves every distribution and row as it is
and takes identifiers from the same counter.

Along every run the books stay keyed (`Reachable.keyed`), and a property of every
distribution with its rows holds as soon as each operation, admitted, keeps it for the
distribution it targets (`Kept.reachable`): the run lemma is proved once, and each invariant
only supplies its five step obligations.
-/

namespace Payout.Lifecycle

/-- A call of one of the five lifecycle operations, without who makes it and why. -/
inductive Request where
  | create (period : String) (date : Calendar.Date) (totalProfit : Int)
  | addManual (distribution participant : Int) (percentage : Float)
  | allocate (distribution : Int)
  | remove (detail : Int)
  | retotal (distribution total : Int)

namespace Request

variable {m : Type → Type} [Monad m] [DistributionStore m]

/-- The work of a call made by `actor` for `cause`, its result set aside. -/
def work (actor : Actor) (cause : Cause) : Request → LifeM m Unit
  | create period date totalProfit =>
    createDistribution period date totalProfit actor cause >>= fun _ => pure ()
  | addManual distribution participant percentage =>
    addManualDetail distribution participant percentage actor cause >>= fun _ => pure ()
  | allocate distribution => runAutomaticAllocation distribution actor cause >>= fun _ => pure ()
  | remove detail => removeDetail detail actor cause >>= fun _ => pure ()
  | retotal distribution total => updateTotalProfit distribution total actor cause >>= fun _ => pure ()

end Request

namespace Books

/-- The books after a call is served in a transaction. -/
def serve (b : Books) (req : Request) (actor : Actor) (cause : Cause) : Books :=
  commit (req.work actor cause) b

theorem commit_bind_pure {α : Type} (w : Work α) (b : Books) :
  commit (w >>= fun _ => pure () : Work Unit) b = commit w b
  := by
  rw [commit, commit, run_bind]
  rcases w.run.run b with ⟨_ | _, _⟩ <;> rfl

/-! ### Serving each kind of call -/

section Serve

variable (b : Books) (actor : Actor) (cause : Cause)

theorem serve_create (period : String) (date : Calendar.Date) (totalProfit : Int) :
  b.serve (.create period date totalProfit) actor cause
    = commit (createDistribution period date totalProfit actor cause) b
  := commit_bind_pure _ _

theorem serve_addManual (distribution participant : Int) (percentage : Float) :
  b.serve (.addManual distribution participant percentage) actor cause
    = commit (addManualDetail distribution participant percentage actor cause) b
  := commit_bind_pure _ _

theorem serve_allocate (distribution : Int) :
  b.serve (.allocate distribution) actor cause = commit (runAutomaticAllocation distribution actor cause) b
  := commit_bind_pure _ _

theorem serve_remove (id : Int) :
  b.serve (.remove id) actor cause = commit (removeDetail id actor cause) b
  := commit_bind_pure _ _

theorem serve_retotal (distribution total : Int) :
  b.serve (.retotal distribution total) actor cause
    = commit (updateTotalProfit distribution total actor cause) b
  := commit_bind_pure _ _

end Serve

theorem allocationRows_distribution {distribution : Int} {allocations : List Allocation} :
  ∀ r ∈ allocationRows distribution allocations, r.distribution = distribution
  := by
  intro r hr
  obtain ⟨a, _, rfl⟩ := List.mem_map.mp hr
  rfl

/-- Serving a call keeps identifiers as the store hands them out. -/
theorem Keyed.serve {b : Books} (hk : b.Keyed) (req : Request) (actor : Actor) (cause : Cause) :
  (b.serve req actor cause).Keyed
  := by
  cases req with
  | create period date totalProfit =>
    rw [serve_create, commit_createDistribution]
    split
    · exact hk
    · exact hk.addDistribution _
  | addManual distribution participant percentage =>
    rw [serve_addManual, commit_addManualDetail]
    split
    · exact hk
    · rename_i d amount h
      obtain ⟨-, hd, -⟩ := admitManual_eq_ok b h
      have hstored := hk.storeDetail ⟨none, distribution, participant, percentage, amount⟩
        ⟨d, (hk.distributionOf_eq_some.mp hd).1, (hk.distributionOf_eq_some.mp hd).2⟩
      unfold addManual
      dsimp only
      split
      · exact hstored.modifyDistribution _ _ fun _ => rfl
      · exact hstored
  | allocate distribution =>
    rw [serve_allocate, commit_runAutomaticAllocation]
    split
    · exact hk
    · rename_i d allocations h
      obtain ⟨hd, -⟩ := admitAutomatic_eq_ok b h
      have howner := hk.distributionOf_eq_some.mp hd
      have hstored := (hk.filterDetails (·.distribution != distribution)).storeDetails
        (allocationRows distribution allocations) fun r hr =>
          ⟨d, howner.1, howner.2.trans (congrArg some (allocationRows_distribution r hr).symm)⟩
      exact hstored.modifyDistribution _ _ fun _ => rfl
  | remove id =>
    rw [serve_remove, commit_removeDetail]
    split
    · exact hk
    · rename_i r d h
      unfold removeRow
      dsimp only
      split
      · exact (hk.filterDetails _).modifyDistribution _ _ fun _ => rfl
      · exact hk.filterDetails _
  | retotal distribution total =>
    rw [serve_retotal, commit_updateTotalProfit]
    split
    · exact hk
    · unfold retotal
      apply Keyed.setAmounts
      exact hk.modifyDistribution _ _ fun _ => rfl

/-! ### Runs -/

/-- One step of the books. -/
inductive Step : Books → Books → Prop where
  /-- A call served in a transaction. -/
  | serve (b : Books) (req : Request) (actor : Actor) (cause : Cause) : Step b (b.serve req actor cause)
  /-- Bookkeeping of roles and participants: no distribution or row changes, and identifiers
  come from the same counter. -/
  | bookkeeping {b b' : Books} (hdistributions : b'.distributions = b.distributions)
      (hdetails : b'.details = b.details) (hlast : b.lastId ≤ b'.lastId) : Step b b'

theorem Step.addRole (b : Books) (name : String) (importance : Float) :
  Step b (b.addRole name importance).2
  := .bookkeeping rfl rfl (show b.lastId ≤ b.lastId + 1 by omega)

theorem Step.addParticipant (b : Books) (name : String) (investment : Float) (role : Option Int)
    (active : Bool) :
  Step b (b.addParticipant name investment role active).2
  := .bookkeeping rfl rfl (show b.lastId ≤ b.lastId + 1 by omega)

theorem Step.setInvestment (b : Books) (participant : Int) (investment : Float) :
  Step b (b.setInvestment participant investment)
  := .bookkeeping rfl rfl (Int.le_refl _)

/-- The books some run from empty books reaches. -/
def Reachable (b : Books) : Prop :=
  Relation.ReflTransGen Step empty b

/-- A short run: a distribution opened, a participant registered, and a row given to it by
hand. -/
def sampleRun : Books :=
  let admin : Actor := ⟨"admin", "user"⟩
  let opened := empty.serve (.create "2026-Q1" ⟨2026, 3, 31⟩ 120000) admin ⟨"r1", "open the quarter"⟩
  let registered := (opened.addParticipant "Alice" 50000.0 none true).2
  registered.serve (.addManual 1 2 40.0) admin ⟨"r2", "allocate by hand"⟩

theorem reachable_sampleRun :
  Reachable sampleRun
  := .tail (.tail (.single (.serve _ _ _ _)) (.addParticipant _ _ _ _ _)) (.serve _ _ _ _)

theorem Keyed.step {b b' : Books} (hk : b.Keyed) (h : Step b b') :
  b'.Keyed
  := by
  cases h with
  | serve req actor cause => exact hk.serve req actor cause
  | bookkeeping hdistributions hdetails hlast =>
    refine ⟨fun r hr => ?_, ?_, fun d hd => ?_, ?_, fun r hr => ?_⟩
    · rw [hdetails] at hr
      exact ⟨(hk.row_id r hr).1, Int.le_trans (hk.row_id r hr).2 hlast⟩
    · rw [hdetails]
      exact hk.row_order
    · rw [hdistributions] at hd
      exact ⟨(hk.distribution_id d hd).1, Int.le_trans (hk.distribution_id d hd).2 hlast⟩
    · rw [hdistributions]
      exact hk.distribution_order
    · rw [hdetails] at hr
      rw [hdistributions]
      exact hk.owner r hr

/-- Every reachable state keeps identifiers as the store hands them out. -/
theorem Reachable.keyed {b : Books} (h : Reachable b) :
  b.Keyed
  := by
  induction h with
  | refl => exact keyed_empty
  | tail _ hstep ih => exact ih.step hstep

/-! ### Invariants of every distribution -/

/-- What each operation, admitted on keyed books, must do for a property of a distribution
with its rows to hold of its target afterwards, given that it held before. -/
structure Kept (P : Distribution → List Detail → Prop) : Prop where
  create : ∀ (b : Books) period date totalProfit, admitCreate period totalProfit = .ok () →
    P { Distribution.create period date totalProfit with id := some (b.lastId + 1) } []
  addManual : ∀ (b : Books), b.Keyed → ∀ distribution participant percentage d amount,
    b.admitManual distribution participant percentage = .ok (d, amount) →
    P d (b.detailsOf distribution) →
    P { d with state := stateFor (totalPercentage (b.detailsOf distribution) + percentage) }
      (b.detailsOf distribution ++ [⟨some (b.lastId + 1), distribution, participant, percentage, amount⟩])
  allocate : ∀ (b : Books), b.Keyed → ∀ distribution d allocations,
    b.admitAutomatic distribution = .ok (d, allocations) →
    P d (b.detailsOf distribution) →
    P { d with state := stateFor (totalPercentage (allocationRows distribution allocations)) }
      (numberFrom (b.lastId + 1) (allocationRows distribution allocations))
  remove : ∀ (b : Books), b.Keyed → ∀ id r d, b.admitRemove id = .ok (r, d) →
    P d (b.detailsOf r.distribution) →
    P (if d.state == .distributed
          && !isFullyAllocated (totalPercentage ((b.detailsOf r.distribution).filter (·.id != some id)))
        then { d with state := .pending } else d)
      ((b.detailsOf r.distribution).filter (·.id != some id))
  retotal : ∀ (b : Books), b.Keyed → ∀ distribution total d amounts,
    b.admitRetotal distribution total = .ok (d, amounts) →
    P d (b.detailsOf distribution) →
    P { d with totalProfit := total }
      (List.zipWith (fun r a => { r with amount := a }) (b.detailsOf distribution) amounts)

section Kept

variable {P : Distribution → List Detail → Prop} (hP : Kept P)
include hP

/-- The step lemma: serving a call keeps a kept property of every distribution. -/
theorem Kept.serve {b : Books} (hk : b.Keyed) (h : Everywhere P b) (req : Request) (actor : Actor)
    (cause : Cause) :
  Everywhere P (b.serve req actor cause)
  := by
  cases req with
  | create period date totalProfit =>
    rw [serve_create, commit_createDistribution]
    split
    · exact h
    · rename_i hadmit
      obtain ⟨hd, hrows, hframe⟩ := hk.addDistribution_views (Distribution.create period date totalProfit)
      refine h.of_frame hframe fun d' hd' => ?_
      rw [hd] at hd'
      cases hd'
      rw [hrows]
      exact hP.create b period date totalProfit hadmit
  | addManual distribution participant percentage =>
    rw [serve_addManual, commit_addManualDetail]
    split
    · exact h
    · rename_i d amount hadmit
      obtain ⟨-, hd, -⟩ := admitManual_eq_ok b hadmit
      obtain ⟨hd', hrows, hframe⟩ := addManual_views participant percentage amount hd
      refine h.of_frame hframe fun d' hd'' => ?_
      rw [hd'] at hd''
      cases hd''
      rw [hrows]
      exact hP.addManual b hk distribution participant percentage d amount hadmit (h distribution d hd)
  | allocate distribution =>
    rw [serve_allocate, commit_runAutomaticAllocation]
    split
    · exact h
    · rename_i d allocations hadmit
      obtain ⟨hd, -⟩ := admitAutomatic_eq_ok b hadmit
      obtain ⟨hd', hrows, hframe⟩ := replaceRows_views hd allocationRows_distribution
      refine h.of_frame hframe fun d' hd'' => ?_
      rw [hd'] at hd''
      cases hd''
      rw [hrows]
      exact hP.allocate b hk distribution d allocations hadmit (h distribution d hd)
  | remove id =>
    rw [serve_remove, commit_removeDetail]
    split
    · exact h
    · rename_i r d hadmit
      obtain ⟨hr, hd⟩ := admitRemove_eq_ok b hadmit
      obtain ⟨hd', hrows, hframe⟩ := hk.removeRow_views hr hd
      refine h.of_frame hframe fun d' hd'' => ?_
      rw [hd'] at hd''
      cases hd''
      rw [hrows]
      exact hP.remove b hk id r d hadmit (h r.distribution d hd)
  | retotal distribution total =>
    rw [serve_retotal, commit_updateTotalProfit]
    split
    · exact h
    · rename_i d amounts hadmit
      obtain ⟨-, hd, hamounts⟩ := admitRetotal_eq_ok b hadmit
      obtain ⟨hd', hrows, hframe⟩ := hk.retotal_views total hd hamounts.length_eq.symm
      refine h.of_frame hframe fun d' hd'' => ?_
      rw [hd'] at hd''
      cases hd''
      rw [hrows]
      exact hP.retotal b hk distribution total d amounts hadmit (h distribution d hd)

/-- The run lemma: a kept property holds of every distribution of every reachable state. -/
theorem Kept.reachable {b : Books} (hb : Reachable b) :
  Everywhere P b
  := by
  induction hb with
  | refl =>
    intro id d hd
    cases hd
  | tail hreach hstep ih =>
    cases hstep with
    | serve req actor cause => exact hP.serve (Reachable.keyed hreach) ih req actor cause
    | bookkeeping hdistributions hdetails _ =>
      intro id d hd
      simp only [distributionOf, detailsOf, hdistributions, hdetails] at hd ⊢
      exact ih id d hd

end Kept

end Books

end Payout.Lifecycle
