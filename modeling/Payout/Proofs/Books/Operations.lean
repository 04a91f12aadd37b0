import Payout.Proofs.Books.Basic
import Payout.Proofs.Except

/-!
# The five lifecycle operations on the books

Each operation reads the books, checks its rules, and only then writes. On the books this
splits every operation into two named parts:

* the *admission*, a function of the books into `Except DomainError`, which gives the first
  rule the request breaks, or what the writes need (the distribution, the new amounts, the
  allocation);
* the *writes*, a function of the books and of what the admission gave.

`commit_*` states that the operation, run in a transaction, is the admission followed by the
writes: a refused request leaves the books as they were. `admit*_eq_ok` states what an
admission that succeeds has checked. Later statements read the operations only through these
equations.
-/

namespace Payout.Lifecycle

open DistributionStore

/-- Recomputing a value for each element under a rule runs the rule over the whole list
first: the work fails with the first broken rule, or gives the values element by element. -/
theorem run_mapM_rule {α β γ : Type} (f : α → Except DomainError γ) (g : α → γ → β)
    (xs : List α) (b : Books) :
  (xs.mapM (fun x => do let c ← rule (f x); pure (g x c)) : Work (List β)).run.run b
    = match xs.mapM f with
      | .ok cs => (.ok (List.zipWith g xs cs), b)
      | .error e => (.error (.violation e), b)
  := by
  induction xs with
  | nil => rfl
  | cons x xs ih =>
    simp only [List.mapM_cons, bind_assoc, run_rule_bind]
    cases f x with
    | error e => rfl
    | ok c =>
      simp only [run_pure_bind, ok_bind]
      rw [run_bind, ih]
      cases xs.mapM f with
      | error e => rfl
      | ok cs => rfl

namespace Books

variable (b : Books)

/-! ### Opening a distribution -/

/-- What opening a distribution checks: the period label, then the total profit. -/
def admitCreate (period : String) (totalProfit : Int) : Except DomainError Unit := do
  validatePeriod period
  validateTotalProfit totalProfit

/-- The books with a distribution stored under the next identifier. -/
def addDistribution (d : Distribution) : Books :=
  { b with lastId := b.lastId + 1, distributions := b.distributions ++ [{ d with id := some (b.lastId + 1) }] }

theorem commit_createDistribution (period : String) (date : Calendar.Date) (totalProfit : Int)
    (actor : Actor) (cause : Cause) :
  commit (createDistribution period date totalProfit actor cause) b
    = match admitCreate period totalProfit with
      | .error _ => b
      | .ok () => b.addDistribution (Distribution.create period date totalProfit)
  := by
  simp only [commit, createDistribution, admitCreate, insertDistribution_books, run_rule_bind,
    run_store_bind, run_pure]
  cases validatePeriod period with
  | error e => rfl
  | ok u =>
    cases validateTotalProfit totalProfit with
    | error e => rfl
    | ok u => rfl

theorem admitCreate_eq_ok {period : String} {totalProfit : Int}
    (h : admitCreate period totalProfit = .ok ()) :
  validatePeriod period = .ok () ∧ validateTotalProfit totalProfit = .ok ()
  := by
  obtain ⟨⟨⟩, hp, ht⟩ := bind_eq_ok.mp h
  exact ⟨hp, ht⟩

/-! ### Adding a row by hand -/

/-- What adding a row by hand checks, in the order it checks it: the percentage, that the
distribution and the participant exist, that the participant holds no row yet, the room
left under 100%, and the amount. It gives the distribution and the amount. -/
def admitManual (distribution participant : Int) (percentage : Float) :
    Except DomainError (Distribution × Int) := do
  validatePercentage percentage
  let some d := b.distributionOf distribution | throw (.distributionNotFound distribution)
  if (b.participants.find? (·.id == some participant)).isNone then
    throw (.participantNotFound participant)
  validateUnallocated distribution participant (b.detailsOf distribution)
  validateCapacity distribution (totalPercentage (b.detailsOf distribution)) percentage
  let amount ← computeAmount d.totalProfit percentage
  pure (d, amount)

/-- The books with the new row stored, and the distribution's state set from the sum the
rows now reach when it changes. -/
def addManual (distribution participant : Int) (percentage : Float) (d : Distribution)
    (amount : Int) : Books :=
  let b' := (b.storeDetail ⟨none, distribution, participant, percentage, amount⟩).2
  let state := stateFor (totalPercentage (b.detailsOf distribution) + percentage)
  if state != d.state then b'.modifyDistribution distribution fun d => { d with state := state }
  else b'

theorem commit_addManualDetail (distribution participant : Int) (percentage : Float)
    (actor : Actor) (cause : Cause) :
  commit (addManualDetail distribution participant percentage actor cause) b
    = match b.admitManual distribution participant percentage with
      | .error _ => b
      | .ok (d, amount) => b.addManual distribution participant percentage d amount
  := by
  simp only [commit, addManualDetail, summaryOf, loadDistribution, admitManual, addManual,
    bind_assoc, getDistribution_books, listDetails_books, getParticipant_books, insertDetail_books,
    updateState_books, run_store_bind, run_rule_bind]
  cases validatePercentage percentage with
  | error e => rfl
  | ok u =>
    simp only [distributionOf]
    cases b.distributions.find? (·.id == some distribution) with
    | none => rfl
    | some d =>
      simp only [run_pure_bind, run_store_bind, run_ite, run_throw_bind, run_rule_bind]
      cases (b.participants.find? (·.id == some participant)).isNone with
      | true => rfl
      | false =>
        simp only [Summary.allocatedPercentage, Bool.false_eq_true, if_false]
        cases validateUnallocated distribution participant (b.detailsOf distribution) with
        | error e => rfl
        | ok u =>
          cases validateCapacity distribution (totalPercentage (b.detailsOf distribution)) percentage with
          | error e => rfl
          | ok u =>
            cases computeAmount d.totalProfit percentage with
            | error e => rfl
            | ok amount =>
              simp only [run_pure, ok_bind, pure_except]
              by_cases hs : (stateFor (totalPercentage (b.detailsOf distribution) + percentage) != d.state) = true
              · simp only [hs, if_true]
              · simp only [hs, if_false, Bool.false_eq_true]

theorem admitManual_eq_ok {distribution participant : Int} {percentage : Float} {d : Distribution}
    {amount : Int} (h : b.admitManual distribution participant percentage = .ok (d, amount)) :
  validatePercentage percentage = .ok ()
    ∧ b.distributionOf distribution = some d
    ∧ (∃ p ∈ b.participants, p.id = some participant)
    ∧ validateUnallocated distribution participant (b.detailsOf distribution) = .ok ()
    ∧ validateCapacity distribution (totalPercentage (b.detailsOf distribution)) percentage = .ok ()
    ∧ computeAmount d.totalProfit percentage = .ok amount
  := by
  obtain ⟨⟨⟩, hv, h⟩ := bind_eq_ok.mp h
  cases hd : b.distributionOf distribution with
  | none => rw [hd] at h; cases h
  | some d' =>
    rw [hd] at h
    dsimp only at h
    split at h
    · cases h
    · rename_i hp
      obtain ⟨⟨⟩, hu, h⟩ := bind_eq_ok.mp h
      obtain ⟨⟨⟩, hc, h⟩ := bind_eq_ok.mp h
      obtain ⟨a, ha, h⟩ := bind_eq_ok.mp h
      cases h
      have hpart : ∃ p ∈ b.participants, p.id = some participant := by simpa using hp
      exact ⟨hv, rfl, hpart, hu, hc, ha⟩

/-! ### Allocating automatically -/

/-- What an automatic allocation checks: that the distribution exists and has a positive
total profit, and that the allocation of that total over every participant's standing can
be computed. It gives the distribution and the allocation. -/
def admitAutomatic (distribution : Int) : Except DomainError (Distribution × List Allocation) := do
  let some d := b.distributionOf distribution | throw (.distributionNotFound distribution)
  if d.totalProfit ≤ 0 then
    throw (.refused distribution d.state ("total profit " ++ toString d.totalProfit ++ " is not positive"))
  let allocations ← computeAllocations d.totalProfit (b.participants.map b.standingOf)
  pure (d, allocations)

/-- The rows an allocation asks the store to keep for a distribution. -/
def allocationRows (distribution : Int) (allocations : List Allocation) : List Detail :=
  allocations.map fun a => ⟨none, distribution, a.participant, a.percentage, a.amount⟩

/-- The books with a distribution's rows replaced by new ones, and its state set from their
sum. -/
def replaceRows (distribution : Int) (rows : List Detail) : Books :=
  (Books.storeDetails rows { b with details := b.details.filter (·.distribution != distribution) }).2
    |>.modifyDistribution distribution fun d => { d with state := stateFor (totalPercentage rows) }

theorem commit_runAutomaticAllocation (distribution : Int) (actor : Actor) (cause : Cause) :
  commit (runAutomaticAllocation distribution actor cause) b
    = match b.admitAutomatic distribution with
      | .error _ => b
      | .ok (_, allocations) => b.replaceRows distribution (allocationRows distribution allocations)
  := by
  simp only [commit, runAutomaticAllocation, summaryOf, loadDistribution, admitAutomatic,
    replaceRows, allocationRows, bind_assoc, getDistribution_books, listDetails_books,
    listStandings_books, replaceDetails_books, updateState_books]
  rw [run_store_bind]
  simp only [distributionOf]
  cases b.distributions.find? (·.id == some distribution) with
  | none => rfl
  | some d =>
    rw [run_pure_bind, run_store_bind, run_pure_bind, run_ite]
    by_cases hp : d.totalProfit ≤ 0
    · simp only [hp, if_true, run_throw_bind, throw_except, error_bind]
    · simp only [hp, if_false]
      rw [run_store_bind, run_rule_bind]
      cases computeAllocations d.totalProfit (b.participants.map b.standingOf) with
      | error e => simp only [error_bind]
      | ok allocations =>
        simp only [ok_bind, pure_except]
        rw [run_store_bind, run_store_bind, run_pure]

theorem admitAutomatic_eq_ok {distribution : Int} {d : Distribution} {allocations : List Allocation}
    (h : b.admitAutomatic distribution = .ok (d, allocations)) :
  b.distributionOf distribution = some d
    ∧ 0 < d.totalProfit
    ∧ computeAllocations d.totalProfit (b.participants.map b.standingOf) = .ok allocations
  := by
  unfold admitAutomatic at h
  cases hd : b.distributionOf distribution with
  | none => rw [hd] at h; cases h
  | some d' =>
    rw [hd] at h
    dsimp only at h
    split at h
    · cases h
    · rename_i hp
      obtain ⟨a, ha, h⟩ := bind_eq_ok.mp h
      cases h
      exact ⟨rfl, by omega, ha⟩

/-! ### Removing a row -/

/-- What removing a row checks: that the row exists, and its distribution. It gives both. -/
def admitRemove (id : Int) : Except DomainError (Detail × Distribution) := do
  let some r := b.details.find? (·.id == some id) | throw (.detailNotFound id)
  let some d := b.distributionOf r.distribution | throw (.distributionNotFound r.distribution)
  pure (r, d)

/-- The books without the row, and its distribution pending again when it was distributed
and the rows left no longer add up to 100%. -/
def removeRow (id : Int) (r : Detail) (d : Distribution) : Books :=
  let b' : Books := { b with details := b.details.filter (·.id != some id) }
  if d.state == .distributed
      && !isFullyAllocated (totalPercentage ((b.detailsOf r.distribution).filter (·.id != some id))) then
    b'.modifyDistribution r.distribution fun d => { d with state := .pending }
  else b'

theorem commit_removeDetail (id : Int) (actor : Actor) (cause : Cause) :
  commit (removeDetail id actor cause) b
    = match b.admitRemove id with
      | .error _ => b
      | .ok (r, d) => b.removeRow id r d
  := by
  simp only [commit, removeDetail, summaryOf, loadDistribution, admitRemove, removeRow, bind_assoc,
    getDetail_books, getDistribution_books, listDetails_books, deleteDetail_books, updateState_books,
    run_store_bind]
  cases b.details.find? (·.id == some id) with
  | none => rfl
  | some r =>
    simp only [distributionOf, run_store_bind]
    cases b.distributions.find? (·.id == some r.distribution) with
    | none => rfl
    | some d =>
      simp only [run_pure_bind, run_store_bind, run_ite, pure_except]
      by_cases hs : (d.state == .distributed
          && !isFullyAllocated (totalPercentage ((b.detailsOf r.distribution).filter (·.id != some id)))) = true
      · simp only [hs, if_true, run_pure]
      · simp only [hs, if_false, Bool.false_eq_true, run_pure]

theorem admitRemove_eq_ok {id : Int} {r : Detail} {d : Distribution}
    (h : b.admitRemove id = .ok (r, d)) :
  b.details.find? (·.id == some id) = some r ∧ b.distributionOf r.distribution = some d
  := by
  unfold admitRemove at h
  cases hr : b.details.find? (·.id == some id) with
  | none => rw [hr] at h; cases h
  | some r' =>
    rw [hr] at h
    dsimp only at h
    cases hd : b.distributionOf r'.distribution with
    | none => rw [hd] at h; cases h
    | some d' =>
      rw [hd] at h
      cases h
      exact ⟨rfl, hd⟩

/-! ### Changing the total profit -/

/-- What changing the total profit checks: the new total, that the distribution exists, and
the amount of each of its rows under the new total. It gives the distribution and the
amounts, row by row. -/
def admitRetotal (distribution total : Int) : Except DomainError (Distribution × List Int) := do
  validateTotalProfit total
  let some d := b.distributionOf distribution | throw (.distributionNotFound distribution)
  let amounts ← (b.detailsOf distribution).mapM fun r => computeAmount total r.percentage
  pure (d, amounts)

/-- The pairs of row identifier and new amount that the store is asked to write. -/
def amountUpdates (rows : List Detail) (amounts : List Int) : List (Int × Int) :=
  (List.zipWith (fun r a => r.id.map fun i => (i, a)) rows amounts).filterMap id

/-- The pairs the operation builds together with the recomputed rows are the amount updates. -/
theorem amountUpdates_eq {δ : Type} (g : Detail → Int → Int → δ) (rows : List Detail)
    (amounts : List Int) :
  ((List.zipWith (fun r a => r.id.map fun i => ((i, a), g r i a)) rows amounts).filterMap id).map (·.1)
    = amountUpdates rows amounts
  := by
  induction rows generalizing amounts with
  | nil => rfl
  | cons r rows ih =>
    cases amounts with
    | nil => rfl
    | cons a amounts =>
      have ih' := ih amounts
      simp only [amountUpdates] at ih' ⊢
      cases hr : r.id with
      | none => simpa [hr] using ih'
      | some i => simpa [hr] using ih'

/-- The books with the distribution's total changed, then the new amounts written. -/
def retotal (distribution total : Int) (amounts : List Int) : Books :=
  (amountUpdates (b.detailsOf distribution) amounts).foldl setAmount
    (b.modifyDistribution distribution fun d => { d with totalProfit := total })

theorem commit_updateTotalProfit (distribution total : Int) (actor : Actor) (cause : Cause) :
  commit (updateTotalProfit distribution total actor cause) b
    = match b.admitRetotal distribution total with
      | .error _ => b
      | .ok (_, amounts) => b.retotal distribution total amounts
  := by
  simp only [commit, updateTotalProfit, summaryOf, loadDistribution, admitRetotal, retotal,
    bind_assoc, getDistribution_books, listDetails_books, updateTotalProfit_books,
    updateAmounts_books, run_store_bind, run_rule_bind]
  cases validateTotalProfit total with
  | error e => rfl
  | ok u =>
    simp only [distributionOf]
    cases b.distributions.find? (·.id == some distribution) with
    | none => rfl
    | some d =>
      simp only [run_pure_bind, run_store_bind, ok_bind]
      rw [run_bind, run_mapM_rule]
      cases (b.detailsOf distribution).mapM fun r => computeAmount total r.percentage with
      | error e => simp only [error_bind]
      | ok amounts =>
        simp only [ok_bind, pure_except, run_store_bind, run_pure]
        rw [amountUpdates_eq]

theorem admitRetotal_eq_ok {distribution total : Int} {d : Distribution} {amounts : List Int}
    (h : b.admitRetotal distribution total = .ok (d, amounts)) :
  validateTotalProfit total = .ok ()
    ∧ b.distributionOf distribution = some d
    ∧ List.Forall₂ (fun r a => computeAmount total r.percentage = .ok a) (b.detailsOf distribution) amounts
  := by
  obtain ⟨⟨⟩, hv, h⟩ := bind_eq_ok.mp h
  cases hd : b.distributionOf distribution with
  | none => rw [hd] at h; cases h
  | some d' =>
    rw [hd] at h
    dsimp only at h
    obtain ⟨a, ha, h⟩ := bind_eq_ok.mp h
    cases h
    exact ⟨hv, rfl, forall₂_of_mapM_eq_ok ha⟩

end Books

end Payout.Lifecycle
