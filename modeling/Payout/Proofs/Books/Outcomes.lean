import Payout.Proofs.Books.Run

/-!
# What a call gives back

`commit_*` says what a call leaves on the books once its transaction is over. This file says
what the call itself gives back, with no transaction around it (`Follows`): a call whose
admission fails is refused with the rule it breaks and leaves the books untouched; a call that
is admitted gives back its value and its audit event, built from what the admission found,
and leaves the books its writes make. Only the action text of the event is left open.

Read backward (`Follows.eq_ok`), a call that succeeds was admitted; read forward
(`Follows.of_admitted`), an admitted call succeeds.
-/

namespace Payout.Lifecycle.Books

open DistributionStore

/-- A call on the books does what its admission says: when the admission fails, the call is
refused with that rule and leaves the books untouched; when it succeeds with `a`, the call
gives back what `result a` describes and leaves the books `write a`. -/
def Follows {α β : Type} (w : Work α) (b : Books) (admission : Except DomainError β)
    (result : β → α → Prop) (write : β → Books) : Prop :=
  match w.run.run b with
  | (.ok t, b') => ∃ a, admission = .ok a ∧ result a t ∧ b' = write a
  | (.error e, b') => b' = b ∧ ∃ e', e = .violation e' ∧ admission = .error e'

section Follows

variable {α β : Type} {w : Work α} {b : Books} {admission : Except DomainError β}
  {result : β → α → Prop} {write : β → Books}

/-- A call that succeeds was admitted, and gave back and wrote what its admission says. -/
theorem Follows.eq_ok (h : Follows w b admission result write) {t : α} {b' : Books}
    (hrun : w.run.run b = (.ok t, b')) :
  ∃ a, admission = .ok a ∧ result a t ∧ b' = write a
  := by
  unfold Follows at h
  rw [hrun] at h
  exact h

/-- An admitted call succeeds. -/
theorem Follows.of_admitted (h : Follows w b admission result write) {a : β} (ha : admission = .ok a) :
  ∃ t, w.run.run b = (.ok t, write a) ∧ result a t
  := by
  unfold Follows at h
  rcases hrun : w.run.run b with ⟨_ | t, b'⟩ <;> rw [hrun] at h
  · obtain ⟨-, e', -, he⟩ := h
    rw [ha] at he
    cases he
  · obtain ⟨a', ha', ht, rfl⟩ := h
    obtain rfl : a' = a := Except.ok.inj (ha'.symm.trans ha)
    exact ⟨t, rfl, ht⟩

/-- A call whose admission fails is refused with the rule it breaks, and writes nothing. -/
theorem Follows.of_refused (h : Follows w b admission result write) {e : DomainError}
    (he : admission = .error e) :
  w.run.run b = (.error (.violation e), b)
  := by
  unfold Follows at h
  rcases hrun : w.run.run b with ⟨_ | t, b'⟩ <;> rw [hrun] at h
  · obtain ⟨rfl, e', rfl, he'⟩ := h
    rw [he] at he'
    cases he'
    rfl
  · obtain ⟨a, ha, -, -⟩ := h
    rw [he] at ha
    cases ha

/-- Whether it succeeds or not, a call leaves the books its transaction keeps. -/
theorem Follows.run_state (h : Follows w b admission result write) :
  (w.run.run b).2 = commit w b
  := by
  unfold Follows at h
  unfold commit
  rcases hrun : w.run.run b with ⟨_ | t, b'⟩
  · rw [hrun] at h
    exact h.1
  · rfl

end Follows

variable (b : Books) (actor : Actor) (cause : Cause)

/-! ### Opening a distribution -/

/-- A distribution opened on the books, under the next identifier. -/
def opened (period : String) (date : Calendar.Date) (totalProfit : Int) : Distribution :=
  { Distribution.create period date totalProfit with id := some (b.lastId + 1) }

theorem follows_createDistribution (period : String) (date : Calendar.Date) (totalProfit : Int) :
  Follows (createDistribution period date totalProfit actor cause) b (admitCreate period totalProfit)
    (fun _ t => ∃ action, t = ⟨b.opened period date totalProfit,
      changeEvent actor cause action "distribution=none"
        (Summary.mk (b.opened period date totalProfit) []).snapshot (b.lastId + 1)⟩)
    (fun _ => b.addDistribution (Distribution.create period date totalProfit))
  := by
  simp only [Follows, createDistribution, admitCreate, insertDistribution_books, run_rule_bind]
  cases validatePeriod period with
  | error e => exact ⟨rfl, e, rfl, rfl⟩
  | ok u =>
    cases validateTotalProfit totalProfit with
    | error e => exact ⟨rfl, e, rfl, rfl⟩
    | ok u => exact ⟨(), rfl, ⟨_, rfl⟩, rfl⟩

/-! ### Adding a row by hand -/

/-- The row a call adding a row by hand stores: the next identifier, and the amount the
admission computed. -/
def manualRow (distribution participant : Int) (percentage : Float) (amount : Int) : Detail :=
  ⟨some (b.lastId + 1), distribution, participant, percentage, amount⟩

/-- A call adding a row by hand, once admitted, stores the row the admission computed and the event
of the change; the state is written only when it changes, and either way the books are those of
`addManual`. -/
theorem follows_addManualDetail (distribution participant : Int) (percentage : Float) :
  Follows (addManualDetail distribution participant percentage actor cause) b
    (b.admitManual distribution participant percentage)
    (fun (d, amount) t => ∃ action, t = ⟨b.manualRow distribution participant percentage amount,
      changeEvent actor cause action (Summary.mk d (b.detailsOf distribution)).snapshot
        (Summary.mk { d with state := stateFor (totalPercentage (b.detailsOf distribution) + percentage) }
          (b.detailsOf distribution ++ [b.manualRow distribution participant percentage amount])).snapshot
        distribution⟩)
    (fun (d, amount) => b.addManual distribution participant percentage d amount)
  := by
  simp only [Follows, addManualDetail, summaryOf, loadDistribution, bind_assoc, getDistribution_books,
    listDetails_books, getParticipant_books, insertDetail_books, updateState_books, run_store_bind,
    run_rule_bind]
  unfold admitManual
  cases validatePercentage percentage with
  | error e => exact ⟨rfl, e, rfl, rfl⟩
  | ok u =>
    simp only [distributionOf, ok_bind]
    cases b.distributions.find? (·.id == some distribution) with
    | none => exact ⟨rfl, _, rfl, rfl⟩
    | some d =>
      dsimp only
      simp only [run_pure_bind, run_store_bind, run_ite, run_throw_bind, run_rule_bind]
      cases (b.participants.find? (·.id == some participant)).isNone with
      | true => exact ⟨rfl, _, rfl, rfl⟩
      | false =>
        simp only [Bool.false_eq_true, if_false, Summary.allocatedPercentage]
        cases validateUnallocated distribution participant (b.detailsOf distribution) with
        | error e => exact ⟨rfl, e, rfl, rfl⟩
        | ok u =>
          cases validateCapacity distribution (totalPercentage (b.detailsOf distribution)) percentage with
          | error e => exact ⟨rfl, e, rfl, rfl⟩
          | ok u =>
            cases computeAmount d.totalProfit percentage with
            | error e => exact ⟨rfl, e, rfl, rfl⟩
            | ok amount =>
              simp only [run_pure, ok_bind, pure_except, addManual, storeDetail_eq, manualRow]
              by_cases hs : (stateFor (totalPercentage (b.detailsOf distribution) + percentage) != d.state) = true
              · simp only [hs, if_true]
                exact ⟨(d, amount), rfl, ⟨_, rfl⟩, (if_pos hs).symm⟩
              · simp only [hs, if_false, Bool.false_eq_true]
                exact ⟨(d, amount), rfl, ⟨_, rfl⟩, (if_neg hs).symm⟩

/-! ### Allocating automatically -/

theorem follows_runAutomaticAllocation (distribution : Int) :
  Follows (runAutomaticAllocation distribution actor cause) b (b.admitAutomatic distribution)
    (fun (d, allocations) t => ∃ action,
      t = ⟨numberFrom (b.lastId + 1) (allocationRows distribution allocations),
        changeEvent actor cause action (Summary.mk d (b.detailsOf distribution)).snapshot
          (Summary.mk { d with state := stateFor (totalPercentage (allocationRows distribution allocations)) }
            (numberFrom (b.lastId + 1) (allocationRows distribution allocations))).snapshot
          distribution⟩)
    (fun (_, allocations) => b.replaceRows distribution (allocationRows distribution allocations))
  := by
  simp only [Follows, runAutomaticAllocation, summaryOf, loadDistribution, bind_assoc,
    getDistribution_books, listDetails_books, listStandings_books, replaceDetails_books,
    updateState_books]
  rw [run_store_bind]
  unfold admitAutomatic
  simp only [distributionOf]
  cases b.distributions.find? (·.id == some distribution) with
  | none => exact ⟨rfl, _, rfl, rfl⟩
  | some d =>
    rw [run_pure_bind, run_store_bind, run_pure_bind, run_ite]
    dsimp only
    by_cases hp : d.totalProfit ≤ 0
    · rw [if_pos hp, run_throw_bind, if_pos hp]
      exact ⟨rfl, _, rfl, rfl⟩
    · rw [if_neg hp, if_neg hp, run_store_bind, run_rule_bind]
      cases computeAllocations d.totalProfit (b.participants.map b.standingOf) with
      | error e => exact ⟨rfl, e, rfl, rfl⟩
      | ok allocations =>
        simp only [ok_bind, pure_except]
        rw [run_store_bind, run_store_bind, run_pure, storeDetails_eq]
        refine ⟨(d, allocations), rfl, ⟨_, rfl⟩, ?_⟩
        rw [replaceRows, storeDetails_eq]
        rfl

/-- Numbering rows leaves their sum: the call's state is that of the rows it gives back. -/
theorem totalPercentage_numberFrom (start : Int) (rows : List Detail) :
  totalPercentage (numberFrom start rows) = totalPercentage rows
  := by
  rw [totalPercentage, totalPercentage, numberFrom_map (·.percentage) (fun _ _ => rfl)]

/-! ### Removing a row -/

/-- A call removing a row, once admitted, removes it and records the event of the change; a
distributed distribution is demoted exactly when the rows left fall short. -/
theorem follows_removeDetail (id : Int) :
  Follows (removeDetail id actor cause) b (b.admitRemove id)
    (fun (r, d) t => ∃ action, t = ⟨r,
      changeEvent actor cause action (Summary.mk d (b.detailsOf r.distribution)).snapshot
        (Summary.mk (if d.state == .distributed
            && !isFullyAllocated (totalPercentage ((b.detailsOf r.distribution).filter (·.id != some id)))
          then { d with state := .pending } else d)
          ((b.detailsOf r.distribution).filter (·.id != some id))).snapshot
        r.distribution⟩)
    (fun (r, d) => b.removeRow id r d)
  := by
  simp only [Follows, removeDetail, summaryOf, loadDistribution, bind_assoc, getDetail_books,
    getDistribution_books, listDetails_books, deleteDetail_books, updateState_books, run_store_bind]
  unfold admitRemove
  cases b.details.find? (·.id == some id) with
  | none => exact ⟨rfl, _, rfl, rfl⟩
  | some r =>
    dsimp only
    simp only [distributionOf, run_store_bind]
    cases b.distributions.find? (·.id == some r.distribution) with
    | none => exact ⟨rfl, _, rfl, rfl⟩
    | some d =>
      dsimp only
      simp only [run_pure_bind, run_store_bind, run_ite, pure_except]
      by_cases hs : (d.state == .distributed
          && !isFullyAllocated (totalPercentage ((b.detailsOf r.distribution).filter (·.id != some id)))) = true
      · simp only [hs, if_true, run_pure]
        refine ⟨(r, d), rfl, ?_, by rw [removeRow, if_pos hs]⟩
        dsimp only
        rw [if_pos hs]
        exact ⟨_, rfl⟩
      · simp only [hs, if_false, Bool.false_eq_true, run_pure]
        refine ⟨(r, d), rfl, ?_, by rw [removeRow, if_neg hs]⟩
        dsimp only
        rw [if_neg hs]
        exact ⟨_, rfl⟩

/-! ### Changing the total profit -/

/-- The rows a change of total profit gives back: each row that has an identifier, under it,
with its new amount. -/
def repriced (distribution : Int) (rows : List Detail) (amounts : List Int) : List Detail :=
  (List.zipWith (fun r a => r.id.map fun i => (⟨some i, distribution, r.participant, r.percentage, a⟩ : Detail))
    rows amounts).filterMap id

/-- The rows the operation builds together with the amount updates are the repriced rows. -/
theorem repriced_eq (distribution : Int) (rows : List Detail) (amounts : List Int) :
  ((List.zipWith (fun r a => r.id.map fun i =>
      ((i, a), (⟨some i, distribution, r.participant, r.percentage, a⟩ : Detail))) rows amounts).filterMap id).map (·.2)
    = repriced distribution rows amounts
  := by
  induction rows generalizing amounts with
  | nil => rfl
  | cons r rows ih =>
    cases amounts with
    | nil => rfl
    | cons a amounts =>
      have ih' := ih amounts
      simp only [repriced] at ih' ⊢
      cases hr : r.id with
      | none => simpa [hr] using ih'
      | some i => simpa [hr] using ih'

theorem follows_updateTotalProfit (distribution total : Int) :
  Follows (updateTotalProfit distribution total actor cause) b (b.admitRetotal distribution total)
    (fun (d, amounts) t => ∃ action,
      t = ⟨⟨{ d with totalProfit := total }, repriced distribution (b.detailsOf distribution) amounts⟩,
        changeEvent actor cause action (Summary.mk d (b.detailsOf distribution)).snapshot
          (Summary.mk { d with totalProfit := total } (repriced distribution (b.detailsOf distribution) amounts)).snapshot
          distribution⟩)
    (fun (_, amounts) => b.retotal distribution total amounts)
  := by
  simp only [Follows, updateTotalProfit, summaryOf, loadDistribution, bind_assoc, getDistribution_books,
    listDetails_books, updateTotalProfit_books, updateAmounts_books, run_store_bind, run_rule_bind]
  unfold admitRetotal
  cases validateTotalProfit total with
  | error e => exact ⟨rfl, e, rfl, rfl⟩
  | ok u =>
    simp only [distributionOf, ok_bind]
    cases b.distributions.find? (·.id == some distribution) with
    | none => exact ⟨rfl, _, rfl, rfl⟩
    | some d =>
      simp only [run_pure_bind, run_store_bind]
      rw [run_bind, run_mapM_rule]
      cases (b.detailsOf distribution).mapM fun r => computeAmount total r.percentage with
      | error e => exact ⟨rfl, e, rfl, rfl⟩
      | ok amounts =>
        simp only [ok_bind, pure_except, run_store_bind, run_pure]
        rw [amountUpdates_eq, repriced_eq]
        exact ⟨(d, amounts), rfl, ⟨_, rfl⟩, rfl⟩

/-! ### Calls, with or without a transaction -/

/-- A call, its result set aside, leaves the books its transaction keeps: a refused call
writes nothing that a transaction would have to undo. -/
theorem run_work_state (req : Request) :
  ((req.work actor cause : Work Unit).run.run b).2 = b.serve req actor cause
  := by
  have hbind : ∀ {α : Type} (w : Work α), (((w >>= fun _ => pure ()) : Work Unit).run.run b).2
      = (w.run.run b).2 := by
    intro α w
    rw [run_bind]
    rcases w.run.run b with ⟨_ | _, _⟩ <;> rfl
  cases req with
  | create period date totalProfit =>
    rw [serve_create, ← (follows_createDistribution b actor cause period date totalProfit).run_state]
    exact hbind _
  | addManual distribution participant percentage =>
    rw [serve_addManual, ← (follows_addManualDetail b actor cause distribution participant percentage).run_state]
    exact hbind _
  | allocate distribution =>
    rw [serve_allocate, ← (follows_runAutomaticAllocation b actor cause distribution).run_state]
    exact hbind _
  | remove id =>
    rw [serve_remove, ← (follows_removeDetail b actor cause id).run_state]
    exact hbind _
  | retotal distribution total =>
    rw [serve_retotal, ← (follows_updateTotalProfit b actor cause distribution total).run_state]
    exact hbind _

/-- Serving a call writes distributions, rows and the identifier counter, and nothing else:
roles and participants stay as they are. -/
theorem serve_eq_with (req : Request) :
  ∃ ds rows n, b.serve req actor cause = { b with distributions := ds, details := rows, lastId := n }
  := by
  cases req with
  | create period date totalProfit =>
    rw [serve_create, commit_createDistribution]
    split
    · exact ⟨_, _, _, rfl⟩
    · exact ⟨_, _, _, rfl⟩
  | addManual distribution participant percentage =>
    rw [serve_addManual, commit_addManualDetail]
    split
    · exact ⟨_, _, _, rfl⟩
    · unfold addManual
      dsimp only
      split
      · exact ⟨_, _, _, rfl⟩
      · exact ⟨_, _, _, rfl⟩
  | allocate distribution =>
    rw [serve_allocate, commit_runAutomaticAllocation]
    split
    · exact ⟨_, _, _, rfl⟩
    · rw [replaceRows, storeDetails_eq]
      exact ⟨_, _, _, rfl⟩
  | remove id =>
    rw [serve_remove, commit_removeDetail]
    split
    · exact ⟨_, _, _, rfl⟩
    · unfold removeRow
      dsimp only
      split
      · exact ⟨_, _, _, rfl⟩
      · exact ⟨_, _, _, rfl⟩
  | retotal distribution total =>
    rw [serve_retotal, commit_updateTotalProfit]
    split
    · exact ⟨_, _, _, rfl⟩
    · rw [retotal, setAmounts_eq]
      exact ⟨_, _, _, rfl⟩

end Payout.Lifecycle.Books
