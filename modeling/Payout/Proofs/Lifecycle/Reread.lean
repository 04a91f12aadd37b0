import Payout.Proofs.Books.Outcomes

/-!
# What a call reports is what the store holds

Every lifecycle call builds, in memory, the summary of the distribution it changed, and writes
that summary's snapshot into its audit event as the state after the change. Read from the
store right after the call, the distribution's summary is that same summary: the same record,
and the same rows in identifier order with the same identifiers, percentages and amounts
(`call_results_read_back`). So the audit trail never records a state the store does not hold,
and what a call gives back agrees with what the store gives when asked: the summary a change
of total profit returns is the one read back, the rows an automatic allocation returns are
the rows read back, and the row added by hand is the last row read back.

Each call builds its summary along its own path (from the rows it read and the percentage it
added, from the rows the store numbered, from the rows it kept, from the amounts it computed),
so the statement is proved once per call, from what the call gives back (`Follows`) and what
its writes leave on the books (`*_views`). Only two facts about the store are used, both
guaranteed by its primary key: a new distribution has no rows yet, and rows have distinct
identifiers.
-/

namespace Payout.Lifecycle.Books

/-- Reading a stored distribution's summary gives its record and its rows, and changes
nothing. -/
theorem run_summaryOf {b : Books} {id : Int} {d : Distribution} (hd : b.distributionOf id = some d) :
  (summaryOf id : Work Summary).run.run b = (.ok ⟨d, b.detailsOf id⟩, b)
  := by
  simp only [summaryOf, loadDistribution, bind_assoc, getDistribution_books, listDetails_books]
  rw [run_store_bind]
  dsimp only
  rw [show b.distributions.find? (·.id == some id) = some d from hd]
  rfl

/-- The books `b'` read back `s` for the distribution the event `e` names, and the event's
state after the change is the snapshot of `s`. -/
def ReadsBack (b' : Books) (e : AuditEvent) (s : Summary) : Prop :=
  ∃ j, e.distribution = some j ∧ (summaryOf j : Work Summary).run.run b' = (.ok s, b')
    ∧ e.after = s.snapshot

theorem readsBack_of_views {b' : Books} {j : Int} {d : Distribution} {rows : List Detail}
    (hd : b'.distributionOf j = some d) (hrows : b'.detailsOf j = rows) {e : AuditEvent}
    (hj : e.distribution = some j) (hafter : e.after = (Summary.mk d rows).snapshot) :
  ReadsBack b' e ⟨d, rows⟩
  := ⟨j, hj, by rw [run_summaryOf hd, hrows], hafter⟩

/-- Repricing rows that carry their identifier and belong to the distribution only changes
their amounts. -/
theorem repriced_eq_zipWith {distribution : Int} {rows : List Detail}
    (hid : ∀ r ∈ rows, r.id = some (rowKey r)) (hdist : ∀ r ∈ rows, r.distribution = distribution)
    (amounts : List Int) :
  repriced distribution rows amounts = List.zipWith (fun r a => { r with amount := a }) rows amounts
  := by
  induction rows generalizing amounts with
  | nil => rfl
  | cons r rows ih =>
    cases amounts with
    | nil => rfl
    | cons a amounts =>
      have hr : r.id = some (rowKey r) := hid r List.mem_cons_self
      have hrd : r.distribution = distribution := hdist r List.mem_cons_self
      have hrest := ih (fun s hs => hid s (List.mem_cons_of_mem r hs))
        (fun s hs => hdist s (List.mem_cons_of_mem r hs)) amounts
      simp only [repriced, List.zipWith_cons_cons, List.filterMap_cons, hr, Option.map_some, id] at hrest ⊢
      rw [hrest, ← hr, ← hrd]

/-- On keyed books, every call that succeeds leaves the store reading back, for the distribution its
audit event names, exactly the summary whose snapshot the event records as the state after the
change: a new distribution with no rows; the rows with the row added by hand last; the rows the
allocation gives back; the rows but the removed one; the summary the change of total profit gives
back. The state is set from the rows before the store numbers them, which have the same sum, and the
distribution's stored rows carry identifiers, so repricing keeps every one. -/
theorem call_results_read_back {b : Books} (hk : b.Keyed) (actor : Actor) (cause : Cause) :
  (∀ period date totalProfit t b',
      (createDistribution period date totalProfit actor cause : Work _).run.run b = (.ok t, b') →
      ReadsBack b' t.event ⟨t.value, []⟩)
    ∧ (∀ distribution participant percentage t b',
      (addManualDetail distribution participant percentage actor cause : Work _).run.run b = (.ok t, b') →
      ∃ d, b.distributionOf distribution = some d
        ∧ ReadsBack b' t.event
          ⟨{ d with state := stateFor (totalPercentage (b.detailsOf distribution) + percentage) },
            b.detailsOf distribution ++ [t.value]⟩)
    ∧ (∀ distribution t b',
      (runAutomaticAllocation distribution actor cause : Work _).run.run b = (.ok t, b') →
      ∃ d, b.distributionOf distribution = some d
        ∧ ReadsBack b' t.event ⟨{ d with state := stateFor (totalPercentage t.value) }, t.value⟩)
    ∧ (∀ id t b',
      (removeDetail id actor cause : Work _).run.run b = (.ok t, b') →
      ∃ d, b.distributionOf t.value.distribution = some d
        ∧ ReadsBack b' t.event
          ⟨if d.state == .distributed
              && !isFullyAllocated (totalPercentage ((b.detailsOf t.value.distribution).filter (·.id != some id)))
            then { d with state := .pending } else d,
            (b.detailsOf t.value.distribution).filter (·.id != some id)⟩)
    ∧ (∀ distribution total t b',
      (updateTotalProfit distribution total actor cause : Work _).run.run b = (.ok t, b') →
      ReadsBack b' t.event t.value)
  := by
  refine ⟨?create, ?manual, ?automatic, ?remove, ?retotal⟩
  case create =>
    intro period date totalProfit t b' h
    obtain ⟨⟨⟩, -, ⟨action, rfl⟩, rfl⟩ := (follows_createDistribution b actor cause period date totalProfit).eq_ok h
    obtain ⟨hd, hrows, -⟩ := hk.addDistribution_views (Distribution.create period date totalProfit)
    exact readsBack_of_views hd hrows rfl rfl
  case manual =>
    intro distribution participant percentage t b' h
    obtain ⟨⟨d, amount⟩, hadmitted, ⟨action, rfl⟩, rfl⟩ :=
      (follows_addManualDetail b actor cause distribution participant percentage).eq_ok h
    obtain ⟨-, hd, -⟩ := admitManual_eq_ok b hadmitted
    obtain ⟨hd', hrows, -⟩ := addManual_views participant percentage amount hd
    exact ⟨d, hd, readsBack_of_views hd' hrows rfl rfl⟩
  case automatic =>
    intro distribution t b' h
    obtain ⟨⟨d, allocations⟩, hadmitted, ⟨action, rfl⟩, rfl⟩ :=
      (follows_runAutomaticAllocation b actor cause distribution).eq_ok h
    obtain ⟨hd, -⟩ := admitAutomatic_eq_ok b hadmitted
    obtain ⟨hd', hrows, -⟩ := replaceRows_views hd allocationRows_distribution
    rw [← totalPercentage_numberFrom (b.lastId + 1)] at hd'
    refine ⟨d, hd, readsBack_of_views hd' hrows rfl ?_⟩
    dsimp only [changeEvent]
    rw [totalPercentage_numberFrom]
  case remove =>
    intro id t b' h
    obtain ⟨⟨r, d⟩, hadmitted, ⟨action, rfl⟩, rfl⟩ := (follows_removeDetail b actor cause id).eq_ok h
    obtain ⟨hr, hd⟩ := admitRemove_eq_ok b hadmitted
    obtain ⟨hd', hrows, -⟩ := hk.removeRow_views hr hd
    exact ⟨d, hd, readsBack_of_views hd' hrows rfl rfl⟩
  case retotal =>
    intro distribution total t b' h
    obtain ⟨⟨d, amounts⟩, hadmitted, ⟨action, rfl⟩, rfl⟩ :=
      (follows_updateTotalProfit b actor cause distribution total).eq_ok h
    obtain ⟨-, hd, hamounts⟩ := admitRetotal_eq_ok b hadmitted
    obtain ⟨hd', hrows, -⟩ := hk.retotal_views total hd hamounts.length_eq.symm
    have hid : ∀ r ∈ b.detailsOf distribution, r.id = some (rowKey r) :=
      fun r hr => (hk.row_id r (List.mem_filter.mp hr).1).1
    rw [← repriced_eq_zipWith hid (fun r hr => distribution_of_mem_detailsOf hr)] at hrows
    exact readsBack_of_views hd' hrows rfl rfl

/-- Every call on the sample run that succeeds reports what the store then holds. -/
theorem call_results_read_back_sampleRun :
  sampleRun.Keyed
    ∧ (∀ period date totalProfit t b',
      (createDistribution period date totalProfit ⟨"admin", "user"⟩ ⟨"r3", "check"⟩ : Work _).run.run sampleRun
        = (.ok t, b') →
      ReadsBack b' t.event ⟨t.value, []⟩)
    ∧ (∀ distribution participant percentage t b',
      (addManualDetail distribution participant percentage ⟨"admin", "user"⟩ ⟨"r3", "check"⟩ : Work _).run.run
        sampleRun = (.ok t, b') →
      ∃ d, sampleRun.distributionOf distribution = some d
        ∧ ReadsBack b' t.event
          ⟨{ d with state := stateFor (totalPercentage (sampleRun.detailsOf distribution) + percentage) },
            sampleRun.detailsOf distribution ++ [t.value]⟩)
    ∧ (∀ distribution t b',
      (runAutomaticAllocation distribution ⟨"admin", "user"⟩ ⟨"r3", "check"⟩ : Work _).run.run sampleRun
        = (.ok t, b') →
      ∃ d, sampleRun.distributionOf distribution = some d
        ∧ ReadsBack b' t.event ⟨{ d with state := stateFor (totalPercentage t.value) }, t.value⟩)
    ∧ (∀ id t b',
      (removeDetail id ⟨"admin", "user"⟩ ⟨"r3", "check"⟩ : Work _).run.run sampleRun = (.ok t, b') →
      ∃ d, sampleRun.distributionOf t.value.distribution = some d
        ∧ ReadsBack b' t.event
          ⟨if d.state == .distributed
              && !isFullyAllocated (totalPercentage ((sampleRun.detailsOf t.value.distribution).filter (·.id != some id)))
            then { d with state := .pending } else d,
            (sampleRun.detailsOf t.value.distribution).filter (·.id != some id)⟩)
    ∧ (∀ distribution total t b',
      (updateTotalProfit distribution total ⟨"admin", "user"⟩ ⟨"r3", "check"⟩ : Work _).run.run sampleRun
        = (.ok t, b') →
      ReadsBack b' t.event t.value)
  := ⟨reachable_sampleRun.keyed, call_results_read_back reachable_sampleRun.keyed _ _⟩

end Payout.Lifecycle.Books
