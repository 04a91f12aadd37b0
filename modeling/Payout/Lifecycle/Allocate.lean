import Payout.Lifecycle.Basic
import Payout.Domain.Allocation

/-!
# Allocating a distribution

By hand, one participant at a time: the percentage must be valid, the distribution and the
participant must exist, the participant must not hold a row yet, and the rows must not pass
100%. The new row's amount is its percentage of the total profit, and the distribution
becomes distributed exactly when its rows now add up to 100%.

Automatically, all at once: the total profit must be positive; every participant's weight
gives its share, the shares are apportioned in hundredths of a percent, and the rows so
computed replace the distribution's rows. The residual, what the rounded amounts leave of
the total, is reported and not corrected.
-/

namespace Payout.Lifecycle

variable {m : Type → Type} [Monad m] [DistributionStore m]

open DistributionStore

/-- Adds a participant's row to a distribution for a percentage. -/
def addManualDetail (distribution participant : Int) (percentage : Float) (actor : Actor)
    (cause : Cause) : LifeM m (Transition Detail) := do
  rule (validatePercentage percentage)
  let summary ← summaryOf distribution
  if (← store (getParticipant participant)).isNone then
    throw (.violation (.participantNotFound participant))
  rule (validateUnallocated distribution participant summary.details)
  let allocated := summary.allocatedPercentage
  rule (validateCapacity distribution allocated percentage)
  let amount ← rule (computeAmount summary.distribution.totalProfit percentage)
  let before := summary.snapshot
  let inserted ← store (insertDetail ⟨none, distribution, participant, percentage, amount⟩)
  let state := stateFor (allocated + percentage)
  if state != summary.distribution.state then store (updateState distribution state)
  let after := (Summary.mk { summary.distribution with state := state }
    (summary.details ++ [inserted])).snapshot
  let action : Action := ⟨"AddManualDetail", some ("Allocated " ++ Decimal.display percentage ++
    "% (" ++ toString amount ++ ") to participant " ++ toString participant)⟩
  pure ⟨inserted, changeEvent actor cause action before after distribution⟩

/-- Replaces a distribution's rows with the allocation computed from every participant's
standing. -/
def runAutomaticAllocation (distribution : Int) (actor : Actor) (cause : Cause) :
    LifeM m (Transition (List Detail)) := do
  let summary ← summaryOf distribution
  let total := summary.distribution.totalProfit
  if total ≤ 0 then
    throw (.violation (.refused distribution summary.distribution.state
      ("total profit " ++ toString total ++ " is not positive")))
  let standings ← store listStandings
  let allocations ← rule (computeAllocations total standings)
  let residual := residualOf total (allocations.map (·.amount))
  let rows : List Detail := allocations.map fun a => ⟨none, distribution, a.participant, a.percentage, a.amount⟩
  let before := summary.snapshot
  let state := stateFor (totalPercentage rows)
  let inserted ← store (replaceDetails distribution rows)
  store (updateState distribution state)
  let after := (Summary.mk { summary.distribution with state := state } inserted).snapshot
  let action : Action := ⟨"RunAutomaticAllocation", some ("Replaced " ++
    toString summary.details.length ++ " detail rows with " ++ toString inserted.length ++
    " weighted allocations (" ++ toString standings.length ++ " participants considered, residual " ++
    toString residual ++ ")")⟩
  pure ⟨inserted, changeEvent actor cause action before after distribution⟩

end Payout.Lifecycle
