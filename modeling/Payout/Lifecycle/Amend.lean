import Payout.Lifecycle.Basic
import Payout.Domain.Allocation

/-!
# Amending a distribution

Removing a row: the row must exist; a distributed distribution whose remaining rows no
longer add up to 100% becomes pending again.

Changing the total profit: the new total must be positive, and every row's amount is
computed again from its percentage; the total is written first, then the amounts.
-/

namespace Payout.Lifecycle

variable {m : Type → Type} [Monad m] [DistributionStore m]

open DistributionStore

/-- Removes a detail row from its distribution. -/
def removeDetail (id : Int) (actor : Actor) (cause : Cause) : LifeM m (Transition Detail) := do
  let some detail ← store (getDetail id) | throw (.violation (.detailNotFound id))
  let distribution := detail.distribution
  let summary ← summaryOf distribution
  let before := summary.snapshot
  store (deleteDetail id)
  let remaining := summary.details.filter fun d => d.id != some id
  let state ←
    if summary.distribution.state == .distributed && !isFullyAllocated (totalPercentage remaining) then do
      store (updateState distribution .pending)
      pure State.pending
    else pure summary.distribution.state
  let after := (Summary.mk { summary.distribution with state := state } remaining).snapshot
  let action : Action := ⟨"RemoveDetail", some ("Removed " ++ Decimal.display detail.percentage ++
    "% (" ++ toString detail.amount ++ ") from participant " ++ toString detail.participant)⟩
  pure ⟨detail, changeEvent actor cause action before after distribution⟩

/-- Sets a distribution's total profit and recomputes the amounts of its rows. -/
def updateTotalProfit (distribution : Int) (total : Int) (actor : Actor) (cause : Cause) :
    LifeM m (Transition Summary) := do
  rule (validateTotalProfit total)
  let summary ← summaryOf distribution
  let before := summary.snapshot
  let previous := summary.distribution.totalProfit
  let recomputed ← summary.details.mapM fun d => do
    let amount ← rule (computeAmount total d.percentage)
    pure (d.id.map fun i => ((i, amount), (⟨some i, distribution, d.participant, d.percentage, amount⟩ : Detail)))
  let kept := recomputed.filterMap id
  store (DistributionStore.updateTotalProfit distribution total)
  store (updateAmounts (kept.map (·.1)))
  let updated : Summary := ⟨{ summary.distribution with totalProfit := total }, kept.map (·.2)⟩
  let action : Action := ⟨"UpdateTotalProfit", some ("Changed total profit from " ++
    toString previous ++ " to " ++ toString total ++ "; recomputed " ++ toString kept.length ++
    " amounts")⟩
  pure ⟨updated, changeEvent actor cause action before updated.snapshot distribution⟩

end Payout.Lifecycle
