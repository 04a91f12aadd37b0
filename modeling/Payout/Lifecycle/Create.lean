import Payout.Lifecycle.Basic

/-!
# Opening a distribution

A new distribution needs a period label that is not blank and not too long, and a positive
total profit. It is stored pending, with its label trimmed; its audit event records that
there was no distribution before.
-/

namespace Payout.Lifecycle

variable {m : Type → Type} [Monad m] [DistributionStore m]

open DistributionStore

/-- Stores a new pending distribution for a period, date and total profit. -/
def createDistribution (period : String) (date : Calendar.Date) (totalProfit : Int)
    (actor : Actor) (cause : Cause) : LifeM m (Transition Distribution) := do
  rule (validatePeriod period)
  rule (validateTotalProfit totalProfit)
  let created ← store (insertDistribution (Distribution.create period date totalProfit))
  let id := created.id.getD 0
  let after := (Summary.mk created []).snapshot
  let action : Action := ⟨"CreateDistribution", some ("Created distribution '" ++ created.period ++
    "' dated " ++ created.date.render ++ " with total profit " ++ toString created.totalProfit)⟩
  pure ⟨created, changeEvent actor cause action "distribution=none" after id⟩

end Payout.Lifecycle
