import Payout.Api.Error
import Payout.Api.Response
import Payout.Lifecycle.Create
import Payout.Lifecycle.Allocate
import Payout.Lifecycle.Amend
import Payout.Calendar.Iso
import Payout.Store.Backend

/-!
# The service's operations

Each changing operation runs as one transaction: the lifecycle operation, then the storing
of its audit event, then whatever the answer needs to read; a failure anywhere undoes all
of it and is shown to the caller as an `ApiError`. Dates are read before the transaction
starts, so a bad date changes nothing and is an input failure of the date field.
-/

namespace Payout.Api

open Store Lifecycle

/-- Work of the service. -/
abbrev ApiM := ExceptT ApiError (StateM Database.Handle)

/-- A lifecycle operation inside a transaction. -/
def lifecycle {α : Type} (act : LifeM (StateM Database.Handle) α) : StoreM α := ExceptT.adapt PersistenceError.core act

/-- Runs work as a transaction and shows its failure to the caller. -/
def serve {α : Type} (act : StoreM α) : ApiM α := ExceptT.adapt ApiError.ofPersistence (transaction act)

/-- Work outside a transaction, its failure shown to the caller. -/
def direct {α : Type} (act : StoreM α) : ApiM α := ExceptT.adapt ApiError.ofPersistence act

/-- Reads a date in ISO 8601 form for a field. -/
def parseDate (field value : String) : ApiM Calendar.Date :=
  match Calendar.parseIsoDate value with
  | .ok d => pure d
  | .error _ => throw (.invalidInput field ("Invalid date format: " ++ value))

/-- Opens a distribution; says whether its period label was already used. -/
def createDistribution (period date : String) (totalProfit : Int) (actor : Actor) (cause : Cause) :
    ApiM Created := do
  let date ← parseDate "distribution_date" date
  serve do
    let duplicate := !(← findDistributionsByPeriod period).isEmpty
    let t ← lifecycle (Lifecycle.createDistribution period date totalProfit actor cause)
    let eventId ← persistEvent t.event
    pure ⟨t.value, eventId, duplicate⟩

/-- Adds a participant's row by hand. -/
def addManualDetail (distribution participant : Int) (percentage : Float) (actor : Actor)
    (cause : Cause) : ApiM Added :=
  serve do
    let t ← lifecycle (Lifecycle.addManualDetail distribution participant percentage actor cause)
    let eventId ← persistEvent t.event
    let s ← lifecycle (summaryOf distribution)
    pure ⟨t.value, s.distribution.state, eventId, percentage, participant⟩

/-- Allocates a distribution automatically. -/
def runAutomaticAllocation (distribution : Int) (actor : Actor) (cause : Cause) : ApiM Allocated :=
  serve do
    let t ← lifecycle (Lifecycle.runAutomaticAllocation distribution actor cause)
    let eventId ← persistEvent t.event
    let s ← lifecycle (summaryOf distribution)
    pure ⟨distribution, s, eventId⟩

/-- Removes a row. -/
def removeDetail (id : Int) (actor : Actor) (cause : Cause) : ApiM Removed :=
  serve do
    let t ← lifecycle (Lifecycle.removeDetail id actor cause)
    let eventId ← persistEvent t.event
    let s ← lifecycle (summaryOf t.value.distribution)
    pure ⟨t.value, s.distribution.state, eventId, id⟩

/-- Changes a distribution's total profit. -/
def updateTotalProfit (distribution total : Int) (actor : Actor) (cause : Cause) : ApiM Retotaled :=
  serve do
    let t ← lifecycle (Lifecycle.updateTotalProfit distribution total actor cause)
    let eventId ← persistEvent t.event
    pure ⟨t.value, eventId, distribution, total⟩

/-- Every distribution. -/
def listDistributions : ApiM (List Distribution) := direct Store.listDistributions

/-- A distribution with its rows and totals. -/
def distributionSummary (id : Int) : ApiM Summary := serve (lifecycle (summaryOf id))

/-- The audit trail of a distribution, which must exist. -/
def distributionAudit (id : Int) : ApiM (List AuditEvent) := do
  let _ ← direct (requireDistribution id)
  direct (eventsOf id)

end Payout.Api
