import Payout.Store.Ledger
import Payout.Lifecycle.Basic

/-!
# The database as the lifecycle's store

The ledger's reads and writes make the database a `DistributionStore`, in the monad of work
on the connection's handle. A failed read becomes a *query* failure and a failed write a
*write* failure, each with the text of the storage failure. Whatever a failed operation
wrote stays written until the transaction around it is rolled back.
-/

namespace Payout.Store

/-- A read of the ledger, as the lifecycle sees it. -/
def asRead {α : Type} (act : StoreM α) : ExceptT StoreError (StateM Database.Handle) α :=
  ExceptT.adapt (fun e => .queryFailed e.message) act

/-- A write of the ledger, as the lifecycle sees it. -/
def asWrite {α : Type} (act : StoreM α) : ExceptT StoreError (StateM Database.Handle) α :=
  ExceptT.adapt (fun e => .writeFailed e.message) act

instance : Lifecycle.DistributionStore (StateM Database.Handle) where
  getDistribution id := asRead (Store.getDistribution id)
  listStandings := asRead Store.listStandings
  getParticipant id := asRead (Store.getParticipant id)
  listDetails id := asRead (Store.listDetails id)
  getDetail id := asRead (Store.getDetail id)
  insertDistribution d := asWrite (Store.insertDistribution d)
  insertDetail d := asWrite (Store.insertDetail d)
  replaceDetails id rows := asWrite (Store.replaceDetails id rows)
  deleteDetail id := asWrite (Store.deleteDetail id)
  updateState id s := asWrite (Store.updateState id s)
  updateTotalProfit id total := asWrite (Store.updateTotalProfit id total)
  updateAmounts amounts := asWrite (Store.updateAmounts amounts)

end Payout.Store
