import Payout.Store.Error
import Payout.Domain.Summary
import Payout.Audit.Event

/-!
# Lifecycle operations: the setting

A lifecycle operation reads and writes a store and fails with a broken rule or a store
failure. What it needs of the store is the class `DistributionStore`: twelve reads and
writes in a monad of the store's own, each of which may fail with a `StoreError`, a *query*
failure for a read and a *write* failure for a write. The operations are written once for
every such store; the database is one of them.

Every operation that changes a distribution gives its result together with the audit event
that records the change: who acted and why, what was done, and the distribution's snapshot
before and after.
-/

namespace Payout.Lifecycle

/-- The reads and writes a distribution's lifecycle makes, in the store's monad `m`. Rows of
a distribution are listed in the order they were stored; a replacement of a distribution's
rows is all or none. -/
class DistributionStore (m : Type → Type) where
  /-- The distribution of an identifier, if stored. -/
  getDistribution : Int → ExceptT StoreError m (Option Distribution)
  /-- Every participant with the importance of its role, inactive ones included. -/
  listStandings : ExceptT StoreError m (List Standing)
  /-- The participant of an identifier, if stored. -/
  getParticipant : Int → ExceptT StoreError m (Option Participant)
  /-- The rows of a distribution, in the order they were stored. -/
  listDetails : Int → ExceptT StoreError m (List Detail)
  /-- The row of an identifier, if stored. -/
  getDetail : Int → ExceptT StoreError m (Option Detail)
  /-- Stores a distribution; gives it with its new identifier. -/
  insertDistribution : Distribution → ExceptT StoreError m Distribution
  /-- Stores a row; gives it with its new identifier. -/
  insertDetail : Detail → ExceptT StoreError m Detail
  /-- Replaces every row of a distribution by new ones; gives them with their identifiers. -/
  replaceDetails : Int → List Detail → ExceptT StoreError m (List Detail)
  /-- Removes a row. -/
  deleteDetail : Int → ExceptT StoreError m Unit
  /-- Sets a distribution's state. -/
  updateState : Int → State → ExceptT StoreError m Unit
  /-- Sets a distribution's total profit. -/
  updateTotalProfit : Int → Int → ExceptT StoreError m Unit
  /-- Sets the amount of each row of a pair of identifier and amount. -/
  updateAmounts : List (Int × Int) → ExceptT StoreError m Unit

/-- Work of a lifecycle operation over a store in the monad `m`. -/
abbrev LifeM (m : Type → Type) := ExceptT CoreError m

variable {m : Type → Type} [Monad m]

/-- A step of the store, as an operation sees it. -/
def store {α : Type} (act : ExceptT StoreError m α) : LifeM m α :=
  ExceptT.adapt CoreError.store act

/-- A rule of the domain, as an operation sees it. -/
def rule {α : Type} (r : Except DomainError α) : LifeM m α :=
  match r with
  | .ok a => pure a
  | .error e => throw (.violation e)

/-- A result and the audit event that records it. -/
structure Transition (α : Type) where
  value : α
  event : AuditEvent

/-- The audit event of a change to a distribution. -/
def changeEvent (actor : Actor) (cause : Cause) (action : Action) (before after : String)
    (distribution : Int) : AuditEvent :=
  ⟨none, actor, cause, action, before, after, some distribution⟩

variable [DistributionStore m]

open DistributionStore

/-- A stored distribution; a missing one breaks the rule that it must exist. -/
def loadDistribution (id : Int) : LifeM m Distribution := do
  match ← store (getDistribution id) with
  | some d => pure d
  | none => throw (.violation (.distributionNotFound id))

/-- A stored distribution with its detail rows. -/
def summaryOf (id : Int) : LifeM m Summary := do
  let d ← loadDistribution id
  let rows ← store (listDetails id)
  pure ⟨d, rows⟩

/-- The state a distribution takes for a sum of percentages: distributed when it is fully
allocated, pending otherwise. -/
def stateFor (sum : Float) : State :=
  if isFullyAllocated sum then .distributed else .pending

end Payout.Lifecycle
