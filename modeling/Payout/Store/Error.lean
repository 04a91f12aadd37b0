import Payout.Domain.Error

/-!
# Failures of storage

Three layers of failure. A `StoreError` is a read or a write that the store could not do,
as the lifecycle sees it. A `CoreError` is what a lifecycle operation fails with: a broken
rule or a store failure. A `PersistenceError` is what the storage layer itself reports: the
database's own message, a record that is missing or cannot be rebuilt, stored JSON that
cannot be read, or a lifecycle failure passed through.
-/

namespace Payout

/-- A read or write the store could not do, with the cause's text. -/
inductive StoreError where
  | queryFailed (message : String)
  | writeFailed (message : String)
deriving Inhabited

/-- The text of a store failure. -/
def StoreError.message : StoreError → String
  | .queryFailed m => "Query failed: " ++ m
  | .writeFailed m => "Write failed: " ++ m

/-- What a lifecycle operation fails with. -/
inductive CoreError where
  | violation (e : DomainError)
  | store (e : StoreError)
deriving Inhabited

/-- The text of a lifecycle failure. -/
def CoreError.message : CoreError → String
  | .violation e => "Domain violation: " ++ e.message
  | .store e => "Store failure: " ++ e.message

/-- What the storage layer reports. -/
inductive PersistenceError where
  | database (message : String)
  | connectionFailed (message : String)
  | migrationFailed (message : String)
  | queryFailed (message : String)
  | eventNotFound (id : Int)
  | distributionNotFound (id : Int)
  | participantNotFound (id : Int)
  | roleNotFound (id : Int)
  | reconstruction (message : String)
  | serialization (message : String)
  | initialization (message : String)
  | foreignKeysOff
  | core (e : CoreError)
  | notFound (message : String)
deriving Inhabited

/-- The text of a storage failure. -/
def PersistenceError.message : PersistenceError → String
  | .database m => "Database error: " ++ m
  | .connectionFailed m => "Database connection failed: " ++ m
  | .migrationFailed m => "Migration failed: " ++ m
  | .queryFailed m => "Query failed: " ++ m
  | .eventNotFound id => "Event not found: " ++ toString id
  | .distributionNotFound id => "Distribution not found: " ++ toString id
  | .participantNotFound id => "Participant not found: " ++ toString id
  | .roleNotFound id => "Role not found: " ++ toString id
  | .reconstruction m => "Reconstruction error: " ++ m
  | .serialization m => "Serialization error: " ++ m
  | .initialization m => "Initialization error: " ++ m
  | .foreignKeysOff => "Foreign key enforcement is not enabled"
  | .core e => e.message
  | .notFound m => "Not found: " ++ m

end Payout
