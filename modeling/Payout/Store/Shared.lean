import Payout.Store.Location

/-!
# A database shared with another program

A database in memory with a shared cache can be opened by more than one connection. Here
the store holds one connection and another program holds a second one, with switches of its
own (foreign keys, checks), through which it may change the database behind the store's
back: edit rows, add triggers, drop tables.

Before the store opens a database at a location, the other program may already have run
statements there; they reach the store's database only when the location is shared.
-/

namespace Payout.Store

open Database

/-- A database held by the store's connection and by another program's connection. -/
structure Shared where
  store : Handle
  other : Connection
deriving Inhabited

/-- The store alone on a database: the other connection is fresh. -/
def Shared.ofStore (h : Handle) : Shared := ⟨h, Connection.fresh⟩

/-- Runs statement text through the other connection, up to the first failure; gives the
failure's message, if any. -/
def Shared.runOther (s : Shared) (text : String) : Shared × Option String :=
  let (h, e) := (Handle.mk s.store.db s.other).batch text
  (⟨{ s.store with db := h.db }, h.conn⟩, e)

/-- Why a store at a prepared location did not open: a preparing statement failed, or the
store itself did not open. -/
inductive PrepareFailure where
  | statement (message : String)
  | store (e : PersistenceError)
deriving Inhabited

/-- Runs preparing statements on a fresh database through another connection, then opens the
store at the location; the store sees the prepared database only when the location is
shared. -/
def openPrepared (name : String) (prepare : List String) : Except PrepareFailure Shared := do
  let mut other : Shared := Shared.ofStore (Handle.of Database.File.empty)
  for text in prepare do
    let (s, e) := other.runOther text
    other := s
    if let some m := e then throw (.statement m)
  let start := match Location.parse name with
    | .ok (.memory (some _)) => other.store.db
    | _ => Database.File.empty
  match openStore name start true with
  | .ok h => pure ⟨h, other.other⟩
  | .error e => throw (.store e)

end Payout.Store
