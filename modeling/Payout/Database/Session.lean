import Payout.Database.Catalog

/-!
# Databases and connections

A database is its main schema with the rows of its tables, shared by every connection to it.
A connection keeps what is its own: its temporary schema, its settings (`PRAGMA`s), the
identifier of the last row it inserted, the counts of rows its statements changed, and its
open transaction with the savepoints inside it.

A transaction remembers the database and the temporary schema as they were when it began,
and each savepoint as they were when it was set, so that rolling back restores them. Foreign key violations whose check
waits for the commit are counted on the connection.

Work that fails says how much of it is undone: the failing statement, nothing (a `FAIL`
resolution keeps what the statement did before), or the whole transaction. `RAISE(IGNORE)`
in a trigger is not a failure: it skips the row being changed.
-/

namespace Payout.Database

/-- The settings of a connection. Foreign keys are enforced unless switched off. -/
structure Settings where
  foreignKeys : Bool
  ignoreChecks : Bool
  recursiveTriggers : Bool
  deferForeignKeys : Bool
  caseSensitiveLike : Bool
  legacyAlterTable : Bool
deriving Inhabited

/-- The settings of a new connection. -/
def Settings.initial : Settings := ⟨true, false, false, false, false, false⟩

/-- A database file: its main schema, with the header values `PRAGMA`s read and write. -/
structure File where
  main : Schema
  userVersion : Int
  applicationId : Int
deriving Inhabited

/-- An empty database. -/
def File.empty : File := ⟨Schema.empty, 0, 0⟩

/-- A savepoint: its name, the database and the temporary schema as they were when it was set,
and the counts of waiting foreign key violations then. -/
structure Savepoint where
  name : String
  db : File
  temp : Schema
  deferred : Int
  deferredImmediate : Int
deriving Inhabited

/-- An open transaction: the database and the temporary schema when it began, its savepoints
(innermost first), and whether a `SAVEPOINT` rather than `BEGIN` opened it. -/
structure Transaction where
  db : File
  temp : Schema
  savepoints : List Savepoint
  bySavepoint : Bool
deriving Inhabited

/-- A connection. -/
structure Connection where
  temp : Schema
  settings : Settings
  lastRowid : Int
  changes : Int
  totalChanges : Int
  transaction : Option Transaction
  /-- Violations of deferred foreign keys waiting for the commit. -/
  deferred : Int
  /-- Violations of immediate foreign keys held back by `PRAGMA defer_foreign_keys`. -/
  deferredImmediate : Int
deriving Inhabited

/-- A new connection. -/
def Connection.fresh : Connection := ⟨Schema.empty, Settings.initial, 0, 0, 0, none, 0, 0⟩

/-- A connection with the database it is connected to. -/
structure Handle where
  db : File
  conn : Connection
deriving Inhabited

/-- A new connection to a database. -/
def Handle.of (db : File) : Handle := ⟨db, Connection.fresh⟩

/-- How much a failure undoes. -/
inductive Undo where
  /-- The failing statement's changes. -/
  | statement
  /-- Nothing: the statement's earlier changes stay. -/
  | keep
  /-- The whole transaction. -/
  | transaction
deriving DecidableEq, Inhabited

/-- Why work stopped: a failure with its message, or a trigger's `RAISE(IGNORE)`. -/
inductive Fault where
  | fail (message : String) (undo : Undo)
  | ignore
deriving Inhabited

/-- A failure that undoes its statement. -/
def Fault.error (message : String) : Fault := .fail message .statement

/-- The message of a fault. -/
def Fault.message : Fault → String
  | .fail m _ => m
  | .ignore => "RAISE(IGNORE) outside a trigger"

/-- A failure with the given resolution: `ROLLBACK` undoes the transaction, `FAIL` keeps
the statement's earlier changes, anything else undoes the statement. -/
def Fault.resolved (r : Resolution) (message : String) : Fault :=
  match r with
  | .rollback => .fail message .transaction
  | .fail => .fail message .keep
  | _ => .fail message .statement

/-- The names the schema table goes by. -/
def isMasterName (n : String) : Bool :=
  let l := lowerAscii n
  l == "sqlite_master" || l == "sqlite_schema"

/-- The names the temporary schema table goes by. -/
def isTempMasterName (n : String) : Bool :=
  let l := lowerAscii n
  l == "sqlite_temp_master" || l == "sqlite_temp_schema"

/-- Whether a schema name names the main schema. -/
def isMainName (n : String) : Bool := lowerAscii n == "main"

/-- Whether a schema name names the temporary schema. -/
def isTempName (n : String) : Bool :=
  let l := lowerAscii n
  l == "temp"

end Payout.Database
