import Payout.Database.Run
import Payout.Store.Error

/-!
# Work on the store

The store keeps its records in a database reached through one connection. Work on it is a
computation over that connection's handle that may fail; whatever it did before failing
stays done, as it would on a real connection, until a transaction around it is rolled back.

`Sql` work fails with the database's own message; `StoreM` work fails with a storage
failure, and `Sql.orFail` says how a message becomes one. A transaction is opened with
`BEGIN` and closed with `COMMIT`, or with `ROLLBACK` when the work inside fails (or when the
commit does).

The store's statements are built as syntax: reads of some columns of one table (optionally
joined on the left with a second), filtered, ordered and cut, and writes of one row or of
the rows a condition picks. Values handed to the database follow its binding rules: text
and integers as they are, and a double as a real, except that a NaN is stored as null.
-/

namespace Payout.Store

open Database

/-- Work through a connection, failing with the database's message. -/
abbrev Sql := ExceptT String (StateM Handle)

/-- Work of the storage layer, failing with a storage failure. -/
abbrev StoreM := ExceptT PersistenceError (StateM Handle)

namespace Sql

/-- Runs a statement given as syntax; gives what it answers. -/
def exec (s : Statement) : Sql Answer := do
  let (h, r) := (← get).execute s
  set h
  match r with
  | .ok a => pure a
  | .error m => throw m

/-- Runs a statement that changes rows; gives how many rows it changed. -/
def run (s : Statement) : Sql Nat := do
  let _ ← exec s
  pure (← get).conn.changes.toNat

/-- Reads rows. -/
def read (q : Select) : Sql (List (List Value)) := do
  pure ((← exec (.select q)).rows.map Array.toList)

/-- Reads rows and decodes each; the first failure of either is the result. -/
def readAs {α : Type} (q : Select) (decode : List Value → Except String α) : Sql (List α) := do
  match (← read q).mapM decode with
  | .ok xs => pure xs
  | .error m => throw m

/-- The identifier of the last row the connection inserted. -/
def lastRowid : Sql Int := do pure (← get).conn.lastRowid

/-- Runs statement text, statement after statement, up to the first failure. -/
def batch (text : String) : Sql Unit := do
  let (h, e) := (← get).batch text
  set h
  match e with
  | some m => throw m
  | none => pure ()

/-- The work, failing with the storage failure its message gives. -/
def orFail {α : Type} (wrap : String → PersistenceError) (act : Sql α) : StoreM α :=
  ExceptT.adapt wrap act

end Sql

/-- A name that stands in no text. -/
def ident (n : String) : Ident := Ident.plain n

/-- Runs a transaction statement on the handle, ignoring its failure. -/
def settleQuietly (s : Statement) : StateM Handle Unit :=
  modify fun h => (h.execute s).1

/-- Runs work as a transaction: `BEGIN`, the work, then `COMMIT`; when the work or the commit
fails, `ROLLBACK`, and the failure stands. Inside a transaction a savepoint stands for it. A
failure to begin is a database failure. -/
def transaction {α : Type} (act : StoreM α) : StoreM α := do
  let nested := (← get).conn.transaction.isSome
  let mark := ident "diesel_savepoint"
  let (start, finish, undo) : Statement × Statement × Statement :=
    if nested then (.savepoint mark, .release mark, .rollback (some mark))
    else (.begin .deferred, .commit, .rollback none)
  let _ ← (Sql.exec start).orFail .database
  let out ← tryCatch act fun e => do
    settleQuietly undo
    throw e
  let closed : Except String Answer ← (ExceptT.run (Sql.exec finish) : StateM Handle _)
  match closed with
  | .ok _ => pure out
  | .error m =>
    settleQuietly undo
    throw (PersistenceError.database m)

/-- A failure or a value, as work of the store. -/
def StoreM.ofExcept {α : Type} : Except PersistenceError α → StoreM α
  | .ok a => pure a
  | .error e => throw e

/-! ### Values for the database -/

/-- A double as the database stores it: a NaN becomes null. -/
def floatValue (x : Float) : Value := if x.isNaN then .null else .real x

/-- An optional integer: null when absent. -/
def optionalValue : Option Int → Value
  | some i => .integer i
  | none => .null

/-- An integer cut to 32 bits, as a 32-bit integer column reads it: its low 32 bits, as a
signed number. -/
def low32 (i : Int) : Int :=
  let n := i % 4294967296
  if n ≥ 2147483648 then n - 4294967296 else n

/-! ### Statements -/

/-- A column of a table, named with its table as the store's statements name it. -/
def column (table name : String) : Expr := .column none (some (ident table)) (ident name)

/-- The condition that a column equals a value. -/
def columnIs (table name : String) (v : Value) : Expr := .binary .eq (column table name) (.lit v)

/-- A read of some columns of a table, optionally joined on the left with a second table,
filtered, ordered by an expression and cut to a number of rows. -/
structure Read where
  table : String
  items : List Expr
  join : Option (String × Expr) := none
  condition : Option Expr := none
  order : Option Expr := none
  limit : Option Nat := none
deriving Inhabited

/-- A read of some columns of a table. -/
def selectFrom (table : String) (cols : List String) : Read :=
  { table := table, items := cols.map (column table) }

/-- The query of a read. -/
def Read.query (r : Read) : Select :=
  let items := r.items.map fun e => ResultColumn.expr e none ""
  let joins := match r.join with
    | some (t, on) => [JoinTerm.mk { JoinKind.plain with left := true } (.table none (ident t) none) (some on) []]
    | none => []
  let src := FromClause.mk (.table none (ident r.table) none) joins
  .mk [] false (.core (.select false items (some src) r.condition [] none []))
    (r.order.toList.map fun e => .mk e false none) (r.limit.map fun n => .lit (.integer n)) none

/-- An `INSERT` of one row of values into some columns of a table. -/
def insertStatement (table : String) (cols : List String) (vals : List Value) : Statement :=
  .insert ⟨[], none, none, ident table, none, some (cols.map ident), .values [vals.map .lit], [], []⟩

/-- An `UPDATE` of some columns of the rows of a table a condition picks. -/
def updateStatement (table : String) (sets : List (String × Value)) (cond : Option Expr) :
    Statement :=
  .update ⟨[], none, none, ident table, none, sets.map (fun (c, v) => ([ident c], .lit v)), none, cond,
    [], [], none⟩

/-- A `DELETE` of the rows of a table a condition picks. -/
def deleteStatement (table : String) (cond : Option Expr) : Statement :=
  .delete ⟨[], none, ident table, none, cond, [], [], none⟩

end Payout.Store
