import Payout.Database.Pragma
import Payout.Database.Alter
import Payout.Database.Parse.Statement

/-!
# Running statements

A statement runs on a connection's handle: it reads the database and the connection's
temporary schema, and on success leaves its changes there. Every statement is atomic:

* A failure undoes the statement, or with a `ROLLBACK` resolution the whole transaction; a
  `FAIL` resolution keeps what the statement did before failing.
* A statement that leaves violations of immediate foreign keys fails with
  `FOREIGN KEY constraint failed` and is undone.
* Outside a transaction each statement commits on its own: violations of deferred keys
  still waiting then make it fail and be undone, and a commit forgets the waiting
  violations and switches `defer_foreign_keys` off.
* A statement that changes rows sets the connection's count of changes (zero when it fails)
  and adds it to the total.

`BEGIN`, `COMMIT`, `ROLLBACK`, `SAVEPOINT` and `RELEASE` open and close transactions: a
commit with deferred violations waiting fails and leaves the transaction open.

A batch of statements runs one statement after another, each read just before it runs, up
to the first failure.
-/

namespace Payout.Database

/-- The message of foreign key violations left when a statement or transaction ends. -/
def foreignKeyMessage : String := "FOREIGN KEY constraint failed"

/-- A connection after a commit: no waiting violations, `defer_foreign_keys` off. -/
def Connection.committed (c : Connection) : Connection :=
  { c with deferred := 0, deferredImmediate := 0,
           settings := { c.settings with deferForeignKeys := false } }

namespace Handle

/-- The state a statement works on. -/
def writeState (h : Handle) : WriteState := ⟨h.db.main, h.conn.temp, h.conn, 0, [], [], 0⟩

/-- Rolls back the open transaction, or the statement when none is open, from the handle as
it was when the statement began; the connection keeps what no rollback undoes (the last row
inserted, the total of changes). -/
def rollbackAll (start : Handle) (conn : Connection) : Handle :=
  match start.conn.transaction with
  | some t => ⟨t.db, { conn.committed with temp := t.temp, transaction := none }⟩
  | none => ⟨start.db, { conn.committed with temp := start.conn.temp, transaction := none }⟩

/-- Ends a statement that ran on the write state: its changes stay or are undone as the
outcome says, and the count of changes is set when the statement counts them. -/
def settle {α : Type} (start : Handle) (counted : Bool) (r : Except Fault α) (st : WriteState) :
    Handle × Except String α :=
  let conn := st.conn
  let inTxn := start.conn.transaction.isSome
  let r : Except Fault α := match r with
    | .ok a => if st.pending > 0 then .error (Fault.error foreignKeyMessage) else .ok a
    | .error (.fail m .keep) =>
      if st.pending > 0 then .error (Fault.error foreignKeyMessage) else .error (.fail m .keep)
    | other => other
  let zeroed := if counted then { conn with changes := 0 } else conn
  let kept := fun (c : Connection) =>
    let c := if counted then { c with changes := st.changes, totalChanges := c.totalChanges + st.changes }
      else c
    let c := if inTxn then c else c.committed
    (⟨{ start.db with main := st.main }, { c with temp := st.temp }⟩ : Handle)
  let keepOrCommit := fun (out : Except String α) =>
    if !inTxn && conn.deferred + conn.deferredImmediate > 0 then
      (rollbackAll start zeroed, .error foreignKeyMessage)
    else (kept conn, out)
  match r with
  | .ok a => keepOrCommit (.ok a)
  | .error (.fail m .keep) => keepOrCommit (.error m)
  | .error (.fail m .transaction) => (rollbackAll start zeroed, .error m)
  | .error f =>
    if inTxn then
      (⟨start.db, { zeroed with temp := start.conn.temp, deferred := start.conn.deferred,
                                deferredImmediate := start.conn.deferredImmediate }⟩, .error f.message)
    else (rollbackAll start zeroed, .error f.message)

/-- Runs work on the write state as one statement. -/
def runWrite {α : Type} (h : Handle) (counted : Bool) (w : Write α) : Handle × Except String α :=
  let (r, st) := (w.run).run h.writeState
  h.settle counted r st

end Handle

namespace Write

/-- Prepares a statement that changes rows: every name it and the programs it may run use is
resolved before anything changes. -/
def prepareChange (s : Statement) : Write Unit := do
  let st ← get
  let ctx := st.context Site.top
  let settings := st.conn.settings
  let r := match s with
    | .insert i => (prepareInsert exprFuel settings ctx false i i.resolution).run' []
    | .update u => (prepareUpdate exprFuel settings ctx false u u.resolution).run' []
    | .delete d => (prepareDelete exprFuel settings ctx false d).run' []
    | _ => .ok ()
  liftMsg r

/-- The names of the columns of a `RETURNING` clause. -/
def returningNames (tg : Target) (shown : String) (ret : Returning) : List String :=
  match expandResult #[tg.shape shown] true ret with
  | .ok items => items.map fun it => it.asName.getD it.text
  | .error _ => []

/-- Runs a query. -/
def select (q : Select) : Write Answer := do
  let st ← get
  let shape ← liftMsg (prepareSelect (st.context Site.top) [] false q)
  let (_, rows) ← lift ((st.env Site.top).query [] q)
  pure ⟨shape.toList.map (·.name), rows⟩

/-- Runs a statement that changes rows, after preparing it; gives its `RETURNING` rows. -/
def change (s : Statement) : Write Answer := do
  prepareChange s
  let rows ← match s with
    | .insert i => insertRows exprFuel Site.top i i.resolution
    | .update u => updateRows exprFuel Site.top u u.resolution
    | .delete d => deleteRows exprFuel Site.top d
    | _ => pure []
  flushCounters
  pure ⟨[], rows⟩

end Write

/-! ### Transactions -/

namespace Handle

/-- Opens a transaction. -/
def beginTransaction (h : Handle) : Except String Handle :=
  if h.conn.transaction.isSome then .error "cannot start a transaction within a transaction"
  else .ok { h with conn := { h.conn with transaction := some ⟨h.db, h.conn.temp, [], false⟩ } }

/-- Commits the open transaction; deferred violations still waiting make it fail and stay
open. -/
def commit (h : Handle) : Except String Handle :=
  match h.conn.transaction with
  | none => .error "cannot commit - no transaction is active"
  | some _ =>
    if h.conn.deferred + h.conn.deferredImmediate > 0 then .error foreignKeyMessage
    else .ok { h with conn := { h.conn.committed with transaction := none } }

/-- Rolls back the open transaction. -/
def rollback (h : Handle) : Except String Handle :=
  match h.conn.transaction with
  | none => .error "cannot rollback - no transaction is active"
  | some t => .ok ⟨t.db, { h.conn.committed with temp := t.temp, transaction := none }⟩

/-- Sets a savepoint, opening a transaction when none is open. -/
def savepoint (h : Handle) (name : String) : Handle :=
  let sp : Savepoint := ⟨name, h.db, h.conn.temp, h.conn.deferred, h.conn.deferredImmediate⟩
  let t := match h.conn.transaction with
    | some t => { t with savepoints := sp :: t.savepoints }
    | none => ⟨h.db, h.conn.temp, [sp], true⟩
  { h with conn := { h.conn with transaction := some t } }

/-- The place of the innermost savepoint of a name. -/
def savepointAt? (h : Handle) (name : String) : Option (Transaction × Nat) :=
  match h.conn.transaction with
  | some t => (t.savepoints.findIdx? (sameName ·.name name)).map (t, ·)
  | none => none

/-- Releases a savepoint and those set after it; releasing the savepoint that opened the
transaction commits it. -/
def release (h : Handle) (name : String) : Except String Handle :=
  match h.savepointAt? name with
  | none => .error ("no such savepoint: " ++ name)
  | some (t, i) =>
    if t.bySavepoint && i + 1 == t.savepoints.length then
      if h.conn.deferred + h.conn.deferredImmediate > 0 then .error foreignKeyMessage
      else .ok { h with conn := { h.conn.committed with transaction := none } }
    else
      .ok { h with conn := { h.conn with transaction := some { t with savepoints := t.savepoints.drop (i + 1) } } }

/-- Rolls back to a savepoint, which stays set; those set after it go. -/
def rollbackTo (h : Handle) (name : String) : Except String Handle :=
  match h.savepointAt? name with
  | none => .error ("no such savepoint: " ++ name)
  | some (t, i) =>
    let sp := t.savepoints[i]?.getD default
    .ok ⟨sp.db, { h.conn with temp := sp.temp, deferred := sp.deferred,
                               deferredImmediate := sp.deferredImmediate,
                               transaction := some { t with savepoints := t.savepoints.drop i } }⟩

/-! ### Statements -/

/-- A statement's outcome as an answer with no rows. -/
def noRows (r : Except String Handle) (h : Handle) : Handle × Except String Answer :=
  match r with
  | .ok h' => (h', .ok Answer.empty)
  | .error m => (h, .error m)

/-- Checks a statement as it would be prepared, without running it. -/
def explain (h : Handle) (s : Statement) : Handle × Except String Answer :=
  let (_, r) := h.runWrite false (match s with
    | .select q => do let _ ← Write.select q; pure ()
    | .insert _ | .update _ | .delete _ => Write.prepareChange s
    | .createTable temp ine schema n _ _ => do
      let st ← get
      match newTableProblem st.main st.temp temp schema n ine with
      | some m => Write.fail m
      | none => pure ()
    | _ => pure ())
  (h, r.map fun _ => Answer.empty)

/-- Runs one statement. -/
def run (h : Handle) (s : Statement) : Handle × Except String Answer :=
  match s with
  | .select q => h.runWrite false (Write.select q)
  | .insert _ | .update _ | .delete _ => h.runWrite true (Write.change s)
  | .createTable temp ine schema n body sql =>
    h.runWrite false (do Write.createTable temp ine schema n body sql; pure Answer.empty)
  | .createIndex u ine schema n t cols cond sql =>
    h.runWrite false (do Write.createIndex u ine schema n t cols cond sql; pure Answer.empty)
  | .createView temp ine schema n cols q sql =>
    h.runWrite false (do Write.createView temp ine schema n cols q sql; pure Answer.empty)
  | .createTrigger temp ine schema d sql =>
    h.runWrite false (do Write.createTrigger temp ine schema d sql; pure Answer.empty)
  | .createVirtual _ _ _ m => (h, .error ("no such module: " ++ m.name))
  | .drop kind ie schema n => h.runWrite false (do Write.dropObject kind ie schema n; pure Answer.empty)
  | .alter schema n action =>
    h.runWrite false (do Write.alterTable schema n action; pure Answer.empty)
  | .pragma schema n v =>
    match h.pragma schema n v with
    | .ok (h', a) => (h', .ok a)
    | .error m => (h, .error m)
  | .begin _ => noRows h.beginTransaction h
  | .commit => noRows h.commit h
  | .rollback none => noRows h.rollback h
  | .rollback (some sp) => noRows (h.rollbackTo sp.name) h
  | .savepoint n => (h.savepoint n.name, .ok Answer.empty)
  | .release n => noRows (h.release n.name) h
  | .analyze _ | .reindex _ => (h, .ok Answer.empty)
  | .vacuum schema =>
    match schemaNamed schema with
    | .error m => (h, .error m)
    | .ok _ =>
      if h.conn.transaction.isSome then (h, .error "cannot VACUUM from within a transaction")
      else (h, .ok Answer.empty)
  | .attach _ _ | .detach _ => (h, .ok Answer.empty)
  | .explain _ inner => h.explain inner

/-- The source statements are read from: the characters and tokens of a text, and the check
a new table's name must pass against the handle's schemas. -/
def source (h : Handle) (chars : Array Char) (tokens : Array Token) : Source :=
  ⟨chars, tokens, fun temp schema n ine => newTableProblem h.db.main h.conn.temp temp schema n ine⟩

/-- Reads the next statement from a token position: none when only empty statements are
left; else the statement and the position after it and its `;`. -/
def readNext (h : Handle) (chars : Array Char) (tokens : Array Token) (pos : Nat) :
    Except String (Option (Statement × Nat)) :=
  let src := h.source chars tokens
  match ((Parser.skipEmpty (tokens.size + 1)).run src).run pos with
  | .error e => .error e.text
  | .ok (false, _) => .ok none
  | .ok (true, start) =>
    match (Parser.statement.run src).run start with
    | .error e => .error e.text
    | .ok (s, stop) =>
      let next := match tokens[stop]? with
        | some t => if t.isP ";" then stop + 1 else stop
        | none => stop
      .ok (some (s, next))

/-- Runs the statements of a text one after another, up to the first failure; gives the
handle after the statements that ran and the failure's message, if any. -/
def batch (h : Handle) (text : String) : Handle × Option String :=
  let chars := text.toList.toArray
  let tokens := tokenize text
  go chars tokens h 0 (tokens.size + 1)
where
  /-- Reads and runs statements from a token position. -/
  go (chars : Array Char) (tokens : Array Token) (h : Handle) (pos : Nat) :
      Nat → Handle × Option String
    | 0 => (h, none)
    | fuel + 1 =>
      match h.readNext chars tokens pos with
      | .error m => (h, some m)
      | .ok none => (h, none)
      | .ok (some (s, next)) =>
        match h.run s with
        | (h', .ok _) => go chars tokens h' next fuel
        | (h', .error m) => (h', some m)

/-- Runs the first statement of a text and gives what it answers. -/
def query (h : Handle) (text : String) : Handle × Except String Answer :=
  let chars := text.toList.toArray
  let tokens := tokenize text
  match h.readNext chars tokens 0 with
  | .error m => (h, .error m)
  | .ok none => (h, .ok Answer.empty)
  | .ok (some (s, _)) => h.run s

/-- Runs a statement given as syntax. -/
def execute (h : Handle) (s : Statement) : Handle × Except String Answer := h.run s

end Handle

end Payout.Database
