import Payout.Database.Build

/-!
# The state of a statement that changes rows

A statement that changes rows works on both schemas and on the connection: it counts the
rows it changes, keeps the foreign key violations it has caused so far, and holds the
counters of the autoincrement tables it writes, read from `sqlite_sequence` when first
needed and written back when it ends.

Work that fails keeps what it did before failing (`ExceptT` over the state): a failure that
undoes the statement is undone by whoever started it, from a copy taken before.

Values are stored under their column's affinity; a strict table also refuses a value whose
type its column does not allow. A new row identifier is one more than the largest in the
table (one in an empty table), and, for an autoincrement table, more than any it ever
handed out.
-/

namespace Payout.Database

/-- The counter of an autoincrement table while a statement runs: the schema and name of the
table, the row of `sqlite_sequence` holding it, and its value at the start and now. -/
structure Counter where
  schema : String
  table : String
  row : Option Int
  start : Int
  value : Int
deriving Inhabited

/-- What a statement that changes rows works on. -/
structure WriteState where
  main : Schema
  temp : Schema
  conn : Connection
  /-- Violations of immediate foreign keys caused by the statement so far. -/
  pending : Int
  counters : List Counter
  /-- The triggers whose programs are running, innermost first. -/
  running : List String
  /-- The rows the statement changed. -/
  changes : Int
deriving Inhabited

/-- Work of a statement that changes rows; what it did before failing stays done. -/
abbrev Write := ExceptT Fault (StateM WriteState)

/-- Where a statement runs: the schema its names belong to (inside a trigger), the special
rows it sees, their values, and whether it is part of a trigger's program. -/
structure Site where
  fixed : Option String
  specials : List SpecialRow
  values : List SpecialValues
  trigger : Bool
deriving Inhabited

/-- A statement standing alone. -/
def Site.top : Site := ⟨none, [], [], false⟩

namespace WriteState

/-- The schema of a name. -/
def schema (st : WriteState) (n : String) : Schema :=
  if isTempName n then st.temp else st.main

/-- Replaces the schema of a name. -/
def setSchema (st : WriteState) (n : String) (s : Schema) : WriteState :=
  if isTempName n then { st with temp := s } else { st with main := s }

/-- What calls may read. -/
def callEnv (st : WriteState) : CallEnv :=
  ⟨st.conn.lastRowid, st.conn.changes, st.conn.totalChanges, st.conn.settings.caseSensitiveLike⟩

/-- The context names are resolved in at a site. -/
def context (st : WriteState) (site : Site) : Context :=
  ⟨st.main, st.temp, [], site.fixed, site.specials⟩

/-- What evaluation reads at a site. -/
def env (st : WriteState) (site : Site) : Env :=
  ⟨st.context site, st.callEnv, site.trigger, site.values, []⟩

end WriteState

namespace Write

/-- Fails with a message, undoing the statement. -/
def fail {α : Type} (m : String) : Write α := throw (.error m)

/-- The result of a computation that may fail. -/
def lift {α : Type} (r : Except Fault α) : Write α :=
  match r with
  | .ok a => pure a
  | .error f => throw f

/-- The result of a check that may fail with a message. -/
def liftMsg {α : Type} (r : Except String α) : Write α :=
  match r with
  | .ok a => pure a
  | .error m => throw (.error m)

/-- The evaluation environment at a site. -/
def env (site : Site) : Write Env := do pure ((← get).env site)

/-- The context at a site. -/
def context (site : Site) : Write Context := do pure ((← get).context site)

/-- The settings of the connection. -/
def settings : Write Settings := do pure (← get).conn.settings

/-- The rows of a table. -/
def rows (schemaName table : String) : Write (Array Row) := do
  pure (((← get).schema schemaName).rowsOf table)

/-- Replaces the rows of a table. -/
def setRows (schemaName table : String) (rs : Array Row) : Write Unit :=
  modify fun st => st.setSchema schemaName ((st.schema schemaName).setRows table rs)

/-- The row of an identifier, if the table has it. -/
def row? (schemaName table : String) (rowid : Int) : Write (Option Row) := do
  pure ((← rows schemaName table).find? (·.rowid == rowid))

/-- Stores a row in identifier order, replacing a row with the same identifier. -/
def putRow (schemaName table : String) (r : Row) : Write Unit := do
  let rs ← rows schemaName table
  let kept := rs.toList.filter (·.rowid != r.rowid)
  let before := kept.filter (·.rowid < r.rowid)
  let after := kept.filter (·.rowid > r.rowid)
  setRows schemaName table (before ++ [r] ++ after).toArray

/-- Removes the row of an identifier. -/
def eraseRow (schemaName table : String) (rowid : Int) : Write Unit := do
  let rs ← rows schemaName table
  setRows schemaName table (rs.filter (·.rowid != rowid))

/-- Counts a changed row. -/
def countChange : Write Unit := modify fun st => { st with changes := st.changes + 1 }

end Write

/-! ### Values as stored -/

/-- The name of a value's type in messages about strict tables. -/
def Value.strictTypeName : Value → String
  | .null => "NULL"
  | .integer _ => "INT"
  | .real _ => "REAL"
  | .text _ => "TEXT"
  | .blob _ => "BLOB"

/-- The values of a row as a table stores them: each under its column's affinity; a strict
table refuses a value its column's type does not allow. -/
def Table.storeValues (t : Table) (vals : Array Value) : Except Fault (Array Value) :=
  (List.range t.columns.size).foldlM (fun (acc : Array Value) j => do
    let c := t.columns[j]?.getD default
    let v := (vals[j]?.getD .null).withAffinity c.affinity
    if t.strict && !v.isNull then
      let ty := upperAscii c.declared
      let ok := match ty, v with
        | "INT", .integer _ | "INTEGER", .integer _ => true
        | "REAL", .real _ | "TEXT", .text _ | "BLOB", .blob _ => true
        | "ANY", _ => true
        | _, _ => false
      if !ok then
        throw (.error ("cannot store " ++ v.strictTypeName ++ " value in " ++ ty ++ " column " ++
          t.name ++ "." ++ c.name))
    pure (acc.push v)) #[]

/-- The integer a value must be to serve as a row identifier: an integer, or a double or
text that is exactly one; otherwise `datatype mismatch`. -/
def rowidValue (v : Value) : Except Fault Int :=
  match v.withAffinity .integer with
  | .integer i => .ok i
  | _ => .error (.error "datatype mismatch")

/-- The largest row identifier of some rows. -/
def largestRowid (rs : Array Row) : Option Int :=
  rs.foldl (fun acc r => match acc with
    | some m => some (max m r.rowid)
    | none => some r.rowid) none

/-- The message of a full table. -/
def fullMessage : String := "database or disk is full"

/-! ### Autoincrement counters -/

namespace Write

/-- The counter of an autoincrement table, read from `sqlite_sequence` when first needed. -/
def counter (schemaName : String) (t : Table) : Write Counter := do
  let st ← get
  match st.counters.find? (fun c => sameName c.schema schemaName && c.table == t.name) with
  | some c => pure c
  | none =>
    let seqRows := (st.schema schemaName).rowsOf "sqlite_sequence"
    let named := fun (r : Row) => match (r.values[0]? : Option Value) with
      | some (Value.text n) => n == t.name
      | _ => false
    let found := seqRows.toList.find? named
    let c : Counter := match found with
      | some r =>
        let seq := (r.values[1]?).getD Value.null
        ⟨schemaName, t.name, some r.rowid, seq.asInteger, seq.asInteger⟩
      | none => ⟨schemaName, t.name, none, 0, 0⟩
    modify fun st => { st with counters := st.counters ++ [c] }
    pure c

/-- Raises the counter of an autoincrement table to a row identifier. -/
def raiseCounter (schemaName : String) (t : Table) (rowid : Int) : Write Unit := do
  let c ← counter schemaName t
  if rowid > c.value then
    let raise := fun (k : Counter) =>
      if sameName k.schema schemaName && k.table == t.name then { k with value := rowid } else k
    modify fun st => { st with counters := st.counters.map raise }

/-- A new row identifier for a table: one more than the largest, and for an autoincrement
table more than its counter. -/
def newRowid (schemaName : String) (t : Table) : Write Int := do
  let rs ← rows schemaName t.name
  let base ← match largestRowid rs with
    | none => pure 1
    | some m => if m ≥ maxWord then fail fullMessage else pure (m + 1)
  if t.autoincrement then
    let c ← counter schemaName t
    if c.value ≥ maxWord then fail fullMessage
    pure (max base (c.value + 1))
  else pure base

/-- Writes back the counters a statement raised. -/
def flushCounters : Write Unit := do
  let cs := (← get).counters
  for c in cs do
    if c.value > c.start then
      let rs ← rows c.schema "sqlite_sequence"
      let rowid := match c.row with
        | some r => r
        | none => (largestRowid rs).getD 0 + 1
      putRow c.schema "sqlite_sequence" ⟨rowid, #[.text c.table, .integer c.value]⟩
  modify fun st => { st with counters := [] }

end Write

/-! ### Columns an expression reads -/

/-- The columns of a table an expression reads, outside its subqueries: `some j` for a
column, `none` for the row identifier (its alias column included). -/
def Expr.readColumns (scope : ScopeShape) (rowidColumn : Option Nat) : Nat → Expr → List (Option Nat)
  | 0, _ => []
  | fuel + 1, e =>
    match e with
    | .column s t n =>
      match lookupName [scope] (s.map (·.name)) (t.map (·.name)) n.name n.doubleQuoted with
      | .ok (.column _ _ j) => if rowidColumn == some j then [none] else [some j]
      | .ok (.rowid _ _) => [none]
      | _ => []
    | _ => e.children.flatMap (Expr.readColumns scope rowidColumn fuel)

/-- Whether an expression reads a changed column, or the row identifier when it changes. -/
def Expr.readsChanged (scope : ScopeShape) (rowidColumn : Option Nat) (changed : List Nat)
    (rowidChanged : Bool) (e : Expr) : Bool :=
  (e.readColumns scope rowidColumn exprFuel).any fun c =>
    match c with
    | some j => changed.contains j
    | none => rowidChanged

end Payout.Database
