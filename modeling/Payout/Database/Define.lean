import Payout.Database.Write.Exec

/-!
# Creating and dropping schema objects

`CREATE` and `DROP` statements change the schema of the database (or the temporary schema of
the connection); the checks they make come in a fixed order, and the first that fails is the
statement's error.

* A new table or view goes to the temporary schema for `TEMP`, else to the schema written,
  else to the main schema. Its name may not start with `sqlite_` and must not be taken by a
  table, view or index of that schema; `IF NOT EXISTS` turns a taken table or view name into
  a statement that does nothing.
* An index goes to the schema of its table, which must be a table other than the database's
  own; a trigger goes to the temporary schema for `TEMP`, else to the schema of its table.
  Triggers have names of their own, apart from tables and indexes.
* Dropping a table that foreign keys point at (while they are enforced) first deletes its
  rows, with its triggers silent, so that the keys' actions run and the violations it leaves
  are counted; a table whose own keys are deferred does the same while violations wait. Then
  the table goes with its indexes, its triggers (those of the temporary schema on it too)
  and its autoincrement counter.
-/

namespace Payout.Database

/-- The schema a name written with an optional schema name belongs to: `main` unless
`temp` is written; any other schema name is unknown. -/
def schemaNamed (schema : Option Ident) : Except String String :=
  match schema with
  | none => .ok "main"
  | some s =>
    if isMainName s.name then .ok "main"
    else if isTempName s.name then .ok "temp"
    else .error ("unknown database " ++ s.raw)

/-- Where a new table or view goes: the temporary schema for `TEMP` (which allows no other
schema name), else the schema written. -/
def creationSchema (temp : Bool) (schema : Option Ident) : Except String String := do
  let s ← schemaNamed schema
  if temp && schema.isSome && s != "temp" then throw "temporary table name must be unqualified"
  pure (if temp then "temp" else s)

/-- The schema of a name in a pair of schemas. -/
def schemaIn (main temp : Schema) (n : String) : Schema := if isTempName n then temp else main

/-- Why a new table or view may not be created under a name, if it may not: its schema is
unknown, its name is reserved, or a table, view or index of its schema has the name (a table
or view only when `IF NOT EXISTS` is not written). The taken name is quoted as written. -/
def newTableProblem (main temp : Schema) (isTemp : Bool) (schema : Option Ident) (n : Ident)
    (ifNotExists : Bool) : Option String :=
  match creationSchema isTemp schema with
  | .error m => some m
  | .ok s =>
    if isReservedName n.name then some ("object name reserved for internal use: " ++ n.name)
    else
      let sch := schemaIn main temp s
      match sch.relationNamed? n.name with
      | some e =>
        if ifNotExists then none
        else some ((if e.kind == .view then "view " else "table ") ++ n.raw ++ " already exists")
      | none =>
        if (sch.index? n.name).isSome then some ("there is already an index named " ++ n.name)
        else none

/-- The type a column of a query's result shows: the declared type of the column it copies
when that gives its affinity, else the standard type of its affinity. -/
def queryColumnType (c : ColumnShape) (aff : Affinity) : String :=
  if !c.declared.isEmpty && Affinity.ofDeclared c.declared == aff then c.declared
  else
    match aff with
    | .numeric => "NUM"
    | .blob => "BLOB"
    | .integer => "INT"
    | .real => "REAL"
    | .text => "TEXT"

/-- The type word the text of a table made from a query gives a column of an affinity. -/
def Affinity.queryTypeWord : Affinity → String
  | .blob => ""
  | .text => "TEXT"
  | .numeric => "NUM"
  | .integer => "INT"
  | .real => "REAL"

/-- The table a query's result makes, as its text reads back: its columns named as the result
names them, each with the type word of its expression's affinity and no other constraint. -/
def tableOfQuery (name : String) (cols : Array ColumnShape) : Table × String :=
  let names := distinctNames (cols.toList.map (·.name))
  let affs := cols.toList.map fun c => if c.plain then Affinity.blob else c.affinity
  let columns := names.zip affs |>.map fun (n, a) =>
    (⟨n, a.queryTypeWord, a, none, none, .binary, 0, none, false⟩ : Column)
  let t : Table := ⟨name, columns.toArray, none, .abort, false, false, false, [], []⟩
  (t, createTableText name (names.zip affs))

/-- Removes the triggers on a table of a name. -/
def Schema.dropTriggersOn (s : Schema) (table : String) : Schema :=
  { s with entries := s.entries.filter fun e => !(e.kind == .trigger && sameName e.tableName table) }

namespace Write

/-- The context names are resolved in outside any trigger. -/
def topContext : Write Context := context Site.top

/-- Replaces the schema of a name. -/
def setSchema (schemaName : String) (s : Schema) : Write Unit :=
  modify fun st => st.setSchema schemaName s

/-- Changes the schema of a name. -/
def modifySchema (schemaName : String) (f : Schema → Schema) : Write Unit :=
  modify fun st => st.setSchema schemaName (f (st.schema schemaName))

/-- Creates a table from its definition, or from a query's result with the query's rows. -/
def createTable (temp ifNotExists : Bool) (schema : Option Ident) (n : Ident) (body : TableBody)
    (sql : String) : Write Unit := do
  let st ← get
  match newTableProblem st.main st.temp temp schema n ifNotExists with
  | some m => fail m
  | none => pure ()
  let s ← liftMsg (creationSchema temp schema)
  if ((st.schema s).relationNamed? n.name).isSome then return
  let ctx ← topContext
  match body with
  | .columns cols cons withoutRowid strict _ =>
    let (t, indexes) ← liftMsg (buildTable ctx n.name s cols cons withoutRowid strict)
    modifySchema s fun sch => sch.addTable t indexes sql
  | .asSelect q =>
    let shape ← liftMsg (prepareSelect ctx [] false q)
    let (t, text) := tableOfQuery n.name shape
    let (_, rows) ← lift ((st.env Site.top).query [] q)
    modifySchema s fun sch => sch.addTable t [] text
    let stored := (rows.zip (List.range rows.length)).map fun (vals, i) =>
      (⟨(i : Int) + 1, (List.range t.columns.size).toArray.map fun j =>
        (vals[j]?.getD .null).withAffinity ((t.columns[j]?.map (·.affinity)).getD .blob)⟩ : Row)
    setRows s t.name stored.toArray

/-- Creates an index on a table, refusing it when a unique one would already be broken by
the table's rows. -/
def createIndex (unique ifNotExists : Bool) (schema : Option Ident) (n : Ident) (table : Ident)
    (terms : List IndexedColumn) (condition : Option Expr) (sql : String) : Write Unit := do
  let written ← liftMsg (schemaNamed schema)
  let ctx ← topContext
  let rel ← liftMsg (match schema with
    | some _ =>
      if isTempName written then ctx.relation none table.name
      else ctx.relation (some (Ident.plain written)) table.name
    | none => ctx.relation none table.name)
  let (s, t) ← match rel with
    | .table s t => pure (s, t)
    | .view _ _ => fail "views may not be indexed"
    | .master temp =>
      fail ("table " ++ (if temp then "sqlite_temp_master" else "sqlite_master") ++ " may not be indexed")
    | .named q => fail ("no such table: " ++ q.name)
  if schema.isSome && isTempName written && !isTempName s then
    fail ("cannot create a TEMP index on non-TEMP table \"" ++ t.name ++ "\"")
  if isReservedName t.name then fail ("table " ++ t.name ++ " may not be indexed")
  if isReservedName n.name then fail ("object name reserved for internal use: " ++ n.name)
  let st ← get
  let sch := st.schema s
  if (sch.relationNamed? n.name).isSome then fail ("there is already a table named " ++ n.name)
  if (sch.index? n.name).isSome then
    if ifNotExists then return
    fail ("index " ++ n.name ++ " already exists")
  let ix ← liftMsg (buildIndex ctx s t n.name unique terms condition)
  lift (checkNewIndex (st.env Site.top) s t ix (sch.rowsOf t.name))
  modifySchema s fun sch => sch.addEntry n.name t.name (some sql) (.index ix)

/-- Creates a view; its query is resolved only when the view is read. -/
def createView (temp ifNotExists : Bool) (schema : Option Ident) (n : Ident)
    (columns : List Ident) (q : Select) (sql : String) : Write Unit := do
  let st ← get
  match newTableProblem st.main st.temp temp schema n ifNotExists with
  | some m => fail m
  | none => pure ()
  let s ← liftMsg (creationSchema temp schema)
  if ((st.schema s).relationNamed? n.name).isSome then return
  let v : View := ⟨n.name, columns.map (·.name), q⟩
  modifySchema s fun sch => sch.addEntry n.name n.name (some sql) (.view v)

/-- Creates a trigger on a table or view: `INSTEAD OF` on views only, `BEFORE` and `AFTER` on
tables only; its program is resolved only when it fires. -/
def createTrigger (temp ifNotExists : Bool) (schema : Option Ident) (d : TriggerDef)
    (sql : String) : Write Unit := do
  if temp && schema.isSome then fail "temporary trigger may not have qualified name"
  let written ← liftMsg (schemaNamed schema)
  let ctx ← topContext
  -- an unqualified trigger on a temporary table goes to the temporary schema
  let found := ctx.relation none d.table.name
  let s := if temp then "temp"
    else match schema, found with
      | none, .ok (.table s _) => s
      | none, .ok (.view s _) => s
      | _, _ => written
  let rel := if isTempName s then ctx.relation none d.table.name
    else ctx.relation (some (Ident.plain s)) d.table.name
  let target ← match rel with
    | .ok (.table ts t) => pure (Sum.inl (ts, t))
    | .ok (.view vs v) => pure (Sum.inr (vs, v))
    | .ok (.master _) => fail "cannot create trigger on system table"
    | _ => fail ("no such table: " ++ (if isTempName s then "" else "main.") ++ d.table.name)
  if isReservedName d.name.name then fail ("object name reserved for internal use: " ++ d.name.name)
  if ((← get).schema s |>.trigger? d.name.name).isSome then
    if ifNotExists then return
    fail ("trigger " ++ d.name.raw ++ " already exists")
  match target with
  | .inl (_, t) =>
    if isReservedName t.name then fail "cannot create trigger on system table"
    if d.time == .insteadOf then fail ("cannot create INSTEAD OF trigger on table: " ++ d.table.name)
  | .inr _ =>
    if d.time != .insteadOf then
      fail ("cannot create " ++ (if d.time == .before then "BEFORE" else "AFTER") ++
        " trigger on view: " ++ d.table.name)
  let tr : Trigger := ⟨d.name.name, d.table.name, d.time, d.event, d.condition, d.program⟩
  modifySchema s fun sch => sch.addEntry d.name.name d.table.name (some sql) (.trigger tr)

/-- The text naming a missing object: with its schema name when one was written. -/
def missingName (schema : Option Ident) (n : Ident) : String :=
  match schema with
  | some s => s.name ++ "." ++ n.name
  | none => n.name

/-- The schema that holds an object of a name: the one written, else the temporary schema
when it has it, else the main one. -/
def holdingSchema (schema : Option Ident) (has : Schema → Bool) : Write (Option String) := do
  let st ← get
  match schema with
  | some s =>
    let n ← liftMsg (schemaNamed (some s))
    pure (if has (st.schema n) then some n else none)
  | none =>
    if has st.temp then pure (some "temp")
    else if has st.main then pure (some "main")
    else pure none

/-- Deletes the rows of a table that is being dropped, with its triggers silent: the foreign
keys pointing at it act, and the violations left are counted, a missing parent counting as
an empty one. -/
def clearForDrop (schemaName : String) (t : Table) : Write Unit := do
  for r in ← rows schemaName t.name do
    if (← row? schemaName t.name r.rowid).isSome then
      checkKeys schemaName t true (some (r.values, r.rowid)) none none
      eraseRow schemaName t.name r.rowid
      runKeyActions exprFuel schemaName t (r.values, r.rowid) none none

/-- Drops a table with everything that hangs on it. -/
def dropTable (ifExists : Bool) (schema : Option Ident) (n : Ident) : Write Unit := do
  let isMaster := isMasterName n.name || isTempMasterName n.name
  if isMaster then fail ("table " ++ (if isTempMasterName n.name then "sqlite_temp_master" else "sqlite_master") ++ " may not be dropped")
  match ← holdingSchema schema (fun sch => (sch.relationNamed? n.name).isSome) with
  | none => if ifExists then return else fail ("no such table: " ++ missingName schema n)
  | some s =>
    let st ← get
    let sch := st.schema s
    match sch.table? n.name with
    | none =>
      let v := (sch.view? n.name).map (·.name) |>.getD n.name
      fail ("use DROP VIEW to delete view " ++ v)
    | some t =>
      if isReservedName t.name && !(lowerAscii t.name).startsWith "sqlite_stat" then
        fail ("table " ++ t.name ++ " may not be dropped")
      let settings := st.conn.settings
      if settings.foreignKeys then
        let referenced := !(sch.referencing t.name).isEmpty
        let waiting := t.foreignKeys.any (fun fk => fk.deferred || settings.deferForeignKeys) &&
          st.conn.deferred + st.conn.deferredImmediate != 0
        if referenced || waiting then
          -- the table's own triggers, and those of the temporary schema on it, stay silent
          modifySchema s (·.dropTriggersOn t.name)
          if !isTempName s then modifySchema "temp" (·.dropTriggersOn t.name)
          clearForDrop s t
          if !settings.deferForeignKeys && (← get).pending > 0 then
            fail "FOREIGN KEY constraint failed"
      -- the table's counter of `sqlite_sequence` goes with it
      if t.autoincrement then
        let seq ← rows s "sqlite_sequence"
        setRows s "sqlite_sequence" (seq.filter fun r => match (r.values[0]? : Option Value) with
          | some (Value.text x) => x != t.name
          | _ => true)
      modifySchema s (·.dropTable t.name)
      if !isTempName s then modifySchema "temp" (·.dropTriggersOn t.name)

/-- Drops an index made by `CREATE INDEX`, a trigger or a view. -/
def dropObject (kind : ObjectKind) (ifExists : Bool) (schema : Option Ident) (n : Ident) :
    Write Unit := do
  match kind with
  | .table => dropTable ifExists schema n
  | .index =>
    match ← holdingSchema schema (fun sch => (sch.index? n.name).isSome) with
    | none => if ifExists then return else fail ("no such index: " ++ missingName schema n)
    | some s =>
      let ix := ((← get).schema s).index? n.name |>.getD default
      if ix.origin != .created then
        fail "index associated with UNIQUE or PRIMARY KEY constraint cannot be dropped"
      modifySchema s (·.removeEntry n.name)
  | .trigger =>
    match ← holdingSchema schema (fun sch => (sch.trigger? n.name).isSome) with
    | none => if ifExists then return else fail ("no such trigger: " ++ missingName schema n)
    | some s =>
      modifySchema s fun sch => { sch with entries := sch.entries.filter fun e =>
        !(e.kind == .trigger && sameName e.name n.name) }
  | .view =>
    match ← holdingSchema schema (fun sch => (sch.relationNamed? n.name).isSome) with
    | none => if ifExists then return else fail ("no such view: " ++ missingName schema n)
    | some s =>
      match ((← get).schema s).view? n.name with
      | some _ => modifySchema s (·.removeEntry n.name)
      | none =>
        let t := (((← get).schema s).table? n.name).map (·.name) |>.getD n.name
        fail ("use DROP TABLE to delete table " ++ t)

end Write

end Payout.Database
