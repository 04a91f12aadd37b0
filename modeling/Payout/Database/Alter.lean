import Payout.Database.StoredNames
import Payout.Database.Define

/-!
# Changing a table in place

`ALTER TABLE` renames a table or one of its columns, adds a column, or drops one. Each works
on the stored text of the schema and then reads the whole schema back from it, as opening
the database would, so the objects a change leaves are exactly those its text defines.

* Renaming edits the names that stand for the renamed table or column in every stored
  definition (`TableRename.names`, `ColumnRename.names`), then reads the schema back and
  checks that every view and trigger still resolves.
* Dropping a column cuts its definition out of the table's text, from its name to the next
  column's name (for the last column, from the comma before it to the end of the columns).
* Adding a column writes its definition at the end of the columns; the rows take its
  default. A table that has rows refuses a column its rows could not have.

Before a column is renamed or dropped, the schema is checked as it stands, and every
double-quoted name that stood for a string is made a single-quoted string, so that the
changed text cannot read differently. A definition that no longer reads stops the change with
a message naming it (`brokenDefinition`).
-/

namespace Payout.Database

/-- The changes after which the schema is read back, as messages name them. -/
inductive Alteration where
  | rename
  | dropColumn
  | addColumn
deriving DecidableEq, Inhabited

/-- The words for a change. -/
def Alteration.word : Alteration → String
  | .rename => "rename"
  | .dropColumn => "drop column"
  | .addColumn => "add column"

/-- The message about a stored definition that does not read: its kind and name, when it
was read, and why. -/
def brokenDefinition (e : Entry) (when : String) (m : String) : String :=
  "error in " ++ e.kind.word ++ " " ++ e.name ++ (if when.isEmpty then "" else " " ++ when) ++ ": " ++ m

/-- The schemas a change of a schema touches: the temporary schema also reads the main one,
so a change of the main schema is followed there too. -/
def touchedSchemas (schemaName : String) : List String :=
  if isTempName schemaName then ["temp"] else ["main", "temp"]

/-- Whether a default value is a value as written, which a column added to a table with rows
may have: a literal, a number, `true` or `false`, or one of these with a sign or a cast. -/
def Expr.isWrittenValue : Nat → Expr → Bool
  | 0, _ => false
  | fuel + 1, e =>
    match e with
    | .lit _ | .number _ _ => true
    | .column none none n => !n.doubleQuoted && isTruthName n.name
    | .unary .neg x | .unary .pos x | .cast x _ => Expr.isWrittenValue fuel x
    | _ => false

/-! ### Reading a schema back -/

/-- The table an entry defines or belongs to, for the entries that have one. -/
def Schema.ownTable (s : Schema) (e : Entry) : Option Table :=
  match e.object with
  | .table t => some t
  | .index ix => s.table? ix.table
  | _ => none

/-- The pages of the indexes a table's constraints made, in order. -/
def Schema.keyIndexPages (s : Schema) (table : String) : List Int :=
  s.entries.toList.filterMap fun e =>
    if e.sql.isNone && e.kind == .index && sameName e.tableName table then some e.rootpage
    else none

/-- Reads one entry back from its text in a schema read so far: a table with the indexes of
its constraints (which keep their pages), an index on its table, a view as written, a trigger
on its table. A temporary trigger whose table is gone stays as it was; the table of
autoincrement counters stays as it is. -/
def reloadEntry (ctx : Context) (schemaName : String) (s : Schema) (acc : Array Entry)
    (e : Entry) : Except (Entry × String) (Array Entry) := do
  let temp := isTempName schemaName
  let cur : Schema := { s with entries := acc }
  let ctx := if temp then { ctx with temp := cur } else { ctx with main := cur }
  let orFail := fun {α : Type} (r : Except String α) =>
    (match r with
      | .ok a => .ok a
      | .error m => .error (e, m) : Except (Entry × String) α)
  match e.sql with
  | none => pure acc
  | some sql =>
    if sameName e.name "sqlite_sequence" then return acc.push e
    match ← orFail (readDefinition sql) with
    | .createTable _ _ _ n (.columns cols cons w strict _) _ =>
      let (t, ixs) ← orFail (buildTable ctx n.name schemaName cols cons w strict)
      let pages := s.keyIndexPages e.tableName
      let made := (ixs.zip (List.range ixs.length)).map fun (ix, i) =>
        (⟨ix.name, t.name, pages.getD i 0, none, .index ix⟩ : Entry)
      pure ((acc.push { e with object := .table t }) ++ made.toArray)
    | .createIndex unique _ _ n tn terms cond _ =>
      match ctx.relationIn schemaName tn.name with
      | some (.table _ t) =>
        let ix ← orFail (buildIndex ctx schemaName t n.name unique terms cond)
        pure (acc.push { e with object := .index ix })
      | _ => throw (e, "no such table: " ++ schemaName ++ "." ++ tn.name)
    | .createView _ _ _ n cols q _ =>
      pure (acc.push { e with object := .view ⟨n.name, cols.map (·.name), q⟩ })
    | .createTrigger _ _ _ d _ =>
      match triggerTarget ctx schemaName d with
      | .ok _ =>
        pure (acc.push { e with
          object := .trigger ⟨d.name.name, d.table.name, d.time, d.event, d.condition, d.program⟩ })
      | .error m => if temp then pure (acc.push e) else throw (e, m)
    | _ => throw (e, "")

/-- Reads a schema back from the text of its entries, in order, as opening the database does;
the first definition that does not read stops the reading with its entry and the reason. -/
def reloadSchema (ctx : Context) (schemaName : String) (s : Schema) :
    Except (Entry × String) Schema := do
  let entries ← s.entries.toList.foldlM (reloadEntry ctx schemaName s) #[]
  pure { s with entries := entries }

/-- Checks a stored definition as renaming does: it must read, a view's query and a trigger's
program must resolve against the schema as it is (under the older rules only a trigger's
table must be there). -/
def testDefinition (ctx : Context) (schemaName : String) (legacy : Bool) (sql : String) :
    Except String Unit := do
  match ← readDefinition sql with
  | .createView _ _ _ _ _ q _ => if legacy then pure () else CheckM.finish (viewNames ctx schemaName q)
  | .createTrigger _ _ _ d _ =>
    if legacy then do
      let _ ← triggerTarget ctx schemaName d
      pure ()
    else CheckM.finish (triggerNames ctx schemaName d)
  | _ => pure ()

/-! ### Cutting and adding column text -/

/-- The place of the last comma at or before a place of a text (the start when there is
none). -/
def commaAtOrBefore (chars : Array Char) : Nat → Nat
  | 0 => 0
  | p + 1 => if chars[p + 1]? == some ',' then p + 1 else commaAtOrBefore chars p

/-- A table's text without the definition of one of its columns: from the column's name to
the next column's name, or, for the last column, from the comma before it to the end of the
columns. -/
def withoutColumnText (sql : String) (col : Nat) : Except String String := do
  let chars := sql.toList.toArray
  match ← readDefinition sql with
  | .createTable _ _ _ _ (.columns cols _ _ _ stop) _ =>
    match cols[col]? with
    | some c =>
      let (start, finish) := match cols[col + 1]? with
        | some next => (c.name.start, next.name.start)
        | none => (commaAtOrBefore chars c.name.start, stop)
      pure (String.ofList (chars.toList.take start ++ chars.toList.drop finish))
    | none => throw "database disk image is malformed"
  | _ => throw "database disk image is malformed"

/-- The definition of an added column as it goes into the table's text: without the
semicolons and blanks that end it. -/
def trimColumnText (text : String) : String :=
  let kept := text.toList.reverse.dropWhile fun c => c == ';' || isBlankChar c
  String.ofList kept.reverse

/-- A table's text with a column definition added after its last column. -/
def withColumnText (sql : String) (coltext : String) : Except String String := do
  match ← readDefinition sql with
  | .createTable _ _ _ _ (.columns _ _ _ _ stop) _ =>
    let cs := sql.toList
    pure (String.ofList (cs.take stop ++ ", ".toList ++ coltext.toList ++ cs.drop stop))
  | _ => throw "database disk image is malformed"

/-- Whether a value is of the type a column of a strict table declares (any value may be
null, and a `REAL` column also holds integers). -/
def strictFits (declared : String) (v : Value) : Bool :=
  match upperAscii declared, v with
  | _, .null => true
  | "INT", .integer _ | "INTEGER", .integer _ => true
  | "REAL", .integer _ | "REAL", .real _ => true
  | "TEXT", .text _ | "BLOB", .blob _ => true
  | "ANY", _ => true
  | _, _ => false

/-! ### The changes -/

/-- What an `ALTER TABLE` finds under its table name. -/
inductive AlterSubject where
  | table (schema : String) (t : Table)
  | view (schema : String) (name : String)
  /-- A schema table, under the name it is kept as. -/
  | internal (schema : String) (name : String)
deriving Inhabited

/-- The name of what an `ALTER TABLE` finds. -/
def AlterSubject.name : AlterSubject → String
  | .table _ t => t.name
  | .view _ n => n
  | .internal _ n => n

/-- The schema of what an `ALTER TABLE` finds. -/
def AlterSubject.schema : AlterSubject → String
  | .table s _ => s
  | .view s _ => s
  | .internal s _ => s

namespace Write

/-- What an `ALTER TABLE` names, looked up as a statement outside any query looks it up. -/
def alterSubject (schema : Option Ident) (n : Ident) : Write AlterSubject := do
  match ← liftMsg ((← topContext).relation schema n.name) with
  | .table s t => pure (.table s t)
  | .view s v => pure (.view s v.name)
  | .master true => pure (.internal "temp" "sqlite_temp_master")
  | .master false => pure (.internal "main" "sqlite_master")
  | .named _ => fail ("no such table: " ++ n.name)

/-- Refuses to change the database's own tables, whose names start with `sqlite_`. -/
def refuseInternal (name : String) : Write Unit :=
  if isReservedName name then fail ("table " ++ name ++ " may not be altered") else pure ()

/-- Edits the text of the entries of a schema that `pick` chooses, by the edits `edits`
gives for each entry's statement; an entry whose text does not read or whose names do not
resolve stops the change with the message about it. -/
def editEntries (schemaName : String) (pick : Entry → Bool)
    (edits : Entry → Statement → Array Char → Except String (List Edit)) : Write Unit := do
  let s := (← get).schema schemaName
  let entries ← s.entries.mapM fun e =>
    match e.sql with
    | some sql =>
      if pick e then
        match readDefinition sql >>= fun st => edits e st sql.toList.toArray with
        | .ok es => pure { e with sql := some (applyEdits sql es) }
        | .error m => fail (brokenDefinition e "" m)
      else pure e
    | none => pure e
  setSchema schemaName { s with entries := entries }

/-- Reads the touched schemas back from their text after a change. -/
def reloadAfter (a : Alteration) (schemaName : String) : Write Unit := do
  for sn in touchedSchemas schemaName do
    match reloadSchema (← topContext) sn ((← get).schema sn) with
    | .ok s => setSchema sn s
    | .error (e, m) => fail (brokenDefinition e ("after " ++ a.word) m)

/-- Checks every stored definition of the touched schemas (other than the database's own),
in order; `when` says when, for the message. -/
def testSchemas (when : String) (schemaName : String) : Write Unit := do
  let legacy := (← settings).legacyAlterTable
  let ctx ← topContext
  for sn in touchedSchemas schemaName do
    for e in (ctx.schemaOf sn).entries do
      match e.sql with
      | some sql =>
        if !isReservedName e.name then
          match testDefinition ctx sn legacy sql with
          | .ok () => pure ()
          | .error m => fail (brokenDefinition e when m)
      | none => pure ()

/-- Makes every double-quoted name of the touched schemas that stands for a string a
single-quoted string. -/
def fixQuotedStrings (schemaName : String) : Write Unit := do
  let ctx ← topContext
  for sn in touchedSchemas schemaName do
    let sch := ctx.schemaOf sn
    editEntries sn (fun e => !isReservedName e.name) fun e st chars => do
      match quotedStrings ctx sn (sch.ownTable e) st with
      | .ok ns => pure (ns.map (stringEdit chars))
      | .error _ => throw "SQL logic error"

/-- `ALTER TABLE … RENAME TO`: the new name must be free in the table's schema and not
reserved, and the table must be an ordinary table. Every definition naming the table is
edited, the table with its indexes and triggers takes the new name (the indexes of its
constraints are renamed after it), and so do its rows and its autoincrement counter. -/
def renameTable (schema : Option Ident) (n new : Ident) : Write Unit := do
  let subject ← alterSubject schema n
  let s := subject.schema
  let ctx ← topContext
  let newName := new.name
  let sch := ctx.schemaOf s
  if (ctx.inSchema s newName).isSome || (sch.index? newName).isSome then
    fail ("there is already another table or index with this name: " ++ newName)
  refuseInternal subject.name
  if isReservedName newName then fail ("object name reserved for internal use: " ++ newName)
  let t ← match subject with
    | .table _ t => pure t
    | other => fail ("view " ++ other.name ++ " may not be altered")
  let settings ← settings
  let r : TableRename := ⟨s, t, settings.legacyAlterTable, settings.foreignKeys⟩
  let edit := fun (sn : String) (_ : Entry) (st : Statement) (chars : Array Char) =>
    (r.names ctx sn st).map (·.map (renameEdit chars true newName))
  editEntries s (fun e => (e.kind != .index || sameName e.tableName t.name) && !isReservedName e.name)
    (edit s)
  let oldLength := t.name.length
  modifySchema s fun sch => { sch with
    entries := sch.entries.map fun e =>
      if sameName e.tableName t.name && e.kind != .view then
        { e with
          tableName := newName
          name :=
            if e.kind == .table then newName
            else if e.kind == .index && (lowerAscii e.name).startsWith "sqlite_autoindex" then
              "sqlite_autoindex_" ++ newName ++ String.ofList (e.name.toList.drop (oldLength + 17))
            else e.name }
      else e
    rows := sch.rows.map fun (m, rs) => if sameName m t.name then (newName, rs) else (m, rs) }
  if (sch.table? "sqlite_sequence").isSome then
    let counters ← rows s "sqlite_sequence"
    setRows s "sqlite_sequence" (counters.map fun (row : Row) =>
      match (row.values[0]? : Option Value) with
      | some (Value.text m) => if m == t.name then { row with values := row.values.set! 0 (.text newName) } else row
      | _ => row)
  if !isTempName s then
    let temp := ctx.temp
    let entries ← temp.entries.mapM fun e => do
      match e.sql with
      | some sql =>
        if e.kind == .view || e.kind == .trigger then
          let onTable ← if sameName e.tableName t.name then
              match testDefinition ctx "temp" settings.legacyAlterTable sql, e.object with
              | .error m, _ => fail (brokenDefinition e "after rename" m)
              | .ok (), .trigger tr =>
                match ctx.relation none tr.table with
                | .ok (.table ts _) => pure (!isTempName ts)
                | _ => pure false
              | .ok (), _ => pure false
            else pure false
          match readDefinition sql >>= fun st => edit "temp" e st sql.toList.toArray with
          | .ok es =>
            pure { e with sql := some (applyEdits sql es),
                          tableName := if onTable then newName else e.tableName }
          | .error m => fail (brokenDefinition e "" m)
        else pure e
      | none => pure e
    setSchema "temp" { (← get).temp with entries := entries }
  reloadAfter .rename s
  testSchemas "after rename" s

/-- `ALTER TABLE … RENAME COLUMN`: every name that stands for the column, in every stored
definition, becomes the new name. The views and triggers of the temporary schema are edited
after the schema of the table; when that is the temporary schema itself, they are edited
twice, and the second reading finds the new name where the table still has the old one. -/
def renameColumn (schema : Option Ident) (n old new : Ident) : Write Unit := do
  let subject ← alterSubject schema n
  refuseInternal subject.name
  let (s, t) ← match subject with
    | .table s t => pure (s, t)
    | other => fail ("cannot rename columns of view \"" ++ other.name ++ "\"")
  let some col := t.columnIndex? old.name | fail ("no such column: \"" ++ old.raw ++ "\"")
  testSchemas "" s
  fixQuotedStrings s
  let ctx ← topContext
  let r : ColumnRename := ⟨s, t, col, (t.columns[col]?.map (·.name)).getD old.name⟩
  let quote := match new.raw.toList.head? with
    | some c => isQuoteChar c
    | none => false
  let edit := fun (sn : String) (_ : Entry) (st : Statement) (chars : Array Char) =>
    (r.names ctx sn st).map (·.map (renameEdit chars quote new.name))
  editEntries s (fun e => !isReservedName e.name && (e.kind != .index || e.tableName == t.name))
    (edit s)
  -- the views and triggers of the temporary schema are edited once more, also when the table
  -- is itself temporary: the text is then already edited and read against the table as it was
  editEntries "temp" (fun e => e.kind == .view || e.kind == .trigger) (edit "temp")
  reloadAfter .rename s
  testSchemas "after rename" s

/-- `ALTER TABLE … DROP COLUMN`: a column of the primary key, a column with a `UNIQUE`
constraint of its own, or the only column may not go. The column's definition is cut from
the table's text and its values from the rows. -/
def dropColumn (schema : Option Ident) (n c : Ident) : Write Unit := do
  let subject ← alterSubject schema n
  refuseInternal subject.name
  let (s, t) ← match subject with
    | .table s t => pure (s, t)
    | other => fail ("cannot drop column from view \"" ++ other.name ++ "\"")
  let some col := t.columnIndex? c.name | fail ("no such column: \"" ++ c.raw ++ "\"")
  let column := t.columns[col]?.getD default
  if column.keyPosition > 0 then fail ("cannot drop PRIMARY KEY column: \"" ++ c.name ++ "\"")
  if column.uniqueFlag then fail ("cannot drop UNIQUE column: \"" ++ c.name ++ "\"")
  if t.columns.size ≤ 1 then
    fail ("cannot drop column \"" ++ c.name ++ "\": no other columns exist")
  testSchemas "" s
  fixQuotedStrings s
  let sch := (← get).schema s
  let entries ← sch.entries.mapM fun e =>
    match e.sql with
    | some sql =>
      if e.kind == .table && sameName e.tableName t.name then
        match withoutColumnText sql col with
        | .ok text => pure { e with sql := some text }
        | .error m => fail m
      else pure e
    | none => pure e
  setSchema s { sch with entries := entries }
  reloadAfter .dropColumn s
  testSchemas "after drop column" s
  let rs ← rows s t.name
  setRows s t.name (rs.map fun row =>
    { row with values := (row.values.toList.take col ++ row.values.toList.drop (col + 1)).toArray })

/-- Checks the rows of a table after a column was added, as a quick check of the table
would: a null in a `NOT NULL` column, a value of the wrong type in a strict table, then a
failed check, each in the first row that has one. -/
def checkAddedRows (s : String) (t : Table) : Write Unit := do
  let env ← env Site.top
  let ignoreChecks := (← settings).ignoreChecks
  for row in ← rows s t.name do
    for j in List.range t.columns.size do
      if t.rowidColumn != some j then
        let c := t.columns[j]?.getD default
        let v := row.values[j]?.getD .null
        if c.notNull.isSome && v.isNull then fail "NOT NULL constraint failed"
        if t.strict && !strictFits c.declared v then fail "type mismatch on DEFAULT"
    if !ignoreChecks then
      for ck in t.checks do
        let v ← lift (env.eval [t.rowScope s row.values row.rowid] ck.expr)
        if v.truth == some false then fail "CHECK constraint failed"

/-- `ALTER TABLE … ADD COLUMN`: the column may not be part of a key, and a table with rows
refuses a column its rows could not take: a reference with a default, a `NOT NULL` column
without one, a default that is not a value as written, or a stored generated column. The
definition goes after the table's last column, and the rows take the default (or the
generated value). -/
def addColumn (schema : Option Ident) (n : Ident) (c : ColumnDef) (text : String) : Write Unit := do
  let subject ← alterSubject schema n
  let (s, t) ← match subject with
    | .view _ _ => fail "Cannot add a column to a view"
    | .internal _ m => fail ("table " ++ m ++ " may not be altered")
    | .table s t => pure (s, t)
  refuseInternal t.name
  let ctx ← topContext
  let start : Draft := { Draft.start ("sqlite_altertab_" ++ t.name) s with
    columns := t.columns, types := t.columns.map fun _ => DeclaredType.none,
    inKey := t.columns.map fun _ => false }
  let d ← liftMsg (do
    let d ← start.addColumn c
    c.constraints.foldlM (Draft.columnConstraint ctx) d)
  let j := d.columns.size - 1
  let col := d.columns[j]?.getD default
  if d.inKey[j]?.getD false then fail "Cannot add a PRIMARY KEY column"
  if !d.indexes.isEmpty then fail "Cannot add a UNIQUE column"
  let filled := !(← rows s t.name).isEmpty
  match col.generated with
  | none =>
    let dflt : Option Expr := match col.default with
      | some (.lit .null, _) => none
      | other => other.map (·.1)
    if filled then
      if (← settings).foreignKeys && !d.foreignKeys.isEmpty && dflt.isSome then
        fail "Cannot add a REFERENCES column with non-NULL default value"
      if col.notNull.isSome && dflt.isNone then
        fail "Cannot add a NOT NULL column with default value NULL"
      match dflt with
      | some e =>
        if !e.isWrittenValue exprFuel then fail "Cannot add a column with non-constant default"
      | none => pure ()
  | some (_, stored) => if stored && filled then fail "cannot add a STORED column"
  let coltext := trimColumnText text
  let sch := (← get).schema s
  let entries ← sch.entries.mapM fun e =>
    match e.sql with
    | some sql =>
      if e.kind == .table && e.name == t.name then
        match withColumnText sql coltext with
        | .ok text => pure { e with sql := some text }
        | .error m => fail m
      else pure e
    | none => pure e
  setSchema s { sch with entries := entries }
  reloadAfter .addColumn s
  let some t' := ((← get).schema s).table? t.name | fail ("no such table: " ++ t.name)
  let env ← env Site.top
  let added := t'.columns[j]?.getD default
  let rs ← rows s t.name
  let filledRows ← rs.mapM fun row => do
    let v ← defaultOf env added
    let vals := row.values.push (v.withAffinity added.affinity)
    pure { row with values := ← withGenerated env s t' vals row.rowid }
  setRows s t.name filledRows
  if !d.checks.isEmpty || (col.notNull.isSome && col.generated.isSome) || t.strict then
    checkAddedRows s t'

/-- Carries out an `ALTER TABLE`. -/
def alterTable (schema : Option Ident) (n : Ident) : AlterAction → Write Unit
  | .renameTable new => renameTable schema n new
  | .renameColumn old new => renameColumn schema n old new
  | .addColumn c text => addColumn schema n c text
  | .dropColumn c => dropColumn schema n c

end Write

end Payout.Database
