import Payout.Database.Parse.Expr

/-!
# Reading statements

One statement at a time is read from a batch: empty statements (a lone `;`) are skipped, and
a statement must end at a `;` or at the end of the text.

A `CREATE` statement keeps the text the schema stores for the object: `CREATE TABLE`,
`CREATE INDEX`, `CREATE VIEW` or `CREATE TRIGGER` followed by the text from the object's
name to the end of its definition, with `TEMP`, `IF NOT EXISTS` and a schema name left
out. Where that end lies follows the definition: a table ends at its closing parenthesis
(or, with table options, at the statement's end), an index and a view at the statement's
end, a trigger at its `END`.

A column definition takes its constraints one after the other; a `CONSTRAINT` name holds
for every constraint after it, up to the next column or comma.
-/

namespace Payout.Database

namespace Parser

/-- Fuel for the readers of one statement: enough for any nesting its tokens can hold. -/
def fuelOf : Parser Nat := do pure ((← read).tokens.size * 8 + 64)

/-- Reads a conflict resolution. -/
def resolution : Parser Resolution := do
  if ← optKw "ROLLBACK" then pure .rollback
  else if ← optKw "ABORT" then pure .abort
  else if ← optKw "FAIL" then pure .fail
  else if ← optKw "IGNORE" then pure .ignore
  else if ← optKw "REPLACE" then pure .replace
  else unexpected

/-- Reads an optional `ON CONFLICT` clause of a constraint. -/
def onConflict : Parser (Option Resolution) := do
  if (← atKw "ON") && (← atKw2 "CONFLICT") then
    bump
    bump
    some <$> resolution
  else pure none

/-- Reads an optional `OR` resolution of a row statement. -/
def orConflict : Parser (Option Resolution) := do
  if ← optKw "OR" then some <$> resolution else pure none

/-- Reads `IF NOT EXISTS`. -/
def ifNotExists : Parser Bool := do
  if ← optKw "IF" then
    kw "NOT"
    kw "EXISTS"
    pure true
  else pure false

/-- Reads `IF EXISTS`. -/
def ifExists : Parser Bool := do
  if ← optKw "IF" then
    kw "EXISTS"
    pure true
  else pure false

/-- Reads an action of a foreign key. -/
def keyAction : Parser KeyAction := do
  if ← optKw "SET" then
    if ← optKw "NULL" then pure .setNull
    else kw "DEFAULT"; pure .setDefault
  else if ← optKw "CASCADE" then pure .cascade
  else if ← optKw "RESTRICT" then pure .restrict
  else if ← optKw "NO" then kw "ACTION"; pure .noAction
  else unexpected

/-- Reads the clauses of a `REFERENCES` after the parent's name and columns. -/
def refArgs (r : References) : Nat → Parser References
  | 0 => pure r
  | fuel + 1 => do
    if ← optKw "MATCH" then
      let _ ← name
      refArgs r fuel
    else if (← atKw "ON") && !(← atKw2 "CONFLICT") then
      bump
      if ← optKw "DELETE" then
        let a ← keyAction
        refArgs { r with onDelete := a } fuel
      else if ← optKw "UPDATE" then
        let a ← keyAction
        refArgs { r with onUpdate := a } fuel
      else
        kw "INSERT"
        let _ ← keyAction
        refArgs r fuel
    else pure r

/-- Reads `[NOT] DEFERRABLE [INITIALLY DEFERRED|IMMEDIATE]`; gives whether checking is
deferred. -/
def deferClause : Parser (Option Bool) := do
  let neg ← do
    if (← atKw "NOT") && (← atKw2 "DEFERRABLE") then bump; pure true
    else pure false
  if ← optKw "DEFERRABLE" then
    let deferred ← do
      if ← optKw "INITIALLY" then
        if ← optKw "DEFERRED" then pure true
        else kw "IMMEDIATE"; pure false
      else pure false
    pure (some (!neg && deferred))
  else if neg then unexpected
  else pure none

/-- Reads a `REFERENCES` clause after its keyword. -/
def references (fuel : Nat) : Parser References := do
  let parent ← name
  let cols ← if ← atP "(" then eidList fuel else pure []
  refArgs ⟨parent, cols, .noAction, .noAction, false⟩ (← read).tokens.size

/-- The text between two positions with the blanks at its ends taken off. -/
def spanText (start stop : Nat) : Parser String := do
  pure (trimSpan (← textBetween start stop))

/-- Reads a literal term of a `DEFAULT`: `NULL`, a number, a string, a blob or a current
time keyword. -/
def defaultTerm (fuel : Nat) : Parser (Option Expr) := do
  match ← peek with
  | some t =>
    match t.kind with
    | .integer | .float | .separated | .string | .blob => some <$> primary fuel
    | .keyword w =>
      if w == "NULL" || w == "CURRENT_DATE" || w == "CURRENT_TIME" ||
          w == "CURRENT_TIMESTAMP" then some <$> primary fuel
      else pure none
    | _ => pure none
  | none => pure none

/-- Reads the value of a `DEFAULT` and the text it was written with. -/
def defaultValue (fuel : Nat) : Parser (Expr × String) := do
  let some t ← peek | unexpected
  if t.isP "(" then
    bump
    let start ← here
    let e ← exprAt fuel 0
    let stop ← here
    p ")"
    pure (e, ← spanText start stop)
  else if t.isP "+" || t.isP "-" then
    bump
    let some e ← defaultTerm fuel | unexpected
    let stop ← lastStop
    let text ← textBetween t.start stop
    pure (if t.isP "-" then .unary .neg e else e, text)
  else
    match ← defaultTerm fuel with
    | some e => pure (e, t.text)
    | none =>
      if isIdToken t then
        bump
        -- a bare `true` or `false` is the truth value, any other word its text
        let l := lowerAscii t.text
        if t.kind == .ident && (l == "true" || l == "false") then
          pure (.lit (.integer (if l == "true" then 1 else 0)), t.text)
        else pure (.lit (.text (unquote t.text)), t.text)
      else unexpected

/-- Reads the parenthesized expression of a generated column and the word after it. -/
def generatedBody (fuel : Nat) : Parser ColumnConstraintKind := do
  p "("
  let e ← exprAt fuel 0
  p ")"
  match ← peek with
  | some t =>
    if isIdToken t && !t.isKw "INDEXED" then
      bump
      pure (.generated e (some t.text))
    else pure (.generated e none)
  | none => pure (.generated e none)

/-- Reads the constraints of a column definition. -/
def columnConstraints (fuel : Nat) (named : Option String) (acc : List ColumnConstraint) :
    Nat → Parser (List ColumnConstraint)
  | 0 => pure acc.reverse
  | n + 1 => do
    let some t ← peek | pure acc.reverse
    let add := fun (k : ColumnConstraintKind) => columnConstraints fuel named (⟨named, k⟩ :: acc) n
    if t.isKw "CONSTRAINT" then
      bump
      let c ← name
      columnConstraints fuel (some c.name) acc n
    else if t.isKw "DEFAULT" then
      bump
      let (e, text) ← defaultValue fuel
      add (.default e text)
    else if t.isKw "NULL" then
      bump
      let _ ← onConflict
      add .null
    else if t.isKw "NOT" then
      if ← atKw2 "NULL" then
        bump
        bump
        let c ← onConflict
        add (.notNull c)
      else
        let _ ← deferClause
        columnConstraints fuel named acc n
    else if t.isKw "PRIMARY" then
      bump
      kw "KEY"
      let desc ← sortOrder
      let c ← onConflict
      let auto ← optKw "AUTOINCREMENT"
      add (.primaryKey desc c auto)
    else if t.isKw "UNIQUE" then
      bump
      let c ← onConflict
      add (.unique c)
    else if t.isKw "CHECK" then
      bump
      p "("
      let start ← here
      let e ← exprAt fuel 0
      let stop ← here
      p ")"
      add (.check e (dequoteLeading (← spanText start stop)))
    else if t.isKw "REFERENCES" then
      bump
      let r ← references fuel
      add (.references r)
    else if t.isKw "DEFERRABLE" then
      let d ← deferClause
      -- the deferral belongs to the last foreign key of the column
      let acc := match acc with
        | ⟨nm, .references r⟩ :: rest => ⟨nm, .references { r with deferred := d.getD false }⟩ :: rest
        | other => other
      columnConstraints fuel named acc n
    else if t.isKw "COLLATE" then
      bump
      let c ← collationName
      add (.collate c)
    else if t.isKw "GENERATED" then
      bump
      kw "ALWAYS"
      kw "AS"
      let g ← generatedBody fuel
      add g
    else if t.isKw "AS" then
      bump
      let g ← generatedBody fuel
      add g
    else pure acc.reverse

/-- Reads a column definition: its name, its type and its constraints. -/
def columnDef (fuel : Nat) : Parser ColumnDef := do
  let n ← name
  let ty ← typeName
  let cons ← columnConstraints fuel none [] (← read).tokens.size
  pure ⟨n, ty, cons⟩

/-- Reads the terms of a primary key, a uniqueness constraint or an index. -/
def indexedColumns (fuel : Nat) : Parser (List IndexedColumn) := do
  let terms ← orderList fuel
  pure (terms.map fun t =>
    match t.expr with
    | .collate e c => ⟨e, some c, t.desc⟩
    | e => ⟨e, none, t.desc⟩)

/-- Whether the current token starts a table constraint. -/
def atTableConstraint : Parser Bool := do
  pure ((← atKw "CONSTRAINT") || (← atKw "PRIMARY") || (← atKw "UNIQUE") || (← atKw "CHECK") ||
    (← atKw "FOREIGN"))

/-- Reads one table constraint, named by `named` unless it names itself. -/
def tableConstraint (fuel : Nat) (named : Option String) :
    Parser (Option String × Option TableConstraint) := do
  if ← optKw "CONSTRAINT" then
    let c ← name
    pure (some c.name, none)
  else if ← optKw "PRIMARY" then
    kw "KEY"
    p "("
    let cols ← indexedColumns fuel
    let auto ← optKw "AUTOINCREMENT"
    p ")"
    let c ← onConflict
    pure (named, some ⟨named, .primaryKey cols c auto⟩)
  else if ← optKw "UNIQUE" then
    p "("
    let cols ← indexedColumns fuel
    p ")"
    let c ← onConflict
    pure (named, some ⟨named, .unique cols c⟩)
  else if ← optKw "CHECK" then
    p "("
    let start ← here
    let e ← exprAt fuel 0
    let stop ← here
    p ")"
    let _ ← onConflict
    pure (named, some ⟨named, .check e (dequoteLeading (← spanText start stop))⟩)
  else
    kw "FOREIGN"
    kw "KEY"
    let cols ← eidList fuel
    kw "REFERENCES"
    let r ← references fuel
    let d ← deferClause
    pure (named, some ⟨named, .foreignKey cols { r with deferred := d.getD false }⟩)

/-- Reads the table constraints, separated by commas or not. -/
def tableConstraints (fuel : Nat) (named : Option String) (acc : List TableConstraint) :
    Nat → Parser (List TableConstraint)
  | 0 => pure acc.reverse
  | n + 1 => do
    let (named, c) ← tableConstraint fuel named
    let acc := match c with
      | some c => c :: acc
      | none => acc
    if ← optP "," then
      if ← atTableConstraint then tableConstraints fuel none acc n
      else unexpected
    else if ← atTableConstraint then tableConstraints fuel named acc n
    else pure acc.reverse

/-- Reads further column definitions after a comma; stops at the first table constraint,
giving the position of the comma before it. -/
def moreColumns (fuel : Nat) (acc : List ColumnDef) :
    Nat → Parser (List ColumnDef × Option Nat)
  | 0 => pure (acc.reverse, none)
  | n + 1 => do
    if ← atP "," then
      let commaAt ← here
      bump
      if ← atTableConstraint then pure (acc.reverse, some commaAt)
      else
        let c ← columnDef fuel
        moreColumns fuel (c :: acc) n
    else pure (acc.reverse, none)

/-- Reads the options after a table's definition: `WITHOUT ROWID` and `STRICT`. -/
def tableOptions (withoutRowid strict : Bool) : Nat → Parser (Bool × Bool)
  | 0 => pure (withoutRowid, strict)
  | n + 1 => do
    let (w, s) ← do
      if ← optKw "WITHOUT" then
        let o ← name
        if o.raw.length == 5 && lowerAscii o.raw == "rowid" then pure (true, strict)
        else failWith ("unknown table option: " ++ o.raw)
      else
        let o ← name
        if o.raw.length == 6 && lowerAscii o.raw == "strict" then pure (withoutRowid, true)
        else failWith ("unknown table option: " ++ o.raw)
    if ← optP "," then tableOptions w s n else pure (w, s)

/-- Reads a `CREATE TABLE` after `TABLE`. -/
def createTable (temp : Bool) : Parser Statement := do
  let fuel ← fuelOf
  let ine ← ifNotExists
  let (schema, n) ← qualifiedName
  if let some m := (← read).checkNewTable temp schema n ine then failWith m
  if ← optKw "AS" then
    let q ← select fuel
    pure (.createTable temp ine schema n (.asSelect q) "")
  else
    p "("
    let first ← columnDef fuel
    let (cols, commaAt) ← moreColumns fuel [first] (← read).tokens.size
    let cons ← match commaAt with
      | some _ => tableConstraints fuel none [] (← read).tokens.size
      | none => pure []
    let closeAt ← here
    p ")"
    let closeStop ← lastStop
    let atOption ← match ← peek with
      | some t => pure (!t.isP ";")
      | none => pure false
    let (w, s) ← if atOption then tableOptions false false (← read).tokens.size else pure (false, false)
    let stop ← if atOption then here else pure closeStop
    let sql := "CREATE TABLE " ++ (← textBetween n.start stop)
    pure (.createTable temp ine schema n (.columns cols cons w s (commaAt.getD closeAt)) sql)

/-- Reads a `CREATE INDEX` after `INDEX`. -/
def createIndex (unique : Bool) : Parser Statement := do
  let fuel ← fuelOf
  let ine ← ifNotExists
  let (schema, n) ← qualifiedName
  kw "ON"
  let table ← name
  p "("
  let cols ← indexedColumns fuel
  p ")"
  let condition ← if ← optKw "WHERE" then some <$> exprAt fuel 0 else pure none
  let stop ← here
  let sql := "CREATE " ++ (if unique then "UNIQUE " else "") ++ "INDEX " ++ (← textBetween n.start stop)
  pure (.createIndex unique ine schema n table cols condition sql)

/-- Reads a `CREATE VIEW` after `VIEW`. -/
def createView (temp : Bool) : Parser Statement := do
  let fuel ← fuelOf
  let ine ← ifNotExists
  let (schema, n) ← qualifiedName
  let cols ← if ← atP "(" then eidList fuel else pure []
  kw "AS"
  let q ← select fuel
  let stop ← here
  let text := (String.ofList ((← textBetween n.start stop).toList.reverse.dropWhile isSpanBlank).reverse)
  pure (.createView temp ine schema n cols q ("CREATE VIEW " ++ text))

/-- Reads the name of a table a trigger's statement writes to; it may not be qualified. -/
def triggerTarget : Parser Ident := do
  let n ← name
  if ← atP "." then
    failWith "qualified table names are not allowed on INSERT, UPDATE, and DELETE statements within triggers"
  pure n

/-- Refuses `INDEXED BY` and `NOT INDEXED` in a trigger's statement. -/
def noIndexedBy : Parser Unit := do
  if ← atKw "INDEXED" then
    bump
    kw "BY"
    let _ ← name
    failWith "the INDEXED BY clause is not allowed on UPDATE or DELETE statements within triggers"
  else if (← atKw "NOT") && (← atKw2 "INDEXED") then
    bump
    bump
    failWith "the NOT INDEXED clause is not allowed on UPDATE or DELETE statements within triggers"

/-- Reads the assignments of an `UPDATE` or an upsert. -/
def setList (fuel : Nat) : Nat → Parser (List (List Ident × Expr))
  | 0 => pure []
  | n + 1 => do
    let targets ← if ← atP "(" then nameList else (fun x => [x]) <$> name
    p "="
    let e ← exprAt fuel 0
    if ← optP "," then
      let rest ← setList fuel n
      pure ((targets, e) :: rest)
    else pure [(targets, e)]

/-- Reads an optional `RETURNING` clause. -/
def returning (fuel : Nat) : Parser Returning := do
  if ← optKw "RETURNING" then resultColumns fuel else pure []

/-- Reads the upserts of an `INSERT`, and its `RETURNING` clause. -/
def upserts (fuel : Nat) (acc : List Upsert) : Nat → Parser (List Upsert × Returning)
  | 0 => pure (acc.reverse, [])
  | n + 1 => do
    if (← atKw "ON") && (← atKw2 "CONFLICT") then
      bump
      bump
      let (target, targetWhere) ← do
        if ← optP "(" then
          let cols ← indexedColumns fuel
          p ")"
          let w ← if ← optKw "WHERE" then some <$> exprAt fuel 0 else pure none
          pure (cols, w)
        else pure ([], none)
      kw "DO"
      let action ← do
        if ← optKw "NOTHING" then pure none
        else
          kw "UPDATE"
          kw "SET"
          let sets ← setList fuel (← read).tokens.size
          let w ← if ← optKw "WHERE" then some <$> exprAt fuel 0 else pure none
          pure (some (sets, w))
      let u : Upsert := ⟨target, targetWhere, action⟩
      if target.isEmpty then
        let r ← returning fuel
        pure ((u :: acc).reverse, r)
      else upserts fuel (u :: acc) n
    else
      let r ← returning fuel
      pure (acc.reverse, r)

/-- Reads the source of an `INSERT`: a `VALUES` list, a query, or `DEFAULT VALUES`. -/
def insertSource (fuel : Nat) : Parser InsertSource := do
  if (← atKw "DEFAULT") && (← atKw2 "VALUES") then
    bump
    bump
    pure .defaults
  else
    let q ← select fuel
    match q with
    | .mk [] _ (.core (.values rows)) [] none none => pure (.values rows)
    | q => pure (.query q)

/-- Reads a table name with an optional schema and `AS` alias. -/
def aliasedTable : Parser (Option Ident × Ident × Option Ident) := do
  let (schema, n) ← qualifiedName
  let al ← if ← optKw "AS" then some <$> name else pure none
  pure (schema, n, al)

/-- Reads an `INSERT` or `REPLACE` after its first keyword, in a trigger or not. -/
def insertRest (ctes : List Cte) (resolution : Option Resolution) (inTrigger : Bool) :
    Parser Insert := do
  let fuel ← fuelOf
  kw "INTO"
  let (schema, n, al) ← if inTrigger then (fun t => (none, t, none)) <$> triggerTarget
    else aliasedTable
  let cols ← if ← atP "(" then some <$> nameList else pure none
  let source ← insertSource fuel
  let (ups, ret) ← match source with
    | .defaults => do pure ([], ← returning fuel)
    | _ => upserts fuel [] (← read).tokens.size
  if inTrigger && !ret.isEmpty then failWith "cannot use RETURNING in a trigger"
  pure ⟨ctes, resolution, schema, n, al, cols, source, ups, ret⟩

/-- Reads an `UPDATE` after its keyword, in a trigger or not. -/
def updateRest (ctes : List Cte) (inTrigger : Bool) : Parser Update := do
  let fuel ← fuelOf
  let r ← orConflict
  let (schema, n, al) ← if inTrigger then (fun t => (none, t, none)) <$> triggerTarget
    else aliasedTable
  if inTrigger then noIndexedBy
  else if ← optKw "INDEXED" then
    kw "BY"
    let _ ← name
  else if (← atKw "NOT") && (← atKw2 "INDEXED") then
    bump
    bump
  kw "SET"
  let sets ← setList fuel (← read).tokens.size
  let source ← if ← optKw "FROM" then some <$> fromClause fuel else pure none
  let condition ← if ← optKw "WHERE" then some <$> exprAt fuel 0 else pure none
  let ret ← if inTrigger then pure [] else returning fuel
  pure ⟨ctes, r, schema, n, al, sets, source, condition, ret, [], none⟩

/-- Reads a `DELETE` after its keyword, in a trigger or not. -/
def deleteRest (ctes : List Cte) (inTrigger : Bool) : Parser Delete := do
  let fuel ← fuelOf
  kw "FROM"
  let (schema, n, al) ← if inTrigger then (fun t => (none, t, none)) <$> triggerTarget
    else aliasedTable
  if inTrigger then noIndexedBy
  else if ← optKw "INDEXED" then
    kw "BY"
    let _ ← name
  else if (← atKw "NOT") && (← atKw2 "INDEXED") then
    bump
    bump
  let condition ← if ← optKw "WHERE" then some <$> exprAt fuel 0 else pure none
  let ret ← if inTrigger then pure [] else returning fuel
  pure ⟨ctes, schema, n, al, condition, ret, [], none⟩

/-- Reads the statements of a trigger's program, each ended by `;`, up to `END`. -/
def triggerSteps (acc : List TriggerStep) : Nat → Parser (List TriggerStep)
  | 0 => pure acc.reverse
  | n + 1 => do
    if !acc.isEmpty && (← atKw "END") then return acc.reverse
    let fuel ← fuelOf
    let step ← do
      if ← optKw "UPDATE" then TriggerStep.update <$> updateRest [] true
      else if ← optKw "DELETE" then TriggerStep.delete <$> deleteRest [] true
      else if ← optKw "INSERT" then
        let r ← orConflict
        TriggerStep.insert <$> insertRest [] r true
      else if ← optKw "REPLACE" then TriggerStep.insert <$> insertRest [] (some .replace) true
      else TriggerStep.select <$> select fuel
    p ";"
    triggerSteps (step :: acc) n

/-- Reads a `CREATE TRIGGER` after `TRIGGER`. -/
def createTrigger (temp : Bool) : Parser Statement := do
  let fuel ← fuelOf
  let ine ← ifNotExists
  let (schema, n) ← qualifiedName
  let time ← do
    if ← optKw "BEFORE" then pure TriggerTime.before
    else if ← optKw "AFTER" then pure TriggerTime.after
    else if ← optKw "INSTEAD" then kw "OF"; pure TriggerTime.insteadOf
    else pure TriggerTime.before
  let event ← do
    if ← optKw "DELETE" then pure TriggerEvent.delete
    else if ← optKw "INSERT" then pure TriggerEvent.insert
    else
      kw "UPDATE"
      if ← optKw "OF" then
        let first ← name
        let rec more (k : Nat) (acc : List Ident) : Parser (List Ident) := do
          match k with
          | 0 => pure acc.reverse
          | k + 1 =>
            if ← optP "," then
              let c ← name
              more k (c :: acc)
            else pure acc.reverse
        let cols ← more (← read).tokens.size [first]
        pure (TriggerEvent.update cols)
      else pure (TriggerEvent.update [])
  kw "ON"
  let (_, table) ← qualifiedName
  if ← optKw "FOR" then
    kw "EACH"
    kw "ROW"
  let condition ← if ← optKw "WHEN" then some <$> exprAt fuel 0 else pure none
  kw "BEGIN"
  let steps ← triggerSteps [] (← read).tokens.size
  kw "END"
  let stop ← lastStop
  let sql := "CREATE TRIGGER " ++ (← textBetween n.start stop)
  pure (.createTrigger temp ine schema ⟨n, time, event, table, condition, steps⟩ sql)

/-- Skips the arguments of a virtual table, balancing parentheses. -/
def skipArguments : Nat → Nat → Parser Unit
  | 0, _ => pure ()
  | n + 1, depth => do
    let some t ← peek | unexpected
    if t.isP "(" then bump; skipArguments n (depth + 1)
    else if t.isP ")" then
      if depth == 0 then pure () else bump; skipArguments n (depth - 1)
    else if t.isP ";" then unexpected
    else bump; skipArguments n depth

/-- Reads a `CREATE` statement after `CREATE`. -/
def create : Parser Statement := do
  let temp ← do
    if (← optKw "TEMP") || (← optKw "TEMPORARY") then pure true else pure false
  if ← optKw "TABLE" then createTable temp
  else if ← optKw "VIEW" then createView temp
  else if ← optKw "TRIGGER" then createTrigger temp
  else if temp then unexpected
  else if ← optKw "UNIQUE" then
    kw "INDEX"
    createIndex true
  else if ← optKw "INDEX" then createIndex false
  else if ← optKw "VIRTUAL" then
    kw "TABLE"
    let ine ← ifNotExists
    let (schema, n) ← qualifiedName
    kw "USING"
    let m ← name
    if ← optP "(" then
      skipArguments (← read).tokens.size 0
      p ")"
    pure (.createVirtual ine schema n m)
  else unexpected

/-- Reads a `DROP` statement after `DROP`. -/
def drop : Parser Statement := do
  let kind ← do
    if ← optKw "TABLE" then pure ObjectKind.table
    else if ← optKw "INDEX" then pure ObjectKind.index
    else if ← optKw "VIEW" then pure ObjectKind.view
    else kw "TRIGGER"; pure ObjectKind.trigger
  let ie ← ifExists
  let (schema, n) ← qualifiedName
  pure (.drop kind ie schema n)

/-- Reads an `ALTER TABLE` statement after `ALTER`. -/
def alter : Parser Statement := do
  kw "TABLE"
  let (schema, table) ← qualifiedName
  if ← optKw "RENAME" then
    if ← optKw "TO" then
      let n ← name
      pure (.alter schema table (.renameTable n))
    else
      let _ ← optKw "COLUMN"
      let old ← name
      kw "TO"
      let new ← name
      pure (.alter schema table (.renameColumn old new))
  else if ← optKw "ADD" then
    let _ ← optKw "COLUMN"
    let c ← columnDef (← fuelOf)
    let stop ← match ← peek with
      | some t => if t.isP ";" then pure t.stop else lastStop
      | none => pure (← read).chars.size
    pure (.alter schema table (.addColumn c (← textBetween c.name.start stop)))
  else
    kw "DROP"
    let _ ← optKw "COLUMN"
    let c ← name
    pure (.alter schema table (.dropColumn c))

/-- Reads a `PRAGMA` statement after `PRAGMA`; a value keeps its text, with quotes taken off
a name or string and a leading `-` kept. -/
def pragma : Parser Statement := do
  let (schema, n) ← qualifiedName
  let readValue : Parser String := do
    let some t ← peek | unexpected
    if t.isP "-" then
      bump
      let some u ← peek | unexpected
      if u.kind == .integer || u.kind == .float then
        bump
        pure ("-" ++ u.text)
      else unexpected
    else if t.isP "+" then
      bump
      let some u ← peek | unexpected
      if u.kind == .integer || u.kind == .float then
        bump
        pure u.text
      else unexpected
    else if t.kind == .integer || t.kind == .float then
      bump
      pure t.text
    else if t.isKw "ON" || t.isKw "DELETE" || t.isKw "DEFAULT" then
      bump
      pure t.text
    else (·.name) <$> name
  if ← optP "=" then
    let v ← readValue
    pure (.pragma schema n (some v))
  else if ← optP "(" then
    let v ← readValue
    p ")"
    pure (.pragma schema n (some v))
  else pure (.pragma schema n none)

/-- Reads `TRANSACTION [name]` after a transaction keyword. -/
def transactionWord : Parser Unit := do
  if ← optKw "TRANSACTION" then
    if ← atName then
      let _ ← name

/-- Reads a statement that starts with `WITH`: a query, or a row statement. -/
def withStatement : Parser Statement := do
  let fuel ← fuelOf
  let start ← get
  bump
  let _ ← optKw "RECURSIVE"
  let ctes ← cteList fuel
  if (← atKw "SELECT") || (← atKw "VALUES") then
    set start
    Statement.select <$> select fuel
  else if ← optKw "INSERT" then
    let r ← orConflict
    Statement.insert <$> insertRest ctes r false
  else if ← optKw "REPLACE" then Statement.insert <$> insertRest ctes (some .replace) false
  else if ← optKw "UPDATE" then Statement.update <$> updateRest ctes false
  else if ← optKw "DELETE" then Statement.delete <$> deleteRest ctes false
  else unexpected

/-- Reads a statement, without `EXPLAIN`. -/
def command : Parser Statement := do
  let fuel ← fuelOf
  let some t ← peek | unexpected
  match t.kind with
  | .keyword w =>
    if w == "SELECT" || w == "VALUES" then Statement.select <$> select fuel
    else if w == "WITH" then withStatement
    else if w == "INSERT" then
      bump
      let r ← orConflict
      Statement.insert <$> insertRest [] r false
    else if w == "REPLACE" then
      bump
      Statement.insert <$> insertRest [] (some .replace) false
    else if w == "UPDATE" then bump; Statement.update <$> updateRest [] false
    else if w == "DELETE" then bump; Statement.delete <$> deleteRest [] false
    else if w == "CREATE" then bump; create
    else if w == "DROP" then bump; drop
    else if w == "ALTER" then bump; alter
    else if w == "PRAGMA" then bump; pragma
    else if w == "BEGIN" then
      bump
      let kind ← do
        if ← optKw "DEFERRED" then pure BeginKind.deferred
        else if ← optKw "IMMEDIATE" then pure BeginKind.immediate
        else if ← optKw "EXCLUSIVE" then pure BeginKind.exclusive
        else pure BeginKind.deferred
      transactionWord
      pure (.begin kind)
    else if w == "COMMIT" || w == "END" then
      bump
      transactionWord
      pure .commit
    else if w == "ROLLBACK" then
      bump
      transactionWord
      if ← optKw "TO" then
        let _ ← optKw "SAVEPOINT"
        let n ← name
        pure (.rollback (some n))
      else pure (.rollback none)
    else if w == "SAVEPOINT" then
      bump
      Statement.savepoint <$> name
    else if w == "RELEASE" then
      bump
      let _ ← optKw "SAVEPOINT"
      Statement.release <$> name
    else if w == "ANALYZE" || w == "REINDEX" then
      bump
      let target ← do
        if ← atName then
          let (s, n) ← qualifiedName
          pure (match s with
            | some s => [s, n]
            | none => [n])
        else pure []
      pure (if w == "ANALYZE" then .analyze target else .reindex target)
    else if w == "VACUUM" then
      bump
      let schema ← if ← atName then some <$> name else pure none
      if ← optKw "INTO" then
        let _ ← exprAt fuel 0
      pure (.vacuum schema)
    else if w == "ATTACH" then
      bump
      let _ ← optKw "DATABASE"
      let file ← exprAt fuel 0
      kw "AS"
      let schema ← exprAt fuel 0
      if ← optKw "KEY" then
        let _ ← exprAt fuel 0
      pure (.attach file schema)
    else if w == "DETACH" then
      bump
      let _ ← optKw "DATABASE"
      Statement.detach <$> exprAt fuel 0
    else unexpected
  | _ => unexpected

/-- Reads a statement, with an optional `EXPLAIN` or `EXPLAIN QUERY PLAN` in front, and
checks that it ends at a `;` or at the end of the text. -/
def statement : Parser Statement := do
  let s ← do
    if ← optKw "EXPLAIN" then
      if (← atKw "QUERY") && (← atKw2 "PLAN") then
        bump
        bump
        Statement.explain true <$> command
      else Statement.explain false <$> command
    else command
  if !(← atEnd) then unexpected
  pure s

/-- Skips empty statements; gives whether a statement follows. -/
def skipEmpty : Nat → Parser Bool
  | 0 => pure false
  | n + 1 => do
    match ← peek with
    | none => pure false
    | some t => if t.isP ";" then bump; skipEmpty n else pure true

end Parser

end Payout.Database
