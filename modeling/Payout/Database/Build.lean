import Payout.Database.Eval

/-!
# Defining tables and indexes

A `CREATE TABLE` is taken in the order it is written: each column with its constraints, then
the table constraints, and last the checks on the whole definition.

* A column's type decides its affinity; a type written exactly `INTEGER` on a column that
  is the whole primary key (not descending) makes that column the row identifier.
* `PRIMARY KEY` and `UNIQUE` constraints make indexes named `sqlite_autoindex_T_N`, unless
  an index on the same columns with the same collations was made already; their terms must
  be columns.
* `CHECK` constraints are named by their constraint name or by their text, unquoted.
* Defaults must be constant; foreign keys must name existing columns of the table.
* At the end: a strict table needs a standard type on every column, a table without row
  identifiers needs a primary key (whose columns become `NOT NULL`), and the expressions of
  `CHECK` constraints and generated columns must resolve against the table alone.

An index made by `CREATE INDEX` resolves its condition and then its terms against its
table; a unique index is refused when rows already break it.

The indexes of a table are checked newest first, except that those resolving conflicts by
`REPLACE` come after all others (`Schema.indexesOf`).
-/

namespace Payout.Database

/-! ### Types, collations and names -/

/-- The type names a strict table allows, which also decide the row identifier. -/
def standardTypes : List String := ["ANY", "BLOB", "INT", "INTEGER", "REAL", "TEXT"]

/-- A column's type as the table keeps it: none, one of the standard types (kept in upper
case, whatever case it was written in), or another type name. -/
inductive DeclaredType where
  | none
  | standard (name : String)
  | custom (name : String)
deriving DecidableEq, Inhabited

/-- The text a declared type is shown as. -/
def DeclaredType.text : DeclaredType → String
  | .none => ""
  | .standard n => n
  | .custom n => n

/-- The affinity a declared type gives: blob without a type, else the affinity of its name. -/
def DeclaredType.affinity : DeclaredType → Affinity
  | .none => .blob
  | .standard n => Affinity.ofTypeName n
  | .custom n => Affinity.ofTypeName n

/-- The characters a declared type's words are separated by. -/
def isTypeBlank (c : Char) : Bool :=
  c == ' ' || c == '\t' || c == '\n' || c == '\x0b' || c == '\x0c' || c == '\r'

/-- The text before a trailing word (any case) and the blanks before it, when the text ends
with that word. -/
def withoutTrailingWord (w : String) (cs : List Char) : Option (List Char) :=
  let n := cs.length - w.length
  if cs.length ≥ w.length && upperAscii (String.ofList (cs.drop n)) == w then
    some ((cs.take n).reverse.dropWhile isTypeBlank).reverse
  else Option.none

/-- A type text of at least sixteen bytes that ends in `ALWAYS` (read as a type word) loses it,
and then a `GENERATED` before it: those words open a generated column's definition. -/
def typeWithoutGenerated (t : String) : List Char :=
  if t.utf8ByteSize < 16 then t.toList
  else
    match withoutTrailingWord "ALWAYS" t.toList with
    | some rest =>
      if (String.ofList rest).utf8ByteSize ≥ 9 then (withoutTrailingWord "GENERATED" rest).getD rest
      else rest
    | Option.none => t.toList

/-- A text that starts with a quote and has none inside loses its first and last character. -/
def withoutEnclosingQuotes (cs : List Char) : List Char :=
  match cs with
  | q :: rest =>
    if isQuoteChar q && rest.length ≥ 1 && !((rest.take (rest.length - 1)).any isQuoteChar) then
      rest.take (rest.length - 1)
    else cs
  | [] => cs

/-- The type a column keeps of the type text written for it. A trailing `GENERATED ALWAYS`
goes; a text of three bytes or more loses enclosing quotes; a standard type name (any case)
is that standard type; any other keeps its leading quoted run. -/
def DeclaredType.ofText : Option String → DeclaredType
  | Option.none => .none
  | some t =>
    let cs := typeWithoutGenerated t
    if cs.isEmpty then .none
    else
      let cs := if (String.ofList cs).utf8ByteSize ≥ 3 then withoutEnclosingQuotes cs else cs
      let u := upperAscii (String.ofList cs)
      if standardTypes.contains u then .standard u
      else .custom (dequoteLeading (String.ofList cs))

/-- The collation of a name, or the error naming it. -/
def collationNamed (name : String) : Except String Collation :=
  match Collation.ofName? name with
  | some c => .ok c
  | none => .error ("no such collation sequence: " ++ name)

/-- Whether a name is reserved for the database's own objects: it starts with `sqlite_`. -/
def isReservedName (n : String) : Bool := (lowerAscii n).startsWith "sqlite_"

/-- A string written where a name is expected stands for that name. -/
def stringToName : Expr → Expr
  | .lit (.text s) => .column none none (Ident.plain s)
  | e => e

/-- Whether an expression is constant as a default value must be: no column (other than
`true` and `false`), parameter, subquery, `RAISE` or window call in it. -/
def Expr.isConstant : Nat → Expr → Bool
  | 0, _ => false
  | fuel + 1, e =>
    match e with
    | .column none none n => !n.doubleQuoted && isTruthName n.name
    | .column _ _ _ | .variable _ | .raise _ _ => false
    | .exists _ | .subquery _ | .inSelect _ _ _ | .inTable _ _ _ _ => false
    | .call _ _ _ _ _ (some _) => false
    | _ => e.children.all (Expr.isConstant fuel)

/-- Resolves an expression of a table's definition against the table alone. -/
def resolveOwn (ctx : Context) (scope : ScopeShape) (place : Place) (e : Expr) :
    Except String Unit :=
  (checkWhole exprFuel ctx [scope] ⟨place, .refused, false⟩ e).finish

/-- The column a resolved expression reads, when it is a plain column reference. -/
def plainColumn (scope : ScopeShape) (rowidColumn : Option Nat) : Expr → Option Nat
  | .column s t n =>
    match lookupName [scope] (s.map (·.name)) (t.map (·.name)) n.name n.doubleQuoted with
    | .ok (.column _ _ j) => some j
    | .ok (.rowid _ _) => rowidColumn
    | _ => none
  | _ => none

/-! ### A table being defined -/

/-- A table while its definition is read: its columns, which of them are in the primary
key, its row identifier column, its constraints, and its indexes in creation order with
whether each was given a conflict resolution. -/
structure Draft where
  name : String
  schema : String
  columns : Array Column
  types : Array DeclaredType
  inKey : Array Bool
  hasPrimaryKey : Bool
  rowidColumn : Option Nat
  rowidConflict : Resolution
  autoincrement : Bool
  withoutRowid : Bool
  checks : List Check
  foreignKeys : List ForeignKey
  indexes : List (Index × Bool)
deriving Inhabited

namespace Draft

/-- A table with no columns yet. -/
def start (name schema : String) : Draft :=
  ⟨name, schema, #[], #[], #[], false, none, .abort, false, false, [], [], []⟩

/-- The scope the table's own expressions are resolved in. -/
def scope (d : Draft) : ScopeShape :=
  ⟨#[⟨d.name, some d.schema, d.columns.map Column.shape, !d.withoutRowid, [], false,
    d.rowidColumn, some d.name, false⟩], [], []⟩

/-- The place of a column of a name. -/
def columnIndex? (d : Draft) (n : String) : Option Nat :=
  d.columns.findIdx? fun c => sameName c.name n

/-- Changes a column. -/
def modifyColumn (d : Draft) (j : Nat) (f : Column → Column) : Draft :=
  { d with columns := d.columns.modify j f }

/-- Marks a column as part of the primary key. -/
def markKey (d : Draft) (j : Nat) : Except String Draft := do
  let d := { d with inKey := d.inKey.set! j true }
  match d.columns[j]? with
  | some c =>
    if c.generated.isSome then throw "generated columns cannot be part of the PRIMARY KEY"
    pure d
  | none => pure d

/-- Adds a column. -/
def addColumn (d : Draft) (c : ColumnDef) : Except String Draft := do
  if d.columns.any (sameName ·.name c.name.name) then
    throw ("duplicate column name: " ++ c.name.name)
  let ty := DeclaredType.ofText c.type
  let col : Column := ⟨c.name.name, ty.text, ty.affinity, none, none, .binary, 0, none, false⟩
  pure { d with columns := d.columns.push col, types := d.types.push ty,
                inKey := d.inKey.push false }

/-- Makes the index of a `PRIMARY KEY` or `UNIQUE` constraint, unless one on the same columns
with the same collations exists; then the conflict resolutions are merged. -/
def addKeyIndex (ctx : Context) (d : Draft) (terms : List IndexedColumn)
    (conflict : Option Resolution) (origin : IndexOrigin) : Except String Draft := do
  let name := "sqlite_autoindex_" ++ d.name ++ "_" ++ toString (d.indexes.length + 1)
  let scope := d.scope
  let keys ← terms.mapM fun term => do
    let e := stringToName term.expr
    resolveOwn ctx scope .indexExpr e
    match plainColumn scope d.rowidColumn e with
    | some j =>
      let col := d.columns[j]?.getD default
      let coll ← match term.collation with
        | some c => collationNamed c
        | none => pure col.collation
      pure (⟨.column none none (Ident.plain col.name), some col.name, coll, term.desc⟩ : IndexKey)
    | none => throw "expressions prohibited in PRIMARY KEY and UNIQUE constraints"
  let same := fun (ix : Index) =>
    ix.keys.length == keys.length &&
      (ix.keys.zip keys).all fun (a, b) =>
        (a.column.map lowerAscii) == (b.column.map lowerAscii) && a.collation == b.collation
  match d.indexes.findIdx? (fun (ix, _) => same ix) with
  | some i =>
    let (ix, explicit) := d.indexes[i]?.getD default
    let given : Option Resolution := if explicit then some ix.onConflict else none
    if given != conflict && given.isSome && conflict.isSome then
      throw "conflicting ON CONFLICT clauses specified"
    let ix := if !explicit && conflict.isSome then { ix with onConflict := conflict.getD .abort } else ix
    let ix := if origin == .primaryKey then { ix with origin := .primaryKey } else ix
    pure { d with indexes := d.indexes.set i (ix, explicit || conflict.isSome) }
  | none =>
    let ix : Index := ⟨name, d.name, keys, true, origin, none, conflict.getD .abort⟩
    pure { d with indexes := d.indexes ++ [(ix, conflict.isSome)] }

/-- Takes a `PRIMARY KEY` constraint: on the last column (`terms` none) or on the columns
listed. A single `INTEGER` column, not descending, becomes the row identifier; otherwise
the key gets an index. -/
def addPrimaryKey (ctx : Context) (d : Draft) (terms : Option (List IndexedColumn))
    (conflict : Option Resolution) (auto desc : Bool) : Except String Draft := do
  if d.hasPrimaryKey then throw ("table \"" ++ d.name ++ "\" has more than one primary key")
  let d := { d with hasPrimaryKey := true }
  let last := d.columns.size - 1
  let (d, pcol, count) ← match terms with
    | none => do
      let d ← d.markKey last
      pure (d, some last, 1)
    | some ts =>
      ts.foldlM (fun (acc : Draft × Option Nat × Nat) t => do
        let (dd, pc, k) := acc
        match stringToName t.expr with
        | .column none none n =>
          match dd.columnIndex? n.name with
          | some j =>
            let dd ← dd.markKey j
            pure (dd, some j, k + 1)
          | none => pure (dd, pc, k + 1)
        | _ => pure (dd, pc, k + 1)) (d, none, 0)
  match pcol with
  | some j =>
    if count == 1 && d.types[j]? == some (.standard "INTEGER") && !desc then
      return { d with rowidColumn := some j, rowidConflict := conflict.getD .abort,
                      autoincrement := auto }
  | none => pure ()
  if auto then throw "AUTOINCREMENT is only allowed on an INTEGER PRIMARY KEY"
  let ts := terms.getD [⟨.column none none (Ident.plain ((d.columns[last]?.map (·.name)).getD "")),
    none, desc⟩]
  d.addKeyIndex ctx ts conflict .primaryKey

/-- Takes a constraint written on the last column. -/
def columnConstraint (ctx : Context) (d : Draft) (cc : ColumnConstraint) : Except String Draft := do
  let j := d.columns.size - 1
  let col := d.columns[j]?.getD default
  match cc.kind with
  | .primaryKey desc conflict auto => d.addPrimaryKey ctx none conflict auto desc
  | .notNull conflict => pure (d.modifyColumn j fun c => { c with notNull := some (conflict.getD .abort) })
  | .null => pure d
  | .unique conflict =>
    let d := d.modifyColumn j fun c => { c with uniqueFlag := true }
    d.addKeyIndex ctx [⟨.column none none (Ident.plain col.name), none, false⟩] conflict .unique
  | .check e text => pure { d with checks := d.checks ++ [⟨cc.name.getD text, e⟩] }
  | .default e text =>
    if !e.isConstant exprFuel then
      throw ("default value of column [" ++ col.name ++ "] is not constant")
    if col.generated.isSome then throw "cannot use DEFAULT on a generated column"
    pure (d.modifyColumn j fun c => { c with default := some (e, text) })
  | .collate name => do
    let coll ← collationNamed name
    let d := d.modifyColumn j fun c => { c with collation := coll }
    -- an index already made on this column alone takes the collation
    pure { d with indexes := d.indexes.map fun (ix, ex) =>
      match ix.keys with
      | [k] => if (k.column.map (sameName · col.name)).getD false then
          ({ ix with keys := [{ k with collation := coll }] }, ex) else (ix, ex)
      | _ => (ix, ex) }
  | .references r =>
    if r.columns.length > 1 then
      throw ("foreign key on " ++ col.name ++ " should reference only one column of table " ++
        r.parent.raw)
    let fk : ForeignKey := ⟨[col.name], r.parent.name, r.columns.map (·.name), r.onDelete,
      r.onUpdate, r.deferred⟩
    pure { d with foreignKeys := d.foreignKeys ++ [fk] }
  | .generated e storage =>
    if col.default.isSome then throw ("error in generated column \"" ++ col.name ++ "\"")
    let stored ← match storage with
      | none => pure false
      | some w =>
        if lowerAscii w == "virtual" then pure false
        else if lowerAscii w == "stored" then pure true
        else throw ("error in generated column \"" ++ col.name ++ "\"")
    if d.inKey[j]?.getD false then throw "generated columns cannot be part of the PRIMARY KEY"
    let e := match e with
      | .column none none _ => .unary .pos e
      | other => other
    pure (d.modifyColumn j fun c => { c with generated := some (e, stored) })

/-- Takes a constraint written after the columns. -/
def tableConstraint (ctx : Context) (d : Draft) (tc : TableConstraint) : Except String Draft := do
  match tc.kind with
  | .primaryKey cols conflict auto => d.addPrimaryKey ctx (some cols) conflict auto false
  | .unique cols conflict => d.addKeyIndex ctx cols conflict .unique
  | .check e text => pure { d with checks := d.checks ++ [⟨tc.name.getD text, e⟩] }
  | .foreignKey cols r =>
    if !r.columns.isEmpty && r.columns.length != cols.length then
      throw "number of columns in foreign key does not match the number of columns in the referenced table"
    let childs ← cols.mapM fun c =>
      match d.columnIndex? c.name with
      | some j => pure ((d.columns[j]?.map (·.name)).getD c.name)
      | none => throw ("unknown column \"" ++ c.name ++ "\" in foreign key definition")
    let fk : ForeignKey := ⟨childs, r.parent.name, r.columns.map (·.name), r.onDelete,
      r.onUpdate, r.deferred⟩
    pure { d with foreignKeys := d.foreignKeys ++ [fk] }

/-- The checks on a whole definition, and the table with its indexes. -/
def finish (ctx : Context) (d : Draft) (withoutRowid strict : Bool) :
    Except String (Table × List Index) := do
  let mut d := d
  if strict then
    for j in List.range d.columns.size do
      let c := d.columns[j]?.getD default
      match d.types[j]?.getD .none with
      | .none => throw ("missing datatype for " ++ d.name ++ "." ++ c.name)
      | .custom ty => throw ("unknown datatype for " ++ d.name ++ "." ++ c.name ++ ": \"" ++ ty ++ "\"")
      | .standard ty =>
        if ty == "ANY" then d := d.modifyColumn j fun c => { c with affinity := .blob }
      if (d.inKey[j]?.getD false) && d.rowidColumn != some j && c.notNull.isNone then
        d := d.modifyColumn j fun c => { c with notNull := some .abort }
  if withoutRowid then
    if d.autoincrement then throw "AUTOINCREMENT not allowed on WITHOUT ROWID tables"
    if !d.hasPrimaryKey then throw ("PRIMARY KEY missing on table " ++ d.name)
    match d.rowidColumn with
    | some j =>
      let conflict := d.rowidConflict
      d := { d with rowidColumn := none }
      d ← d.addKeyIndex ctx [⟨.column none none (Ident.plain ((d.columns[j]?.map (·.name)).getD "")),
        none, false⟩] (some conflict) .primaryKey
    | none => pure ()
    for j in List.range d.columns.size do
      if (d.inKey[j]?.getD false) && (d.columns[j]?.map (·.notNull.isNone)).getD false then
        d := d.modifyColumn j fun c => { c with notNull := some .abort }
    d := { d with withoutRowid := true }
  let scope := d.scope
  -- the checks stop at the first that fails to resolve; the generated columns are resolved
  -- even then, and each failure among them replaces the message, as does a table of
  -- generated columns only
  let checkError := d.checks.findSome? fun c =>
    match resolveOwn ctx scope .check c.expr with
    | .error m => some m
    | .ok _ => none
  let generated := d.columns.toList.filterMap (·.generated)
  let failure := generated.foldl (fun acc (e, _) =>
    match resolveOwn ctx scope .generated e with
    | .error m => some m
    | .ok _ => acc) checkError
  let failure := if !generated.isEmpty && d.columns.all (·.generated.isSome) then
      some "must have at least one non-generated column"
    else failure
  if let some m := failure then throw m
  -- the place of each key column in the primary key
  let pkIndex := d.indexes.find? (fun (ix, _) => ix.origin == .primaryKey)
  let columns := (d.columns.toList.zip (List.range d.columns.size)).map fun (c, j) =>
    if !(d.inKey[j]?.getD false) then { c with keyPosition := 0 }
    else
      match pkIndex with
      | none => { c with keyPosition := 1 }
      | some (ix, _) =>
        match ix.keys.findIdx? (fun k => (k.column.map (sameName · c.name)).getD false) with
        | some k => { c with keyPosition := k + 1 }
        | none => { c with keyPosition := d.columns.size + 1 }
  let t : Table := ⟨d.name, columns.toArray, d.rowidColumn, d.rowidConflict, d.autoincrement,
    withoutRowid, strict, d.checks, d.foreignKeys⟩
  pure (t, d.indexes.map Prod.fst)

end Draft

/-- Builds a table from its column definitions and constraints, in the order written. -/
def buildTable (ctx : Context) (name schema : String) (cols : List ColumnDef)
    (constraints : List TableConstraint) (withoutRowid strict : Bool) :
    Except String (Table × List Index) := do
  let d ← cols.foldlM (fun d c => do
    let d ← d.addColumn c
    c.constraints.foldlM (Draft.columnConstraint ctx) d) (Draft.start name schema)
  let d ← constraints.foldlM (Draft.tableConstraint ctx) d
  d.finish ctx withoutRowid strict

/-! ### Text of a table made from a query -/

/-- Whether a name must be quoted in generated text: it is empty, starts with a digit, has
a character other than an ASCII letter, digit or `_`, or is a keyword. -/
def needsQuotes (n : String) : Bool :=
  let cs := n.toList
  cs.isEmpty || (cs.head?.map Char.isDigit).getD false ||
    !cs.all (fun c => (c.isAlphanum && c.toNat < 128) || c == '_') ||
    keywords.contains (upperAscii n)

/-- A name as generated text writes it: in double quotes (doubled inside) when needed. -/
def identText (n : String) : String :=
  let body := String.join (n.toList.map fun c => if c == '"' then "\"\"" else c.toString)
  if needsQuotes n then "\"" ++ body ++ "\"" else body

/-- The width a name takes in generated text, quotes counted. -/
def identWidth (n : String) : Nat := n.length + (n.toList.filter (· == '"')).length + 2

/-- The text of a table made from a query: its columns with the type words of their
affinities, on one line when short, one column a line otherwise. -/
def createTableText (name : String) (cols : List (String × Affinity)) : String :=
  let width := cols.foldl (fun n (c, _) => n + identWidth c + 5) (identWidth name)
  let (sep1, sep2, close) := if width < 50 then ("", ",", ")") else ("\n  ", ",\n  ", "\n)")
  let typeWord := fun (a : Affinity) => match a with
    | .blob => ""
    | .text => " TEXT"
    | .numeric => " NUM"
    | .integer => " INT"
    | .real => " REAL"
  let body := (cols.zip (List.range cols.length)).foldl (fun acc ((c, a), i) =>
    acc ++ (if i == 0 then sep1 else sep2) ++ identText c ++ typeWord a) ""
  "CREATE TABLE " ++ identText name ++ "(" ++ body ++ close

/-! ### Keys of rows -/

/-- The row scope of a stored row of a table. -/
def Table.rowScope (t : Table) (schemaName : String) (vals : Array Value) (rowid : Int) : RowScope :=
  ⟨⟨#[t.shape t.name schemaName], [], []⟩, ⟨#[vals], #[if t.withoutRowid then none else some rowid]⟩,
    none⟩

/-- The key a row gives in an index: column values, and expression values under their
affinity. -/
def indexKey (env : Env) (schemaName : String) (t : Table) (ix : Index) (vals : Array Value)
    (rowid : Int) : Except Fault (List Value) :=
  ix.keys.mapM fun k =>
    match k.column >>= t.columnIndex? with
    | some j => pure (vals[j]?.getD .null)
    | none => do
      let fr := t.rowScope schemaName vals rowid
      let v ← env.eval [fr] k.expr
      pure (match env.affinity [fr] k.expr with
        | some a => v.withAffinity a
        | none => v)

/-- Whether a row belongs in an index: every row, or those its condition holds for. -/
def inIndex (env : Env) (schemaName : String) (t : Table) (ix : Index) (vals : Array Value)
    (rowid : Int) : Except Fault Bool :=
  match ix.condition with
  | some c => holds <$> env.eval [t.rowScope schemaName vals rowid] c
  | none => pure true

/-- Whether two keys of an index collide: no value is null and all are equal under the
index's collations. -/
def keysCollide (ix : Index) (a b : List Value) : Bool :=
  a.all (!·.isNull) && b.all (!·.isNull) && a.length == b.length &&
    ((a.zip b).zip ix.keys).all fun ((x, y), k) => Value.compareWith k.collation x y == .eq

/-- The text a failure of a uniqueness index gives: its columns as `t.c`, or its name when a
term is an expression. -/
def Index.failureText (ix : Index) (t : Table) : String :=
  if ix.keys.any (·.column.isNone) then "index '" ++ ix.name ++ "'"
  else ", ".intercalate (ix.keys.map fun k =>
    t.name ++ "." ++ ((k.column >>= t.columnIndex?) >>= (t.columns[·]?) |>.map (·.name)).getD "")

/-- Builds an index of `CREATE INDEX` on a table: its condition and then its terms are
resolved against the table; a term that is a column keeps that column. -/
def buildIndex (ctx : Context) (schemaName : String) (t : Table) (name : String) (unique : Bool)
    (terms : List IndexedColumn) (condition : Option Expr) : Except String Index := do
  let scope : ScopeShape := ⟨#[t.shape t.name schemaName], [], []⟩
  for c in condition.toList do resolveOwn ctx scope .partialIndex c
  let keys ← terms.mapM fun term => do
    let e := stringToName term.expr
    resolveOwn ctx scope .indexExpr e
    let col := plainColumn scope t.rowidColumn e >>= (t.columns[·]?)
    let coll ← match term.collation with
      | some c => collationNamed c
      | none => pure ((col.map (·.collation)).getD .binary)
    pure (⟨e, col.map (·.name), coll, term.desc⟩ : IndexKey)
  pure ⟨name, t.name, keys, unique, .created, condition, .abort⟩

/-- Checks that the rows of a table do not break a new unique index. -/
def checkNewIndex (env : Env) (schemaName : String) (t : Table) (ix : Index) (rows : Array Row) :
    Except Fault Unit := do
  if !ix.unique then return
  let keys ← rows.toList.filterMapM fun r => do
    if ← inIndex env schemaName t ix r.values r.rowid then
      some <$> indexKey env schemaName t ix r.values r.rowid
    else pure none
  let rec clash : List (List Value) → Bool
    | [] => false
    | k :: ks => ks.any (keysCollide ix k) || clash ks
  if clash keys then throw (.error ("UNIQUE constraint failed: " ++ ix.failureText t))

/-! ### Adding objects to a schema -/

/-- The text of the table of autoincrement counters. -/
def sequenceTableText : String := "CREATE TABLE sqlite_sequence(name,seq)"

/-- The table of autoincrement counters. -/
def sequenceTable : Table :=
  ⟨"sqlite_sequence", #[⟨"name", "", .blob, none, none, .binary, 0, none, false⟩,
    ⟨"seq", "", .blob, none, none, .binary, 0, none, false⟩], none, .abort, false, false, false,
    [], []⟩

/-- Adds a table with the indexes of its constraints, and the table of autoincrement
counters when the table needs it and the schema has none. -/
def Schema.addTable (s : Schema) (t : Table) (indexes : List Index) (sql : String) : Schema :=
  let page := s.nextPage
  let s := s.addEntry t.name t.name (some sql) (.table t)
  let s := indexes.foldl (fun s ix =>
    if ix.isTableItself t then
      { s with entries := s.entries.push ⟨ix.name, t.name, page, none, .index ix⟩ }
    else s.addEntry ix.name t.name none (.index ix)) s
  let s := { s with rows := s.rows ++ [(t.name, #[])] }
  if t.autoincrement && (s.table? "sqlite_sequence").isNone then
    let s := s.addEntry "sqlite_sequence" "sqlite_sequence" (some sequenceTableText) (.table sequenceTable)
    { s with rows := s.rows ++ [("sqlite_sequence", #[])] }
  else s

/-- Removes a table with its indexes, triggers and rows. -/
def Schema.dropTable (s : Schema) (name : String) : Schema :=
  { s with
    entries := s.entries.filter fun e => !sameName e.tableName name
    rows := s.rows.filter fun (n, _) => !sameName n name }

end Payout.Database
