import Payout.Database.Syntax

/-!
# The catalog

What a schema holds: tables with their columns and constraints, indexes, views and
triggers, each kept with the text that defined it, in the order they were created. The
catalog is what the schema table (`sqlite_master`) lists: a kind, a name, the table an
index or trigger belongs to, a page number and the defining text (none for the indexes that
uniqueness constraints create).

A table's rows are kept by row identifier. A table whose primary key is a single column
declared exactly `INTEGER` (and not descending) keeps that column as its row identifier.

Names of schema objects and columns compare without regard to ASCII case.
-/

namespace Payout.Database

/-- A column of a table. -/
structure Column where
  name : String
  /-- The declared type, as it is shown. -/
  declared : String
  affinity : Affinity
  /-- The resolution of a `NOT NULL` constraint, when the column has one. -/
  notNull : Option Resolution
  /-- The default value and the text it was written with. -/
  default : Option (Expr × String)
  collation : Collation
  /-- The column's place in the primary key, counting from one; zero when not in it. -/
  keyPosition : Nat
  /-- The expression of a generated column, and whether it is stored. -/
  generated : Option (Expr × Bool)
  /-- Whether a `UNIQUE` or `PRIMARY KEY` constraint is written on the column itself. -/
  uniqueFlag : Bool
deriving Inhabited

/-- A foreign key: the child columns, the parent table and its columns (none for its
primary key), the actions, and whether checking waits for the commit. -/
structure ForeignKey where
  columns : List String
  parent : String
  parentColumns : List String
  onDelete : KeyAction
  onUpdate : KeyAction
  deferred : Bool
deriving Inhabited

/-- A `CHECK` constraint: the name failures give (its constraint name, or its text) and its
expression. -/
structure Check where
  name : String
  expr : Expr
deriving Inhabited

/-- Why an index exists: written with `CREATE INDEX`, made for a `UNIQUE` constraint, or
made for a `PRIMARY KEY`. -/
inductive IndexOrigin where
  | created
  | unique
  | primaryKey
deriving DecidableEq, Inhabited

/-- The letter `PRAGMA index_list` shows for an origin. -/
def IndexOrigin.letter : IndexOrigin → String
  | .created => "c"
  | .unique => "u"
  | .primaryKey => "pk"

/-- A term of an index: its expression, the column it names when it is a plain column, its
collation and its direction. -/
structure IndexKey where
  expr : Expr
  column : Option String
  collation : Collation
  desc : Bool
deriving Inhabited

/-- An index of a table. -/
structure Index where
  name : String
  table : String
  keys : List IndexKey
  unique : Bool
  origin : IndexOrigin
  condition : Option Expr
  onConflict : Resolution
deriving Inhabited

/-- A table: its columns, its row identifier column, its primary key columns, and its
constraints. -/
structure Table where
  name : String
  columns : Array Column
  /-- The column that is the row identifier (an `INTEGER PRIMARY KEY`). -/
  rowidColumn : Option Nat
  /-- The resolution of a conflict on the row identifier column. -/
  rowidConflict : Resolution
  autoincrement : Bool
  withoutRowid : Bool
  strict : Bool
  checks : List Check
  foreignKeys : List ForeignKey
deriving Inhabited

/-- A view: its name, the column names it declares, and its query. -/
structure View where
  name : String
  columns : List String
  query : Select
deriving Inhabited

/-- A trigger. -/
structure Trigger where
  name : String
  table : String
  time : TriggerTime
  event : TriggerEvent
  condition : Option Expr
  program : List TriggerStep
deriving Inhabited

/-- A schema object. -/
inductive SchemaObject where
  | table (t : Table)
  | index (i : Index)
  | view (v : View)
  | trigger (t : Trigger)
deriving Inhabited

/-- An entry of the schema table: the object, its name, the table it belongs to, its page
and its defining text. -/
structure Entry where
  name : String
  tableName : String
  rootpage : Int
  sql : Option String
  object : SchemaObject
deriving Inhabited

/-- The kind of an entry. -/
def Entry.kind (e : Entry) : ObjectKind :=
  match e.object with
  | .table _ => .table
  | .index _ => .index
  | .view _ => .view
  | .trigger _ => .trigger

/-- A stored row: its identifier and its values, one per column. -/
structure Row where
  rowid : Int
  values : Array Value
deriving Inhabited

/-- Whether two names are the same, ignoring ASCII case. -/
def sameName (a b : String) : Bool := lowerAscii a == lowerAscii b

/-- Puts a new index in front of a table's indexes, or, when it resolves conflicts by
`REPLACE` and the first does not, after the leading ones that do not. -/
def linkIndex (ix : Index) (xs : List Index) : List Index :=
  match xs with
  | [] => [ix]
  | first :: _ =>
    if ix.onConflict != .replace || first.onConflict == .replace then ix :: xs
    else
      let pre := xs.takeWhile (·.onConflict != .replace)
      pre ++ ix :: xs.drop pre.length

/-- A schema: its entries in creation order, the rows of its tables, and the next free
page. -/
structure Schema where
  entries : Array Entry
  rows : List (String × Array Row)
  nextPage : Int
deriving Inhabited

/-- A schema with nothing in it. -/
def Schema.empty : Schema := ⟨#[], [], 2⟩

namespace Schema

/-- The entry of a name, of any kind. -/
def objectNamed? (s : Schema) (name : String) : Option Entry :=
  s.entries.find? fun e => sameName e.name name

/-- The entry of a name among the tables and views, which share one set of names. -/
def relationNamed? (s : Schema) (name : String) : Option Entry :=
  s.entries.find? fun e => sameName e.name name && (e.kind == .table || e.kind == .view)

/-- The table of a name. -/
def table? (s : Schema) (name : String) : Option Table :=
  match s.relationNamed? name with
  | some ⟨_, _, _, _, .table t⟩ => some t
  | _ => none

/-- The view of a name. -/
def view? (s : Schema) (name : String) : Option View :=
  match s.relationNamed? name with
  | some ⟨_, _, _, _, .view v⟩ => some v
  | _ => none

/-- The index of a name. -/
def index? (s : Schema) (name : String) : Option Index :=
  s.entries.findSome? fun e =>
    match e.object with
    | .index i => if sameName e.name name then some i else none
    | _ => none

/-- The trigger of a name; triggers have names of their own, apart from other objects. -/
def trigger? (s : Schema) (name : String) : Option Trigger :=
  s.entries.findSome? fun e =>
    match e.object with
    | .trigger t => if sameName e.name name then some t else none
    | _ => none

/-- The indexes of a table, in creation order. -/
def createdIndexesOf (s : Schema) (table : String) : List Index :=
  s.entries.toList.filterMap fun e =>
    match e.object with
    | .index i => if sameName i.table table then some i else none
    | _ => none

/-- The indexes of a table in the order constraints are checked in: the newest first, except
that those resolving conflicts by `REPLACE` come after all others. -/
def indexesOf (s : Schema) (table : String) : List Index :=
  (s.createdIndexesOf table).foldl (fun acc ix => linkIndex ix acc) []

/-- The triggers of a table, in creation order. -/
def triggersOf (s : Schema) (table : String) : List Trigger :=
  s.entries.toList.filterMap fun e =>
    match e.object with
    | .trigger t => if sameName t.table table then some t else none
    | _ => none

/-- Every table, in creation order. -/
def tables (s : Schema) : List Table :=
  s.entries.toList.filterMap fun e =>
    match e.object with
    | .table t => some t
    | _ => none

/-- The rows of a table. -/
def rowsOf (s : Schema) (table : String) : Array Row :=
  match s.rows.find? (fun (n, _) => sameName n table) with
  | some (_, rs) => rs
  | none => #[]

/-- Replaces the rows of a table. -/
def setRows (s : Schema) (table : String) (rs : Array Row) : Schema :=
  let others := s.rows.filter fun (n, _) => !sameName n table
  { s with rows := others ++ [(table, rs)] }

/-- Adds an entry, taking a page for it when it is a table or an index. -/
def addEntry (s : Schema) (name tableName : String) (sql : Option String) (o : SchemaObject) :
    Schema :=
  let (page, next) := match o with
    | .table _ | .index _ => (s.nextPage, s.nextPage + 1)
    | _ => (0, s.nextPage)
  { s with entries := s.entries.push ⟨name, tableName, page, sql, o⟩, nextPage := next }

/-- Removes the entry of a name. -/
def removeEntry (s : Schema) (name : String) : Schema :=
  { s with entries := s.entries.filter fun e => !sameName e.name name }

/-- Replaces the entry of a name, keeping its place. -/
def updateEntry (s : Schema) (name : String) (f : Entry → Entry) : Schema :=
  { s with entries := s.entries.map fun e => if sameName e.name name then f e else e }

end Schema

/-- Whether an index is the primary key of a table without row identifiers, which is the
table itself: it has the table's page and no row of the schema table. -/
def Index.isTableItself (t : Table) (ix : Index) : Bool :=
  t.withoutRowid && ix.origin == .primaryKey

namespace Table

/-- The place of a column of a name. -/
def columnIndex? (t : Table) (name : String) : Option Nat :=
  t.columns.findIdx? fun c => sameName c.name name

/-- Whether the table has a visible row identifier. -/
def hasRowid (t : Table) : Bool := !t.withoutRowid

/-- The primary key columns, in key order. -/
def keyColumns (t : Table) : List Nat :=
  let keyed := (List.range t.columns.size).filter fun i => (t.columns[i]!).keyPosition > 0
  keyed.mergeSort fun a b => (t.columns[a]!).keyPosition ≤ (t.columns[b]!).keyPosition

end Table

end Payout.Database
