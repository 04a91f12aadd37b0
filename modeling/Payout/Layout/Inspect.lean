import Payout.Layout.Basic
import Payout.Store.Schema

/-!
# Reading the layout of a database

The layout is read the way a client reads it, by statements on a connection: first

`SELECT name FROM sqlite_master WHERE type='table' AND name NOT LIKE 'sqlite_%' AND
name != '__diesel_schema_migrations' ORDER BY name`

for the tables (temporary tables are not in the catalog), then for each table the statements
`PRAGMA table_info(t)`, `PRAGMA foreign_key_list(t)` and `PRAGMA index_list(t)`, and for each
index `PRAGMA index_info(i)`, with the name written into the statement as it is.

Each row is decoded by column name, every cell the client reads as text or as a number;
a null where it needs a value is refused. A statement that fails (a name that does not read
back as one pragma argument fails to compile) or a row that is refused stops the reading,
reported with what was being read and, below it, the cause.

A uniqueness constraint's index counts as a uniqueness constraint; any other index counts
as an index unless it is one the database made for a key on its own.
-/

namespace Payout.Layout

open Database (Handle Value Answer)

/-- A failure with its chain of causes, outermost first. -/
structure Report where
  message : String
  causes : List String
deriving Inhabited

/-- The message and every cause below it. -/
def Report.chain (r : Report) : List String := r.message :: r.causes

/-- What a client reading a null into a column that cannot hold one says. -/
def nullRefused : String := "Unexpected null for non-null column"

/-- A row of an answer, each cell under its column's name. -/
abbrev NamedRow := List (String × Value)

/-- Runs a query on a connection and gives its rows by column name. -/
def loadRows (h : Handle) (text : String) : Except String (List NamedRow) :=
  match (h.query text).2 with
  | .ok a => .ok (a.rows.map fun r => a.columns.zip r.toList)
  | .error m => .error m

/-- A cell read as text; null is refused. -/
def textCell (row : NamedRow) (col : String) : Except String String :=
  match row.lookup col with
  | some v => if v.isNull then .error nullRefused else .ok v.asText
  | none => .error nullRefused

/-- A cell read as a number; null is refused. -/
def numberCell (row : NamedRow) (col : String) : Except String Int :=
  match row.lookup col with
  | some v => if v.isNull then .error nullRefused else .ok (Store.low32 v.asInteger)
  | none => .error nullRefused

/-- Runs a query and decodes its rows; a failure of either is reported under a message. -/
def loadAs {α : Type} (h : Handle) (what text : String) (decode : NamedRow → Except String α) :
    Except Report (List α) :=
  match loadRows h text >>= fun rows => rows.mapM decode with
  | .ok xs => .ok xs
  | .error m => .error ⟨what, [m]⟩

/-- A column as `table_info` gives it: its name, declared type, whether it is `NOT NULL`, and
its place in the primary key. -/
structure ColumnRow where
  name : String
  type : String
  notNull : Int
  pk : Int

/-- Decodes a row of `table_info`. -/
def ColumnRow.decode (r : NamedRow) : Except String ColumnRow := do
  let _ ← numberCell r "cid"
  pure ⟨← textCell r "name", ← textCell r "type", ← numberCell r "notnull", ← numberCell r "pk"⟩

/-- Decodes a row of `foreign_key_list` as a key link. -/
def decodeKeyLink (r : NamedRow) : Except String KeyLink := do
  let parent ← textCell r "table"
  let child ← textCell r "from"
  let target ← textCell r "to"
  pure ⟨child, parent, target⟩

/-- An index as `index_list` gives it: its name and origin. -/
structure IndexRow where
  name : String
  origin : String

/-- Decodes a row of `index_list`. -/
def IndexRow.decode (r : NamedRow) : Except String IndexRow := do
  let n ← textCell r "name"
  let _ ← numberCell r "unique"
  pure ⟨n, ← textCell r "origin"⟩

/-- Adds an index of a table to its part: a uniqueness constraint's index as a constraint,
any other as an index unless the database named it for a key. -/
def indexPart (h : Handle) (shape : TableShape) (i : IndexRow) : Except Report TableShape := do
  let cols ← loadAs h ("Failed to get index columns for " ++ i.name)
    ("PRAGMA index_info(" ++ i.name ++ ")") fun r => textCell r "name"
  if i.origin == "u" then pure (shape.addUnique cols)
  else if i.name.startsWith "sqlite_autoindex_" then pure shape
  else pure (shape.addIndex ⟨i.name, cols⟩)

/-- Reads the parts of one table. -/
def tableShape (h : Handle) (name : String) : Except Report TableShape := do
  let cols ← loadAs h ("Failed to get columns for table " ++ name)
    ("PRAGMA table_info(" ++ name ++ ")") ColumnRow.decode
  let shape := cols.foldl (fun acc c =>
    let acc := acc.addColumn ⟨c.name, kindOfType c.type, c.notNull == 0⟩
    if c.pk > 0 then acc.addPrimaryKey c.name else acc) TableShape.empty
  let keys ← loadAs h ("Failed to get foreign keys for table " ++ name)
    ("PRAGMA foreign_key_list(" ++ name ++ ")") decodeKeyLink
  let shape := keys.foldl TableShape.addForeignKey shape
  let indexes ← loadAs h ("Failed to get indexes for table " ++ name)
    ("PRAGMA index_list(" ++ name ++ ")") IndexRow.decode
  indexes.foldlM (indexPart h) shape

/-- The query listing the tables of the catalog, leaving out the database's own tables and
the table of migration versions. -/
def tablesQuery : String :=
  "SELECT name FROM sqlite_master WHERE type='table' AND name NOT LIKE 'sqlite_%' AND name != '" ++
    Store.versionTable ++ "' ORDER BY name"

/-- Reads the layout of the database a connection is on. -/
def layoutOf (h : Handle) : Except Report Layout := do
  let names ← loadAs h "Failed to query SQLite tables" tablesQuery fun r => textCell r "name"
  names.foldlM (fun l n => do pure (l.addTable n (← tableShape h n))) ⟨[]⟩

end Payout.Layout
