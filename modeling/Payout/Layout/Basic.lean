import Payout.Text.Upper

/-!
# Table layouts

The layout of a database as a schema check sees it: for each table, its columns (name, kind
of declared type, whether null is allowed), the columns of its primary key, its foreign keys
(one per pair of child and parent column), the column lists of its uniqueness constraints,
and its named indexes.

Every part is kept as a sorted set, in the order of names compared character by character
(the order of their UTF-8 bytes): columns by name, keys by child column, parent table and
parent column, column lists lexicographically, indexes by name and then columns. Two
layouts are equal exactly when they have the same tables with the same parts.

The kind of a declared type is found from the letters of its upper case: a type naming
`INT` is an integer, one naming `TEXT`, `CHAR` or `CLOB` is text, one naming `REAL`,
`FLOA` or `DOUB` is real, one naming `BLOB` is a blob, and any other is text.
-/

namespace Payout.Layout

/-- A column: its name, the kind of its declared type, and whether it takes null. -/
structure ColumnShape where
  name : String
  kind : String
  nullable : Bool
deriving DecidableEq, Inhabited

/-- A foreign key between one child column and one parent column. -/
structure KeyLink where
  fromColumn : String
  toTable : String
  toColumn : String
deriving DecidableEq, Inhabited

/-- A named index and its columns. -/
structure IndexShape where
  name : String
  columns : List String
deriving DecidableEq, Inhabited

/-- The parts of one table. -/
structure TableShape where
  columns : List ColumnShape
  primaryKeys : List String
  foreignKeys : List KeyLink
  uniques : List (List String)
  indexes : List IndexShape
deriving DecidableEq, Inhabited

/-- A table without parts. -/
def TableShape.empty : TableShape := ⟨[], [], [], [], []⟩

end Payout.Layout

namespace Payout

/-- The layout of a database: its tables by name. -/
structure Layout where
  tables : List (String × Layout.TableShape)
deriving DecidableEq, Inhabited

end Payout

namespace Payout.Layout

/-! ### Orders -/

/-- Names in the order of their characters. -/
def nameLt (a b : String) : Bool := decide (a < b)

/-- Lists of names, lexicographically; a proper prefix comes first. -/
def namesLt : List String → List String → Bool
  | [], [] => false
  | [], _ :: _ => true
  | _ :: _, [] => false
  | a :: as, b :: bs => nameLt a b || (a == b && namesLt as bs)

/-- Foreign keys by child column, then parent table, then parent column. -/
def KeyLink.lt (a b : KeyLink) : Bool :=
  namesLt [a.fromColumn, a.toTable, a.toColumn] [b.fromColumn, b.toTable, b.toColumn]

/-- Indexes by name, then columns. -/
def IndexShape.lt (a b : IndexShape) : Bool :=
  nameLt a.name b.name || (a.name == b.name && namesLt a.columns b.columns)

/-- Inserts into a list sorted by an order; an element equal to one present takes its
place. -/
def insertSorted {α : Type} (lt : α → α → Bool) (x : α) : List α → List α
  | [] => [x]
  | y :: ys => if lt x y then x :: y :: ys else if lt y x then y :: insertSorted lt x ys else x :: ys

/-- Inserts a column, keyed by its name. -/
def TableShape.addColumn (t : TableShape) (c : ColumnShape) : TableShape :=
  { t with columns := insertSorted (fun a b => nameLt a.name b.name) c t.columns }

/-- Adds a column to the primary key. -/
def TableShape.addPrimaryKey (t : TableShape) (c : String) : TableShape :=
  { t with primaryKeys := insertSorted nameLt c t.primaryKeys }

/-- Adds a foreign key. -/
def TableShape.addForeignKey (t : TableShape) (k : KeyLink) : TableShape :=
  { t with foreignKeys := insertSorted KeyLink.lt k t.foreignKeys }

/-- Adds the columns of a uniqueness constraint. -/
def TableShape.addUnique (t : TableShape) (cs : List String) : TableShape :=
  { t with uniques := insertSorted namesLt cs t.uniques }

/-- Adds a named index. -/
def TableShape.addIndex (t : TableShape) (i : IndexShape) : TableShape :=
  { t with indexes := insertSorted IndexShape.lt i t.indexes }

/-- Adds a table, keyed by its name. -/
def addTable (l : Layout) (name : String) (t : TableShape) : Layout :=
  ⟨insertSorted (fun a b => nameLt a.1 b.1) (name, t) l.tables⟩

/-- The table of a name. -/
def table? (l : Layout) (name : String) : Option TableShape :=
  (l.tables.find? (·.1 == name)).map (·.2)

/-! ### Kinds of declared types -/

/-- Whether a run of characters occurs in a list of characters. -/
def containsRun (needle : List Char) : List Char → Bool
  | [] => needle.isEmpty
  | c :: cs => needle.isPrefixOf (c :: cs) || containsRun needle cs

/-- The kind of a declared type. -/
def kindOfType (declared : String) : String :=
  let u := (Text.upperLatinText declared).toList
  let has := fun (w : String) => containsRun w.toList u
  if has "INT" then "integer"
  else if has "TEXT" || has "CHAR" || has "CLOB" then "text"
  else if has "REAL" || has "FLOA" || has "DOUB" then "real"
  else if has "BLOB" then "blob"
  else "text"

end Payout.Layout
