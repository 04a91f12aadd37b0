import Payout.Database.Value

/-!
# The syntax of statements

The tree a statement is read into: expressions, queries and the statements themselves, close
to the text they came from. A name keeps where its token stood (`Ident`), so that renaming a
table or a column can edit the stored text of everything that names it, and a constraint
keeps the text it was written with.

Queries are `Select` trees: a `WITH` clause, a compound of simple selects (or `VALUES`
lists), an ordering and a limit. A simple select has its result columns, its `FROM` terms
joined left to right, a condition, a grouping, a `HAVING` condition and named windows.
-/

namespace Payout.Database

/-- A name as written: its value (quotes taken off), its token's text, where that token
stands in the text, and whether it was written in double quotes (so that it may stand for a
string when no column has that name). -/
structure Ident where
  name : String
  raw : String
  start : Nat
  stop : Nat
  doubleQuoted : Bool
deriving Inhabited

/-- A name that stands in no text. -/
def Ident.plain (name : String) : Ident := ⟨name, name, 0, 0, false⟩

/-- The unary operators. -/
inductive UnaryOp where
  | neg | pos | bitNot | not
deriving DecidableEq, Inhabited

/-- The binary operators. `extract` is `->` (`false`) or `->>` (`true`). -/
inductive BinaryOp where
  | concat | mul | div | rem | add | sub | shl | shr | bitAnd | bitOr
  | lt | le | gt | ge | eq | ne | is | isNot
  | and | or
  | extract (asSql : Bool)
deriving DecidableEq, Inhabited

/-- The pattern operators. -/
inductive LikeOp where
  | like | glob | regexp | matchOp
deriving DecidableEq, Inhabited

/-- What a `RAISE` does. -/
inductive RaiseKind where
  | ignore | rollback | abort | fail
deriving DecidableEq, Inhabited

/-- The current date and time keywords. -/
inductive NowKind where
  | date | time | timestamp
deriving DecidableEq, Inhabited

/-- How a conflict with a constraint is resolved. -/
inductive Resolution where
  | rollback | abort | fail | ignore | replace
deriving DecidableEq, Inhabited

/-- The compound operators. -/
inductive CompoundOp where
  | unionAll | union | intersect | except
deriving DecidableEq, Inhabited

/-- The name of a compound operator, as messages give it. -/
def CompoundOp.word : CompoundOp → String
  | .unionAll => "UNION ALL"
  | .union => "UNION"
  | .intersect => "INTERSECT"
  | .except => "EXCEPT"

/-- The kinds of join, as the join operator spells them. -/
structure JoinKind where
  natural : Bool
  left : Bool
  right : Bool
  inner : Bool
  cross : Bool
deriving Inhabited

/-- A plain join: a comma or `JOIN`. -/
def JoinKind.plain : JoinKind := ⟨false, false, false, false, false⟩

/-- What a window frame counts in. -/
inductive FrameUnit where
  | rows | range | groups
deriving DecidableEq, Inhabited

/-- Which rows of a window frame are left out. -/
inductive FrameExclude where
  | noOthers | currentRow | group | ties
deriving DecidableEq, Inhabited

mutual

/-- An expression. -/
inductive Expr where
  /-- A literal value: `NULL`, a string or a blob. -/
  | lit (v : Value)
  /-- A number as written, with whether it has a point or an exponent. -/
  | number (text : String) (isFloat : Bool)
  /-- A parameter; unbound parameters are null. -/
  | variable (name : String)
  /-- `CURRENT_DATE`, `CURRENT_TIME` or `CURRENT_TIMESTAMP`. -/
  | now (kind : NowKind)
  /-- A column named alone, or with its table and schema. -/
  | column (schema : Option Ident) (table : Option Ident) (name : Ident)
  | unary (op : UnaryOp) (e : Expr)
  | binary (op : BinaryOp) (a b : Expr)
  | collate (e : Expr) (collation : String)
  | cast (e : Expr) (type : String)
  | like (op : LikeOp) (negated : Bool) (e pattern : Expr) (escape : Option Expr)
  | isNull (e : Expr) (negated : Bool)
  | between (e lo hi : Expr) (negated : Bool)
  | inList (e : Expr) (items : List Expr) (negated : Bool)
  | inSelect (e : Expr) (q : Select) (negated : Bool)
  | inTable (e : Expr) (schema : Option Ident) (table : Ident) (negated : Bool)
  | exists (q : Select)
  | subquery (q : Select)
  /-- `CASE [operand] WHEN … THEN … [ELSE …] END`. -/
  | case (operand : Option Expr) (arms : List (Expr × Expr)) (otherwise : Option Expr)
  | raise (kind : RaiseKind) (message : Option Expr)
  /-- A function call; `star` is `f(*)`. -/
  | call (name : Ident) (distinct : Bool) (star : Bool) (args : List Expr)
      (filter : Option Expr) (window : Option Window)
  /-- A row value `(a, b, …)`. -/
  | vector (items : List Expr)

/-- A window: a base window's name, a partition, an ordering and a frame. -/
inductive Window where
  | mk (base : Option String) (partition : List Expr) (order : List OrderTerm)
      (frame : Option Frame)
  /-- A named window of the `WINDOW` clause. -/
  | named (name : String)

/-- A window frame: its unit, its two edges and what it leaves out. -/
inductive Frame where
  | mk (unit : FrameUnit) (start finish : FrameBound) (exclude : FrameExclude)

/-- The edge of a window frame. -/
inductive FrameBound where
  | unboundedPreceding
  | preceding (e : Expr)
  | currentRow
  | following (e : Expr)
  | unboundedFollowing

/-- A term of an ordering: the expression, descending or not, and where nulls go
(`some true` for first). -/
inductive OrderTerm where
  | mk (e : Expr) (desc : Bool) (nullsFirst : Option Bool)

/-- A query. -/
inductive Select where
  | mk (ctes : List Cte) (recursive : Bool) (body : SelectBody) (order : List OrderTerm)
      (limit : Option Expr) (offset : Option Expr)

/-- A common table expression: its name, its column names, and its query. -/
inductive Cte where
  | mk (name : Ident) (columns : List Ident) (q : Select)

/-- A compound of simple selects, left to right. -/
inductive SelectBody where
  | core (c : SelectCore)
  | compound (op : CompoundOp) (left : SelectBody) (right : SelectCore)

/-- A simple select, or a `VALUES` list. -/
inductive SelectCore where
  | select (distinct : Bool) (columns : List ResultColumn) (source : Option FromClause)
      (condition : Option Expr) (groupBy : List Expr) (having : Option Expr)
      (windows : List (String × Window))
  | values (rows : List (List Expr))

/-- A result column: an expression with an optional alias and the text it was written
with, `*`, or `t.*`. -/
inductive ResultColumn where
  | expr (e : Expr) (asName : Option Ident) (text : String)
  | star
  | tableStar (table : Ident)

/-- A `FROM` clause: the first term and the joined ones. -/
inductive FromClause where
  | mk (first : FromItem) (joins : List JoinTerm)

/-- A term of a `FROM` clause. -/
inductive FromItem where
  | table (schema : Option Ident) (name : Ident) (asName : Option Ident)
  | subquery (q : Select) (asName : Option Ident)
  | function (name : Ident) (args : List Expr) (asName : Option Ident)
  | nested (f : FromClause) (asName : Option Ident)

/-- A joined term: the join, the term, and its `ON` condition or `USING` columns. -/
inductive JoinTerm where
  | mk (kind : JoinKind) (item : FromItem) (on : Option Expr) (columns : List Ident)

end

instance : Inhabited Expr := ⟨.lit .null⟩
instance : Inhabited SelectCore := ⟨.values []⟩
instance : Inhabited Select := ⟨.mk [] false (.core default) [] none none⟩

/-- The parts of a term of an ordering. -/
def OrderTerm.expr : OrderTerm → Expr
  | .mk e _ _ => e

/-- Whether a term of an ordering is descending. -/
def OrderTerm.desc : OrderTerm → Bool
  | .mk _ d _ => d

/-- Where a term of an ordering puts nulls. -/
def OrderTerm.nullsFirst : OrderTerm → Option Bool
  | .mk _ _ n => n

/-! ### Statements -/

/-- What a foreign key does when its parent changes. -/
inductive KeyAction where
  | noAction | restrict | setNull | setDefault | cascade
deriving DecidableEq, Inhabited

/-- A `REFERENCES` clause: the parent table, its columns, the actions on delete and on
update, and whether checking is deferred. -/
structure References where
  parent : Ident
  columns : List Ident
  onDelete : KeyAction
  onUpdate : KeyAction
  deferred : Bool
deriving Inhabited

/-- A column of an index, a primary key or a uniqueness constraint: an expression (most
often a plain column), a collation and a direction. -/
structure IndexedColumn where
  expr : Expr
  collation : Option String
  desc : Bool
deriving Inhabited

/-- The column an indexed term names, when it is a plain column. -/
def IndexedColumn.column? (c : IndexedColumn) : Option Ident :=
  match c.expr with
  | .column none none n => some n
  | _ => none

/-- A constraint written on a column. -/
inductive ColumnConstraintKind where
  | primaryKey (desc : Bool) (onConflict : Option Resolution) (autoincrement : Bool)
  | notNull (onConflict : Option Resolution)
  | null
  | unique (onConflict : Option Resolution)
  | check (e : Expr) (text : String)
  /-- A default value and the text it was written with. -/
  | default (e : Expr) (text : String)
  | collate (name : String)
  | references (r : References)
  /-- A generated column: its expression and the storage word written after it. -/
  | generated (e : Expr) (storage : Option String)
deriving Inhabited

/-- A constraint on a column, with its name if it has one. -/
structure ColumnConstraint where
  name : Option String
  kind : ColumnConstraintKind
deriving Inhabited

/-- A column of a table definition: its name, its declared type as written, and its
constraints. -/
structure ColumnDef where
  name : Ident
  type : Option String
  constraints : List ColumnConstraint
deriving Inhabited

/-- A constraint written after the columns. -/
inductive TableConstraintKind where
  | primaryKey (columns : List IndexedColumn) (onConflict : Option Resolution) (autoincrement : Bool)
  | unique (columns : List IndexedColumn) (onConflict : Option Resolution)
  | check (e : Expr) (text : String)
  | foreignKey (columns : List Ident) (r : References)
deriving Inhabited

/-- A table constraint, with its name if it has one. -/
structure TableConstraint where
  name : Option String
  kind : TableConstraintKind
deriving Inhabited

/-- What a `CREATE TABLE` defines: columns and constraints with the table options, or the
result of a query. `endOfColumns` is the position after the last column definition. -/
inductive TableBody where
  | columns (cols : List ColumnDef) (constraints : List TableConstraint) (withoutRowid : Bool)
      (strict : Bool) (endOfColumns : Nat)
  | asSelect (q : Select)
deriving Inhabited

/-- When a trigger fires. -/
inductive TriggerTime where
  | before | after | insteadOf
deriving DecidableEq, Inhabited

/-- The change a trigger fires on; an update trigger may name the columns it watches. -/
inductive TriggerEvent where
  | insert
  | update (columns : List Ident)
  | delete
deriving Inhabited

/-- The rows an `INSERT` adds. -/
inductive InsertSource where
  | values (rows : List (List Expr))
  | query (q : Select)
  | defaults
deriving Inhabited

/-- An `ON CONFLICT` clause of an `INSERT`: the target columns and condition, and the
assignments (none for `DO NOTHING`). -/
structure Upsert where
  target : List IndexedColumn
  targetWhere : Option Expr
  assignments : Option (List (List Ident × Expr) × Option Expr)
deriving Inhabited

/-- A `RETURNING` clause. -/
abbrev Returning := List ResultColumn

/-- An `INSERT`. -/
structure Insert where
  ctes : List Cte
  resolution : Option Resolution
  schema : Option Ident
  table : Ident
  asName : Option Ident
  columns : Option (List Ident)
  source : InsertSource
  upserts : List Upsert
  returning : Returning
deriving Inhabited

/-- An `UPDATE`. -/
structure Update where
  ctes : List Cte
  resolution : Option Resolution
  schema : Option Ident
  table : Ident
  asName : Option Ident
  assignments : List (List Ident × Expr)
  source : Option FromClause
  condition : Option Expr
  returning : Returning
  order : List OrderTerm
  limit : Option (Expr × Option Expr)
deriving Inhabited

/-- A `DELETE`. -/
structure Delete where
  ctes : List Cte
  schema : Option Ident
  table : Ident
  asName : Option Ident
  condition : Option Expr
  returning : Returning
  order : List OrderTerm
  limit : Option (Expr × Option Expr)
deriving Inhabited

/-- A statement of a trigger's program. -/
inductive TriggerStep where
  | insert (i : Insert)
  | update (u : Update)
  | delete (d : Delete)
  | select (q : Select)
deriving Inhabited

/-- A trigger definition. -/
structure TriggerDef where
  name : Ident
  time : TriggerTime
  event : TriggerEvent
  table : Ident
  condition : Option Expr
  program : List TriggerStep
deriving Inhabited

/-- The kinds of schema object a `DROP` names. -/
inductive ObjectKind where
  | table | index | trigger | view
deriving DecidableEq, Inhabited

/-- The word for a kind of schema object. -/
def ObjectKind.word : ObjectKind → String
  | .table => "table"
  | .index => "index"
  | .trigger => "trigger"
  | .view => "view"

/-- What an `ALTER TABLE` does. -/
inductive AlterAction where
  | renameTable (new : Ident)
  | renameColumn (old new : Ident)
  /-- A column to add, with the text of its definition: from its name to the end of the
  statement, the `;` that ends it included. -/
  | addColumn (c : ColumnDef) (text : String)
  | dropColumn (column : Ident)
deriving Inhabited

/-- How a transaction begins. -/
inductive BeginKind where
  | deferred | immediate | exclusive
deriving DecidableEq, Inhabited

/-- A statement. -/
inductive Statement where
  | select (q : Select)
  | insert (i : Insert)
  | update (u : Update)
  | delete (d : Delete)
  /-- `CREATE TABLE`, with the text the schema keeps for it. -/
  | createTable (temp ifNotExists : Bool) (schema : Option Ident) (name : Ident) (body : TableBody)
      (sql : String)
  /-- `CREATE INDEX`, with the text the schema keeps for it. -/
  | createIndex (unique ifNotExists : Bool) (schema : Option Ident) (name : Ident) (table : Ident)
      (columns : List IndexedColumn) (condition : Option Expr) (sql : String)
  /-- `CREATE VIEW`, with the text the schema keeps for it. -/
  | createView (temp ifNotExists : Bool) (schema : Option Ident) (name : Ident)
      (columns : List Ident) (q : Select) (sql : String)
  /-- `CREATE TRIGGER`, with the text the schema keeps for it. -/
  | createTrigger (temp ifNotExists : Bool) (schema : Option Ident) (t : TriggerDef) (sql : String)
  | createVirtual (ifNotExists : Bool) (schema : Option Ident) (name : Ident) (module : Ident)
  | drop (kind : ObjectKind) (ifExists : Bool) (schema : Option Ident) (name : Ident)
  | alter (schema : Option Ident) (table : Ident) (action : AlterAction)
  /-- `PRAGMA [schema.]name`, with its value as text if one is given. -/
  | pragma (schema : Option Ident) (name : Ident) (value : Option String)
  | begin (kind : BeginKind)
  | commit
  | rollback (savepoint : Option Ident)
  | savepoint (name : Ident)
  | release (name : Ident)
  | analyze (target : List Ident)
  | reindex (target : List Ident)
  | vacuum (schema : Option Ident)
  | attach (file : Expr) (schema : Expr)
  | detach (schema : Expr)
  /-- `EXPLAIN` or `EXPLAIN QUERY PLAN` of a statement. -/
  | explain (queryPlan : Bool) (s : Statement)
deriving Inhabited

end Payout.Database
