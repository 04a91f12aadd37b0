import Payout.Database.Catalog

/-!
# Scopes and names

An expression is read inside *scopes*: the innermost is the query it stands in, the outer
ones are the queries around it. A scope holds *sources*, the terms of a `FROM` clause, each
with a name (its alias or its table's name) and its columns; a column carries the affinity
and collation it gives to comparisons, and the type it was declared with.

A name is looked up from the innermost scope outward:

* `t.c` matches the column `c` of the sources named `t`; `c` alone matches the column `c` of
  any source, and two matches are ambiguous unless the later source joined on `c` by `USING`
  or `NATURAL`;
* in a trigger, `NEW.c` and `OLD.c` name the columns of the row being changed, and in an
  upsert `excluded.c` names the row that could not be inserted;
* `rowid`, `oid` and `_rowid_` name the row identifier of the single source that has one;
* where a query's result aliases are visible, a bare name may be one of them;
* a double-quoted name that matches nothing is a string, and `true` or `false` that match
  nothing are the truth values.

Anything else is `no such column`. The first scope with a match wins.
-/

namespace Payout.Database

/-- A column as a scope shows it: name, the affinity and collation it gives, and its declared
type (empty when it has none). -/
structure ColumnShape where
  name : String
  affinity : Affinity
  collation : Collation
  declared : String
  /-- Whether the column's value carries no affinity (a computed column of a subquery). -/
  plain : Bool
deriving Inhabited

/-- A source of rows as a scope shows it. -/
structure SourceShape where
  /-- The name the source is referred to by: its alias or its table's name. -/
  name : String
  /-- The schema of the table it reads, when it reads a table. -/
  schema : Option String
  columns : Array ColumnShape
  /-- Whether the source has a row identifier. -/
  rowid : Bool
  /-- The columns this source was joined on with `USING` or `NATURAL`. -/
  joinedOn : List String
  /-- Whether this source is the right side of a `RIGHT` or `FULL` join. -/
  rightJoined : Bool
  /-- The column that is the row identifier, when the source is a table that has one. -/
  rowidColumn : Option Nat
  /-- The stored table the source reads directly, when it reads one. -/
  table : Option String
  /-- Whether the source is named by an alias of its own. -/
  aliased : Bool
deriving Inhabited

/-- Whether a source reads a stored table of a schema directly. -/
def SourceShape.reads (s : SourceShape) (schema table : String) : Bool :=
  (s.table.map (sameName · table)).getD false && (s.schema.map (sameName · schema)).getD false

/-- The kind of place an expression stands in, which decides what it may hold. -/
inductive Place where
  | query
  | check
  | indexExpr
  | partialIndex
  | generated
  | defaultValue
deriving DecidableEq, Inhabited

/-- The name of a place in messages about what it may not hold. -/
def Place.phrase : Place → String
  | .check => "CHECK constraints"
  | .indexExpr => "index expressions"
  | .generated => "generated columns"
  | _ => "partial index WHERE clauses"

/-- A row of a special table: `NEW`, `OLD` or `excluded`. -/
structure SpecialRow where
  name : String
  columns : Array ColumnShape
  /-- The column that is the row identifier, when the table has one. -/
  rowidColumn : Option Nat
  hasRowid : Bool
deriving Inhabited

/-- A scope: its sources, the result aliases visible in it, and the special rows visible in
it. -/
structure ScopeShape where
  sources : Array SourceShape
  aliases : List (String × Expr)
  specials : List SpecialRow
deriving Inhabited

/-- What a name refers to. -/
inductive Ref where
  /-- A column of a source, counting scopes outward from zero. -/
  | column (depth source col : Nat)
  /-- The row identifier of a source. -/
  | rowid (depth source : Nat)
  /-- A column of a special row, or its row identifier. -/
  | special (name : String) (col : Option Nat)
  /-- A result alias of a scope, standing for its expression. -/
  | aliased (depth : Nat) (e : Expr)
  /-- A double-quoted name that matched nothing, standing for a string. -/
  | literal (s : String)
  /-- `true` or `false` written as a name that matched nothing. -/
  | truth (b : Bool)
deriving Inhabited

/-- Whether a name is one of the names of the row identifier. -/
def isRowidName (n : String) : Bool :=
  let l := lowerAscii n
  l == "rowid" || l == "oid" || l == "_rowid_"

/-- Looks for a column name among the sources of a scope: the matches counted as the
ambiguity rule counts them, the first match, and the sources that could give a row
identifier. -/
def matchSources (sources : List (Nat × SourceShape)) (table : Option String) (col : String) :
    Nat × Option (Nat × Nat) × List Nat :=
  sources.foldl (fun (cnt, found, rowidTabs) (i, s) =>
    let tableOk := match table with
      | some t => sameName t s.name
      | none => true
    if !tableOk then (cnt, found, rowidTabs)
    else
      match s.columns.findIdx? (fun c => sameName c.name col) with
      | some j =>
        if cnt > 0 && s.joinedOn.any (sameName · col) then
          if s.rightJoined then (1, some (i, j), rowidTabs) else (cnt, found, rowidTabs)
        else (cnt + 1, if cnt == 0 then some (i, j) else found, rowidTabs)
      | none =>
        if cnt == 0 && s.rowid then (cnt, found, rowidTabs ++ [i])
        else (cnt, found, rowidTabs)) (0, none, [])

/-- Looks a name up in a special row. -/
def SpecialRow.lookup (r : SpecialRow) (col : String) : Option (Option Nat) :=
  match r.columns.findIdx? (fun c => sameName c.name col) with
  | some j => if r.rowidColumn == some j then some none else some (some j)
  | none => if isRowidName col && r.hasRowid then some none else none

/-- The text of a name for messages: `c`, `t.c` or `s.t.c`. -/
def refText (schema table : Option String) (col : String) : String :=
  match schema, table with
  | some s, some t => s ++ "." ++ t ++ "." ++ col
  | _, some t => t ++ "." ++ col
  | _, _ => col

/-- Looks a name up through the scopes, innermost first; a double-quoted name that matches
nothing is a string. -/
def lookupName (scopes : List ScopeShape) (schema table : Option String) (col : String)
    (doubleQuoted : Bool) : Except String Ref :=
  go scopes 0
where
  /-- Tries each scope in turn. -/
  go : List ScopeShape → Nat → Except String Ref
    | [], _ =>
      if doubleQuoted && table.isNone then .ok (.literal col)
      else if table.isNone && lowerAscii col == "true" then .ok (.truth true)
      else if table.isNone && lowerAscii col == "false" then .ok (.truth false)
      else .error ("no such column: " ++ refText schema table col)
    | sc :: rest, depth =>
      let srcs := (List.range sc.sources.size).zip sc.sources.toList
      let srcs := srcs.filter fun (_, s) =>
        match schema with
        | some sch => (s.schema.map (sameName sch ·)).getD false
        | none => true
      let (cnt, found, rowidTabs) := matchSources srcs table col
      if cnt > 1 then .error ("ambiguous column name: " ++ refText schema table col)
      else if cnt == 1 then
        match found with
        | some (i, j) => .ok (.column depth i j)
        | none => .error ("no such column: " ++ refText schema table col)
      else
        -- special rows, named by a qualifier
        let special : Option Ref :=
          match table, schema with
          | some t, none =>
            match sc.specials.find? (fun r => sameName r.name t) with
            | some r => (r.lookup col).map (Ref.special r.name)
            | none => none
          | _, _ => none
        match special with
        | some r => .ok r
        | none =>
          if isRowidName col && !rowidTabs.isEmpty then
            if rowidTabs.length > 1 then .error ("ambiguous column name: " ++ refText schema table col)
            else .ok (.rowid depth rowidTabs.head!)
          else
            match (if table.isNone then sc.aliases.find? (fun (a, _) => sameName a col) else none) with
            | some (_, e) => .ok (.aliased depth e)
            | none => go rest (depth + 1)

end Payout.Database
