import Payout.Database.Scope
import Payout.Database.Session

/-!
# What a name in a `FROM` clause reads

A statement is prepared against a *context*: the main and temporary schemas, the queries
its `WITH` clauses name, and, inside a view or a trigger, the schema its names belong to.
A name in a `FROM` clause reads one of these relations, looked up in this order:

* a query of an enclosing `WITH` clause, innermost first (unless a schema is written);
* a table or view of the temporary schema, then of the main schema (or of the schema
  written, or of the schema a view or trigger belongs to);
* the schema table itself, `sqlite_master` (or `sqlite_temp_master`).

A name that reads nothing is `no such table: name`, with the schema in front when one was
written or fixed.

The columns of a query's result are named as a table made from it names them: its alias, or
the name of the column it reads, or its text; `true` and `false` become `columnN`; a name
already taken gets `:1`, `:2`, … appended.
-/

namespace Payout.Database

/-- A query named by a `WITH` clause: its name, the column names written with it, its query,
whether the clause was `WITH RECURSIVE`, and, while its own query is being read, the columns
it is known to have. -/
structure NamedQuery where
  name : String
  columns : List String
  query : Select
  recursive : Bool
  known : Option (Array ColumnShape)
deriving Inhabited

/-- What statements are prepared against. -/
structure Context where
  main : Schema
  temp : Schema
  ctes : List NamedQuery
  /-- The schema of the view or trigger being read, whose names are looked up there. -/
  fixed : Option String
  /-- The special rows (`NEW`, `OLD`) every scope of the statement sees. -/
  specials : List SpecialRow
deriving Inhabited

/-- What a name in a `FROM` clause reads. -/
inductive Relation where
  | table (schema : String) (t : Table)
  | view (schema : String) (v : View)
  /-- The schema table of the main (`false`) or temporary (`true`) schema. -/
  | master (temp : Bool)
  | named (q : NamedQuery)
deriving Inhabited

namespace Context

/-- The schema of a name: the temporary one for `temp`, else the main one. -/
def schemaOf (ctx : Context) (n : String) : Schema :=
  if isTempName n then ctx.temp else ctx.main

/-- The table or view of a name in a schema. -/
def relationIn (ctx : Context) (schemaName name : String) : Option Relation :=
  let temp := isTempName schemaName
  match (ctx.schemaOf schemaName).relationNamed? name with
  | some ⟨_, _, _, _, .table t⟩ => some (.table (if temp then "temp" else "main") t)
  | some ⟨_, _, _, _, .view v⟩ => some (.view (if temp then "temp" else "main") v)
  | _ => none

/-- The table or view of a name in a schema written with it, or its schema table: the
temporary schema answers to every name of a schema table. -/
def inSchema (ctx : Context) (schemaName name : String) : Option Relation :=
  let temp := isTempName schemaName
  if (if temp then isTempMasterName name || isMasterName name else isMasterName name) then
    some (.master temp)
  else ctx.relationIn schemaName name

/-- The context the names of a stored definition of a schema resolve in: no common table
expressions, and names bound to the definition's schema, except that a definition of the
temporary schema reads the temporary schema and then the main one. -/
def within (ctx : Context) (schemaName : String) : Context :=
  { ctx with ctes := [], fixed := if isTempName schemaName then none else some schemaName }

/-- Looks up what a name in a `FROM` clause reads. -/
def relation (ctx : Context) (schema : Option Ident) (name : String) : Except String Relation :=
  match schema with
  | some s =>
    if isMainName s.name || isTempName s.name then
      match ctx.inSchema s.name name with
      | some r => .ok r
      | none => .error ("no such table: " ++ s.name ++ "." ++ name)
    else .error ("no such table: " ++ s.name ++ "." ++ name)
  | none =>
    match ctx.ctes.find? (fun c => sameName c.name name) with
    | some c => .ok (.named c)
    | none =>
      match ctx.fixed with
      | some f =>
        match ctx.inSchema f name with
        | some r => .ok r
        | none => .error ("no such table: " ++ f ++ "." ++ name)
      | none =>
        match ctx.relationIn "temp" name with
        | some r => .ok r
        | none =>
          match ctx.relationIn "main" name with
          | some r => .ok r
          | none =>
            if isMasterName name then .ok (.master false)
            else if isTempMasterName name then .ok (.master true)
            else .error ("no such table: " ++ name)

/-- The table of a name, for statements that change rows: views and the schema tables are
refused by the caller. -/
def table? (ctx : Context) (schema : Option Ident) (name : String) : Option (String × Table) :=
  match ctx.relation schema name with
  | .ok (.table s t) => some (s, t)
  | _ => none

end Context

/-- The shape of a table's column. -/
def Column.shape (c : Column) : ColumnShape :=
  ⟨c.name, c.affinity, c.collation, c.declared, false⟩

/-- The shape of a table read under a name. -/
def Table.shape (t : Table) (name schema : String) : SourceShape :=
  ⟨name, some schema, t.columns.map Column.shape, t.hasRowid, [], false, t.rowidColumn, some t.name, false⟩

/-- The columns of the schema table. -/
def masterColumns : Array ColumnShape :=
  #[⟨"type", .text, .binary, "text", false⟩, ⟨"name", .text, .binary, "text", false⟩,
    ⟨"tbl_name", .text, .binary, "text", false⟩, ⟨"rootpage", .integer, .binary, "int", false⟩,
    ⟨"sql", .text, .binary, "text", false⟩]

/-- Whether a name is `true` or `false`, which cannot name a column of a result. -/
def isTruthName (n : String) : Bool :=
  let l := lowerAscii n
  l == "true" || l == "false"

/-- The stem a taken name is counted from: the name without a `:digits` ending. -/
def nameStem (n : String) : String :=
  let cs := n.toList
  let digits := min (cs.reverse.takeWhile Char.isDigit).length (cs.length - 1)
  let j := cs.length - 1 - digits
  if cs.length > 0 && cs[j]? == some ':' then String.ofList (cs.take j) else n

/-- The first of `stem:k`, `stem:(k+1)`, … that is not taken. -/
def freshName (taken : List String) (stem : String) : Nat → Nat → String
  | 0, k => stem ++ ":" ++ toString k
  | fuel + 1, k =>
    let candidate := stem ++ ":" ++ toString k
    if taken.any (sameName · candidate) then freshName taken stem fuel (k + 1) else candidate

/-- Makes the names of a result distinct: a name already taken loses a `:digits` ending and
gets `:1`, `:2`, … until it is free. -/
def distinctNames (names : List String) : List String :=
  names.foldl (fun taken n =>
    if taken.any (sameName · n) then taken ++ [freshName taken (nameStem n) (taken.length + 1) 1]
    else taken ++ [n]) []

end Payout.Database
