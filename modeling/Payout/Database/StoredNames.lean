import Payout.Database.Write.Prepare
import Payout.Database.Parse.Statement

/-!
# Names in stored definitions

The schema keeps each table, index, view and trigger as the text that defined it. Renaming a
table or a column edits that text in place, name by name, so that every definition reads
back as before under the new name; dropping a column cuts its definition out of the table's
text.

The names to edit are found by resolving a definition as the database resolves it, with the
walk watching for the names that resolve to what is renamed (`Watch`): a function or a
column of another table that happens to carry the name is left alone. Some names are found
by their place instead: the name a table or column is defined with, the parent table and
columns of a foreign key, the target of a trigger's statement, the columns an `UPDATE OF`
or an `INSERT` lists.

A name is replaced by the new name as written when both are bare words, else by the new
name in double quotes, with a space after it when a double quote follows. A double-quoted
name that resolved to nothing stood for a string; it becomes a single-quoted string, with a
space after it when a single quote follows.
-/

namespace Payout.Database

/-- Reads a stored definition back as a statement. -/
def readDefinition (sql : String) : Except String Statement :=
  let chars := sql.toList.toArray
  let tokens := tokenize sql
  let src : Source := ⟨chars, tokens, fun _ _ _ _ => none⟩
  match ((Parser.skipEmpty (tokens.size + 1)).run src).run 0 with
  | .error e => .error e.text
  | .ok (false, _) => .error "incomplete input"
  | .ok (true, start) =>
    match (Parser.statement.run src).run start with
    | .error e => .error e.text
    | .ok (s, _) => .ok s

/-! ### Edits of text -/

/-- A stretch of text, from `start` up to `stop`, replaced by another text. -/
structure Edit where
  start : Nat
  stop : Nat
  text : String
deriving Inhabited

/-- Applies edits to a text: from the last place to the first, so that the places of those
still to come stay right, and once for each place. -/
def applyEdits (text : String) (edits : List Edit) : String :=
  let sorted := edits.mergeSort fun a b => a.start ≥ b.start
  let distinct := sorted.foldl (fun (acc : List Edit) e =>
    match acc with
    | last :: _ => if last.start == e.start then acc else e :: acc
    | [] => [e]) []
  String.ofList (distinct.reverse.foldl (fun cs e => cs.take e.start ++ e.text.toList ++ cs.drop e.stop)
    text.toList)

/-- A name in double quotes, its double quotes doubled. -/
def doubleQuoted (n : String) : String :=
  "\"" ++ String.ofList (n.toList.flatMap fun c => if c == '"' then [c, c] else [c]) ++ "\""

/-- A text in single quotes, its single quotes doubled. -/
def singleQuoted (s : String) : String :=
  "'" ++ String.ofList (s.toList.flatMap fun c => if c == '\'' then [c, c] else [c]) ++ "'"

/-- The edit renaming a name of a text to `new`: the new name bare when it was written bare
and the name stands bare, else in double quotes. -/
def renameEdit (chars : Array Char) (quote : Bool) (new : String) (n : Ident) : Edit :=
  let bare := match chars[n.start]? with
    | some c => !isQuoteChar c
    | none => false
  let text := if !quote && bare then new
    else doubleQuoted new ++ (if chars[n.stop]? == some '"' then " " else "")
  ⟨n.start, n.stop, text⟩

/-- The edit making a double-quoted name that stands for a string a single-quoted string. -/
def stringEdit (chars : Array Char) (n : Ident) : Edit :=
  ⟨n.start, n.stop, singleQuoted n.name ++ (if chars[n.stop]? == some '\'' then " " else "")⟩

/-! ### Resolving stored definitions -/

/-- Resolves a query standing alone, in a context. -/
def queryNames (ctx : Context) (trigger : Bool) (q : Select) : CheckM Unit := do
  match expandSelect exprFuel ctx q with
  | .error m => throw m
  | .ok () => pure ()
  let _ ← checkSelect exprFuel ctx [] trigger q

/-- Resolves a view's query as reading the view does: its names belong to its schema. -/
def viewNames (ctx : Context) (schemaName : String) (q : Select) : CheckM Unit :=
  queryNames (ctx.within schemaName) false q

/-- The change a trigger fires on, as the special rows it sees know it. -/
def TriggerEvent.change : TriggerEvent → ChangeKind
  | .insert => .insert
  | .update cols => .update (cols.map (·.name))
  | .delete => .delete

/-- The table or view a trigger is on: in the trigger's schema, or, for a temporary trigger,
in the temporary schema and then the main one. -/
def triggerTarget (ctx : Context) (schemaName : String) (d : TriggerDef) : Except String Target := do
  let rel ← if isTempName schemaName then ctx.relation none d.table.name
    else ctx.relation (some (Ident.plain schemaName)) d.table.name
  match rel with
  | .table s t => pure (.table s t)
  | .view s v => do
    let cols ← viewColumns ctx s v
    pure (.view s v cols)
  | _ => throw ("no such table: " ++ (if isTempName schemaName then "" else schemaName ++ ".") ++ d.table.name)

/-- Resolves a statement of a trigger's program as the trigger reads it: the query or the
rows of an `INSERT`, then the target with the `FROM` terms of an `UPDATE`, the assignments,
the condition and the `ON CONFLICT` clauses. -/
def stepNames (ctx : Context) (step : TriggerStep) : CheckM Unit := do
  let rules := Rules.query true .refused
  let bare : ScopeShape := ⟨#[], [], ctx.specials⟩
  match step with
  | .select q => queryNames ctx true q
  | .insert i => do
    match i.source with
    | .values rows => for row in rows do for e in row do checkWhole exprFuel ctx [bare] rules e
    | .query q => queryNames ctx true q
    | .defaults => pure ()
    let tg ← itemShape exprFuel ctx [] true (.table i.schema i.table i.asName)
    let excluded : SpecialRow := ⟨"excluded", tg.columns, tg.rowidColumn, tg.rowid⟩
    let scope : ScopeShape := ⟨#[tg], [], ctx.specials ++ [excluded]⟩
    CheckM.withExcluded tg do
      for up in i.upserts do
        for t in up.target do checkWhole exprFuel ctx [scope] rules t.expr
        for w in up.targetWhere.toList do checkWhole exprFuel ctx [scope] rules w
        match up.assignments with
        | some (sets, w) =>
          for (_, e) in sets do checkWhole exprFuel ctx [scope] rules e
          for x in w.toList do checkWhole exprFuel ctx [scope] rules x
        | none => pure ()
  | .update u => do
    let tg ← itemShape exprFuel ctx [] true (.table u.schema u.table u.asName)
    let (more, ons) ← match u.source with
      | some f => fromShapes exprFuel ctx [] true f
      | none => pure (#[], [])
    let scope : ScopeShape := ⟨#[tg] ++ more, [], ctx.specials⟩
    for (_, e) in u.assignments do checkWhole exprFuel ctx [scope] rules e
    for o in ons do checkWhole exprFuel ctx [scope] rules o
    for w in u.condition.toList do checkWhole exprFuel ctx [scope] rules w
  | .delete d => do
    let tg ← itemShape exprFuel ctx [] true (.table d.schema d.table d.asName)
    let scope : ScopeShape := ⟨#[tg], [], ctx.specials⟩
    for w in d.condition.toList do checkWhole exprFuel ctx [scope] rules w

/-- Resolves a trigger as it reads when it fires: its condition and its statements see the
special rows of its table and read their names in the trigger's schema. -/
def triggerNames (ctx : Context) (schemaName : String) (d : TriggerDef) : CheckM Unit := do
  let tg ← match triggerTarget ctx schemaName d with
    | .ok tg => pure tg
    | .error m => throw m
  let specials := changeSpecials tg d.event.change
  let pctx := { ctx.within schemaName with specials := specials }
  for w in d.condition.toList do
    checkWhole exprFuel pctx [⟨#[], [], specials⟩] (Rules.query true .refused) w
  for st in d.program do stepNames pctx st

/-- The scope of a table's own expressions. -/
def ownScope (schemaName : String) (t : Table) : ScopeShape :=
  ⟨#[t.shape t.name schemaName], [], []⟩

/-- The foreign keys written in a table's definition: each parent with its child columns
(none when written on a column). -/
def foreignKeysWritten (cols : List ColumnDef) (cons : List TableConstraint) :
    List (Option (List Ident) × References) :=
  (cols.flatMap fun c => c.constraints.filterMap fun cc =>
    match cc.kind with
    | .references r => some (none, r)
    | _ => none) ++
  cons.filterMap fun tc =>
    match tc.kind with
    | .foreignKey cs r => some (some cs, r)
    | _ => none

/-- The checks written in a table's definition. -/
def checksWritten (cols : List ColumnDef) (cons : List TableConstraint) : List Expr :=
  (cols.flatMap fun c => c.constraints.filterMap fun cc =>
    match cc.kind with
    | .check e _ => some e
    | _ => none) ++
  cons.filterMap fun tc =>
    match tc.kind with
    | .check e _ => some e
    | _ => none

/-- The expressions of the generated columns of a table's definition. -/
def generatedWritten (cols : List ColumnDef) : List Expr :=
  cols.flatMap fun c => c.constraints.filterMap fun cc =>
    match cc.kind with
    | .generated e _ => some e
    | _ => none

/-- The names among a list that equal a name. -/
def namesEqual (old : String) (ns : List Ident) : List Ident :=
  ns.filter fun n => sameName n.name old

/-- Resolves the expressions of a stored definition the way renaming reads them, with the
table it belongs to when it is a table or an index: a table's checks and generated columns,
an index's terms and condition, a view's query, a trigger. -/
def definitionNames (ctx : Context) (schemaName : String) (own : Option Table) (s : Statement)
    (generated : Bool) : CheckM Unit :=
  match s, own with
  | .createTable _ _ _ _ (.columns cols cons _ _ _) _, some t => do
    for e in checksWritten cols cons do
      checkWhole exprFuel ctx [ownScope schemaName t] ⟨.check, .refused, false⟩ e
    if generated then
      for e in generatedWritten cols do
        checkWhole exprFuel ctx [ownScope schemaName t] ⟨.generated, .refused, false⟩ e
  | .createIndex _ _ _ _ _ terms cond _, some t => do
    for c in terms do checkWhole exprFuel ctx [ownScope schemaName t] ⟨.indexExpr, .refused, false⟩ c.expr
    for w in cond.toList do
      checkWhole exprFuel ctx [ownScope schemaName t] ⟨.partialIndex, .refused, false⟩ w
  | .createView _ _ _ _ _ q _, _ => viewNames ctx schemaName q
  | .createTrigger _ _ _ d _, _ => triggerNames ctx schemaName d
  | _, _ => pure ()

/-! ### Renaming a column -/

/-- The rename of a column: the schema and table it belongs to, its place and its name. -/
structure ColumnRename where
  schema : String
  table : Table
  col : Nat
  old : String
deriving Inhabited

/-- Whether the column is the row identifier's alias, which the row identifier's other names
also reach. -/
def ColumnRename.isRowid (r : ColumnRename) : Bool := r.table.rowidColumn == some r.col

/-- What the walk watches for: the column, and the special rows `new` and `old` when the
trigger read is on the column's table. -/
def ColumnRename.watch (r : ColumnRename) (onTable : Bool) : Watch :=
  .column r.schema r.table.name r.col r.isRowid (if onTable then ["new", "old"] else [])

/-- The names of a stored definition that name the renamed column: in its own table, its
definition, the key terms, checks and generated columns that read it, and the child columns
of foreign keys; in any table, the parent columns of foreign keys to its table; in an index
of its table, a view or a trigger, the names that resolve to it, and in a trigger the
columns listed by `UPDATE OF` on its table and by its statements on its table. -/
def ColumnRename.names (r : ColumnRename) (ctx : Context) (schemaName : String) (s : Statement) :
    Except String (List Ident) :=
  match s with
  | .createTable _ _ _ n (.columns cols cons _ _ _) _ => do
    let parents := (foreignKeysWritten cols cons).flatMap fun (_, ref) =>
      if sameName ref.parent.name r.table.name then namesEqual r.old ref.columns else []
    if !sameName n.name r.table.name then return parents
    let (_, found) ← CheckM.watching (r.watch false)
      (definitionNames ctx r.schema (some r.table) s true)
    let defined := (cols[r.col]?.map (·.name)).toList
    let keyTerms := cons.flatMap fun tc =>
      match tc.kind with
      | .primaryKey terms _ _ | .unique terms _ =>
        namesEqual r.old (terms.filterMap IndexedColumn.column?)
      | _ => []
    let children := (foreignKeysWritten cols cons).flatMap fun (cs, _) => namesEqual r.old (cs.getD [])
    pure (defined ++ keyTerms ++ found.names ++ children ++ parents)
  | .createIndex _ _ _ _ _ _ _ _ => do
    let (_, found) ← CheckM.watching (r.watch false) (definitionNames ctx r.schema (some r.table) s false)
    pure found.names
  | .createView _ _ _ _ _ _ _ => do
    let (_, found) ← CheckM.watching (r.watch false) (definitionNames ctx schemaName none s false)
    pure found.names
  | .createTrigger _ _ _ d _ => do
    let onTable := match triggerTarget ctx schemaName d with
      | .ok (.table ts t) => sameName ts r.schema && sameName t.name r.table.name
      | _ => false
    let (_, found) ← CheckM.watching (r.watch onTable) (definitionNames ctx schemaName none s false)
    let targets := d.program.flatMap fun st =>
      let aimed := fun (tn : Ident) => sameName tn.name r.table.name
      match st with
      | .insert i =>
        if aimed i.table then
          namesEqual r.old (i.columns.getD []) ++ i.upserts.flatMap fun up =>
            match up.assignments with
            | some (sets, _) => namesEqual r.old (sets.flatMap Prod.fst)
            | none => []
        else []
      | .update u => if aimed u.table then namesEqual r.old (u.assignments.flatMap Prod.fst) else []
      | _ => []
    let watched := match d.event with
      | .update cols => if onTable then namesEqual r.old cols else []
      | _ => []
    pure (found.names ++ targets ++ watched)
  | _ => pure []

/-! ### Renaming a table -/

/-- The rename of a table: its schema and name, and whether the older rules apply (only the
table's own name and, with foreign keys enforced, the parents of foreign keys change). -/
structure TableRename where
  schema : String
  table : Table
  legacy : Bool
  foreignKeys : Bool
deriving Inhabited

/-- The names of a stored definition that name the renamed table: the parent of a foreign
key; the table's own name; the table an index or a trigger is on; and, unless the older rules
apply, the names that resolve to it in checks, index conditions, views and triggers, and the
targets and `FROM` terms of a trigger's statements. -/
def TableRename.names (r : TableRename) (ctx : Context) (schemaName : String) (s : Statement) :
    Except String (List Ident) :=
  let old := r.table.name
  let watch : Watch := .table r.schema old
  match s with
  | .createTable _ _ _ n (.columns cols cons _ _ _) _ => do
    let parents := if !r.legacy || r.foreignKeys then
        (foreignKeysWritten cols cons).filterMap fun (_, ref) =>
          if sameName ref.parent.name old then some ref.parent else none
      else []
    if !sameName n.name old then return parents
    let found ← if r.legacy then pure [] else do
      let (_, f) ← CheckM.watching watch (definitionNames ctx r.schema (some r.table) s false)
      pure f.names
    pure (parents ++ found ++ [n])
  | .createIndex _ _ _ _ tn _ cond _ => do
    let found ← if r.legacy then pure [] else do
      let (_, f) ← CheckM.watching watch
        (for w in cond.toList do
          checkWhole exprFuel ctx [ownScope r.schema r.table] ⟨.partialIndex, .refused, false⟩ w)
      pure f.names
    pure (tn :: found)
  | .createView _ _ _ _ _ _ _ => do
    if r.legacy then return []
    let (_, f) ← CheckM.watching watch (definitionNames ctx schemaName none s false)
    pure f.names
  | .createTrigger _ _ _ d _ => do
    let onTable := match triggerTarget ctx schemaName d with
      | .ok (.table ts t) => sameName ts r.schema && sameName t.name old
      | _ => false
    let own := if onTable then [d.table] else []
    if r.legacy then return own
    let (_, f) ← CheckM.watching watch (definitionNames ctx schemaName none s false)
    let targets := d.program.flatMap fun st =>
      let named := fun (tn : Ident) => if sameName tn.name old then [tn] else []
      match st with
      | .insert i => named i.table
      | .update u =>
        named u.table ++ match u.source with
          | some (.mk first joins) =>
            (first :: joins.map fun (.mk _ item _ _) => item).flatMap fun item =>
              match item with
              | .table _ tn _ => named tn
              | _ => []
          | none => []
      | .delete del => named del.table
      | .select _ => []
    pure (own ++ f.names ++ targets)
  | _ => pure []

/-! ### Strings written as names -/

/-- The double-quoted names of a stored definition that stand for strings. -/
def quotedStrings (ctx : Context) (schemaName : String) (own : Option Table) (s : Statement) :
    Except String (List Ident) := do
  let (_, f) ← CheckM.watching .strings (definitionNames ctx schemaName own s true)
  pure f.quoted

end Payout.Database
