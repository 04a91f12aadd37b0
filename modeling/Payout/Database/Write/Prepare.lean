import Payout.Database.Write.Keys

/-!
# Preparing statements that change rows

Before a statement that changes rows touches a row, all of it is resolved: its target, the
columns it names, its expressions, the programs of every trigger it may fire (and of the
triggers those fire, each once for each way of resolving conflicts), the parent tables of
the foreign keys it checks and the programs of their actions, and its `RETURNING` clause. The
first problem found is the statement's error, and nothing is changed.

A trigger's program sees the row it fires for as `NEW` (inserts and updates) and `OLD`
(updates and deletes); the names of a trigger of the main schema are looked up there only.
A foreign key action is a program of one statement on the child table: `DELETE` for a
cascading delete, `UPDATE` for `SET NULL`, `SET DEFAULT` and a cascading update, and a
`SELECT` that raises the failure for `RESTRICT`.
-/

namespace Payout.Database

/-- What a statement that changes rows writes to: a table, or a view whose `INSTEAD OF`
triggers do the work, with the view's columns. -/
inductive Target where
  | table (schema : String) (t : Table)
  | view (schema : String) (v : View) (columns : Array ColumnShape)
deriving Inhabited

namespace Target

/-- The schema of a target. -/
def schema : Target → String
  | .table s _ | .view s _ _ => s

/-- The name of a target. -/
def name : Target → String
  | .table _ t => t.name
  | .view _ v _ => v.name

/-- The columns of a target. -/
def columns : Target → Array ColumnShape
  | .table _ t => t.columns.map Column.shape
  | .view _ _ cols => cols

/-- Whether a target has row identifiers a statement may name. -/
def hasRowid : Target → Bool
  | .table _ t => t.hasRowid
  | .view _ _ _ => true

/-- Whether a column of a target is generated. -/
def isGenerated (tg : Target) (j : Nat) : Bool :=
  match tg with
  | .table _ t => ((t.columns[j]?).map (·.generated.isSome)).getD false
  | .view _ _ _ => false

/-- A target as a source of rows under a name. -/
def shape (tg : Target) (shown : String) : SourceShape :=
  match tg with
  | .table s t => t.shape shown s
  | .view s _ cols => ⟨shown, some s, cols, false, [], false, none, none, false⟩

/-- A target's row as a special row of a name. -/
def specialRow (tg : Target) (name : String) : SpecialRow :=
  match tg with
  | .table _ t => ⟨name, t.columns.map Column.shape, t.rowidColumn, t.hasRowid⟩
  | .view _ _ cols => ⟨name, cols, none, false⟩

end Target

/-- The change a statement makes to a row; an update names the columns it sets. -/
inductive ChangeKind where
  | insert
  | update (columns : List String)
  | delete
deriving Inhabited

/-- Whether a trigger fires on a change: an update trigger naming columns fires only when
the update sets one of them. -/
def Trigger.firesOn (tr : Trigger) (kind : ChangeKind) : Bool :=
  match tr.event, kind with
  | .insert, .insert | .delete, .delete => true
  | .update cols, .update set => cols.isEmpty || set.any fun n => cols.any (sameName ·.name n)
  | _, _ => false

/-- Whether a trigger runs before the change (or instead of it). -/
def Trigger.isBefore (tr : Trigger) : Bool := tr.time != .after

/-- The special rows of a program run for a change: `NEW` and `OLD` as the change has them. -/
def changeSpecials (tg : Target) : ChangeKind → List SpecialRow
  | .insert => [tg.specialRow "new"]
  | .update _ => [tg.specialRow "new", tg.specialRow "old"]
  | .delete => [tg.specialRow "old"]

/-- The triggers of a table or view with the schema each belongs to, in the order they fire:
those of the temporary schema on a table of the main one first, then the table's own, each
newest first. -/
def triggersOn (main temp : Schema) (schemaName name : String) : List (String × Trigger) :=
  let ownSchema := if isTempName schemaName then "temp" else "main"
  let own := ((if isTempName schemaName then temp else main).triggersOf name).reverse.map (ownSchema, ·)
  let fromTemp :=
    if isTempName schemaName || (temp.relationNamed? name).isSome then []
    else (temp.triggersOf name).reverse.map ("temp", ·)
  fromTemp ++ own

/-- A program run for a row change: its identity (a trigger's name, or a foreign key's), whether
it is a trigger (which does not run again inside itself unless recursive triggers are on),
the schema its names belong to, its condition, its statements and the special rows it sees. -/
structure Program where
  key : String
  isTrigger : Bool
  schema : String
  condition : Option Expr
  steps : List TriggerStep
deriving Inhabited

/-- The program of a trigger. -/
def Trigger.toProgram (schemaName : String) (tr : Trigger) : Program :=
  ⟨schemaName ++ "." ++ lowerAscii tr.name, true, schemaName, tr.condition, tr.program⟩

/-- The context a program's statements are resolved in. -/
def Program.context (pg : Program) (ctx : Context) (specials : List SpecialRow) : Context :=
  { ctx with ctes := [], fixed := if isTempName pg.schema then none else some pg.schema,
             specials := specials }

/-- Joins conditions with `AND`, left to right. -/
def conjoin : List Expr → Option Expr
  | [] => none
  | e :: rest => some (rest.foldl (fun acc x => .binary .and acc x) e)

/-- The name of a column of a table. -/
def Table.columnName (t : Table) (j : Nat) : String := ((t.columns[j]?).map (·.name)).getD ""

/-- The pairs of child and parent columns of a parent key. -/
def ParentKey.pairs (key : ParentKey) (parent : Table) : List (Nat × Nat) :=
  match key with
  | .rowid c => [(c, parent.rowidColumn.getD 0)]
  | .index _ ps => ps

/-- The program a foreign key runs on the child rows of a parent row that is deleted, or whose
key is updated: none when the key takes no action, or when it restricts while checks are
deferred. The child rows are those whose key equals the parent's old key, compared under the
parent column's affinity and collation. -/
def keyActionProgram (schemaName : String) (parent child : Table) (fkIndex : Nat)
    (fk : ForeignKey) (key : ParentKey) (onUpdate deferFks : Bool) : Option Program :=
  let pairs := key.pairs parent
  let special := fun (row : String) (j : Nat) =>
    Expr.column none (some (Ident.plain row)) (Ident.plain (parent.columnName j))
  let childRef := fun (j : Nat) => Expr.column none none (Ident.plain (child.columnName j))
  let cond := conjoin (pairs.map fun (c, p) => .binary .eq (special "old" p) (childRef c))
  let when := if onUpdate then
      (conjoin (pairs.map fun (_, p) => .binary .is (special "old" p) (special "new" p))).map
        (.unary .not)
    else none
  let action := if onUpdate then fk.onUpdate else fk.onDelete
  let target := Ident.plain child.name
  let update := fun (value : Nat → Nat → Expr) =>
    TriggerStep.update ⟨[], none, none, target, none,
      pairs.map (fun (c, p) => ([Ident.plain (child.columnName c)], value c p)), none, cond, [], [],
      none⟩
  let step : Option TriggerStep := match action with
    | .noAction => none
    | .restrict =>
      if deferFks then none
      else
        let raise := Expr.raise .abort (some (.lit (.text "FOREIGN KEY constraint failed")))
        let src := FromClause.mk (.table (some (Ident.plain schemaName)) target none) []
        some (.select (.mk [] false (.core (.select false [.expr raise none "RAISE"] (some src) cond
          [] none [])) [] none none))
    | .cascade =>
      if onUpdate then some (update fun _ p => special "new" p)
      else some (.delete ⟨[], none, target, none, cond, [], [], none⟩)
    | .setNull => some (update fun _ _ => .lit .null)
    | .setDefault =>
      some (update fun c _ =>
        match child.columns[c]? with
        | some col =>
          if col.generated.isSome then .lit .null
          else ((col.default.map Prod.fst).getD (.lit .null))
        | none => .lit .null)
  step.map fun s =>
    ⟨"\x00key " ++ lowerAscii child.name ++ " " ++ toString fkIndex ++ (if onUpdate then " update" else " delete"),
      false, schemaName, when, [s]⟩

/-- The foreign keys of a schema pointing at a table, with their place among their table's
keys, newest first. -/
def Schema.referencingAt (s : Schema) (parent : String) : List (Table × Nat × ForeignKey) :=
  (s.tables.flatMap fun t =>
    ((List.range t.foreignKeys.length).zip t.foreignKeys).filterMap fun (i, fk) =>
      if sameName fk.parent parent then some (t, i, fk) else none).reverse

/-! ### Resolving -/

/-- Resolves an expression of a statement that changes rows. -/
def resolveIn (ctx : Context) (scopes : List ScopeShape) (trigger : Bool) (e : Expr) :
    Except String Unit :=
  (checkWhole exprFuel ctx scopes (Rules.query trigger .refused) e).finish

/-- The context of a statement with its `WITH` clause. -/
def withClause (ctx : Context) (trigger : Bool) (ctes : List Cte) : Except String Context :=
  (withCtes exprFuel ctx [] trigger true ctes).finish

/-- Finds what a statement that changes rows names as its target; `WITH` names do not count. -/
def locateTarget (ctx : Context) (schema : Option Ident) (name : Ident) : Except String Relation :=
  ({ ctx with ctes := [] } : Context).relation schema name.name

/-- The columns of a view, resolved in its schema. -/
def viewColumns (ctx : Context) (schemaName : String) (v : View) : Except String (Array ColumnShape) := do
  let s ← (itemShape exprFuel { ctx with ctes := [] } [] false
    (.table (some (Ident.plain schemaName)) (Ident.plain v.name) none)).finish
  pure s.columns

/-- The target of a change: a table, or a view with a trigger doing the change instead. -/
def writableTarget (ctx : Context) (rel : Relation) (kind : ChangeKind) : Except String Target :=
  match rel with
  | .table s t => .ok (.table s t)
  | .master temp =>
    .error ("table " ++ (if temp then "sqlite_temp_master" else "sqlite_master") ++ " may not be modified")
  | .view s v => do
    let cols ← viewColumns ctx s v
    if (triggersOn ctx.main ctx.temp s v.name).any (fun (_, tr) => tr.firesOn kind) then
      pure (.view s v cols)
    else throw ("cannot modify " ++ v.name ++ " because it is a view")
  | .named nq => .error ("no such table: " ++ nq.name)

/-- The name messages give a target by: its alias, else its name as written. -/
def shownName (schema : Option Ident) (name : Ident) (asName : Option Ident) : String :=
  match asName with
  | some a => a.name
  | none =>
    match schema with
    | some s => s.name ++ "." ++ name.name
    | none => name.name

/-- The scope a target's rows are read in. -/
def targetScope (ctx : Context) (tg : Target) (shown : String) : ScopeShape :=
  ⟨#[tg.shape shown], [], ctx.specials⟩

/-- Resolves a `RETURNING` clause over the target's row. -/
def resolveReturning (ctx : Context) (tg : Target) (shown : String) (ret : Returning) :
    Except String Unit := do
  if ret.isEmpty then return
  let src := tg.shape shown
  let items ← expandResult #[src] true ret
  for it in items do resolveIn ctx [⟨#[src], [], ctx.specials⟩] false it.expr

/-- Splits assignments into one per column: a row value gives each column its own part; a
subquery gives each column one of its columns. -/
def splitAssignments (sets : List (List Ident × Expr)) : Except String (List (Ident × Expr)) :=
  sets.flatMapM fun (names, e) =>
    match names with
    | [n] => .ok [(n, e)]
    | _ =>
      match e with
      | .vector items =>
        if items.length != names.length then
          .error (toString names.length ++ " columns assigned " ++ toString items.length ++ " values")
        else .ok (names.zip items)
      | .subquery _ => .ok (names.map (·, e))
      | _ => .error (toString names.length ++ " columns assigned 1 values")

/-- The column an assignment sets: `some j`, or none for the row identifier. -/
def assignedColumn (tg : Target) (n : Ident) : Except String (Option Nat) :=
  match tg.columns.findIdx? (sameName ·.name n.name) with
  | some j =>
    if tg.isGenerated j then
      .error ("cannot UPDATE generated column \"" ++ ((tg.columns[j]?).map (·.name)).getD n.name ++ "\"")
    else
      match tg with
      | .table _ t => if t.rowidColumn == some j then .ok none else .ok (some j)
      | .view _ _ _ => .ok (some j)
  | none =>
    if isRowidName n.name && tg.hasRowid then .ok none
    else .error ("no such column: " ++ n.name)

/-- The table columns and row identifier a list of assignments changes. -/
def changedColumns (tg : Target) (sets : List (Ident × Expr)) : List Nat × Bool :=
  sets.foldl (fun (cols, rowid) (n, _) =>
    match assignedColumn tg n with
    | .ok (some j) => (if cols.contains j then cols else cols ++ [j], rowid)
    | .ok none => (cols, true)
    | .error _ => (cols, rowid)) ([], false)

/-- Whether an upsert's target is the row identifier of a table. -/
def Upsert.namesRowid (up : Upsert) (t : Table) : Bool :=
  t.hasRowid && match up.target with
    | [c] =>
      match c.column? with
      | some n =>
        match t.columnIndex? n.name with
        | some j => t.rowidColumn == some j
        | none => isRowidName n.name
      | none => false
    | _ => false

/-- Whether an upsert's target is a uniqueness index: its columns in any order, and the
index's condition only when the target has one. -/
def Upsert.namesIndex (up : Upsert) (ix : Index) : Bool :=
  ix.unique && ix.keys.length == up.target.length &&
    (ix.condition.isNone || up.targetWhere.isSome) &&
    ix.keys.all fun k =>
      match k.column with
      | some c => up.target.any fun tc => (tc.column?.map (sameName ·.name c)).getD false
      | none => false

/-- What an upsert's target matches: `some none` for the row identifier, `some (some ix)`
for an index, none for nothing. -/
def upsertMatch (s : Schema) (t : Table) (up : Upsert) : Option (Option Index) :=
  if up.namesRowid t then some none
  else ((s.indexesOf t.name).reverse.find? up.namesIndex).map some

/-- The message of an upsert whose target matches no constraint. -/
def upsertMismatch (which : Nat) (count : Nat) : String :=
  (if count > 1 then ordinal which ++ " " else "") ++
    "ON CONFLICT clause does not match any PRIMARY KEY or UNIQUE constraint"

/-! ### Foreign keys -/

/-- Why a key of a child table cannot be checked: its parent table is missing, or has no
usable key. -/
def childKeyError (s : Schema) (schemaName : String) (t : Table) (fk : ForeignKey) :
    Option String :=
  match s.table? fk.parent with
  | some p =>
    match locateParentKey s t p fk with
    | .ok _ => none
    | .error m => some m
  | none =>
    if (s.view? fk.parent).isSome then some (mismatchMessage t fk)
    else some ("no such table: " ++ schemaName ++ "." ++ fk.parent)

/-- Why a key pointing at a table cannot be checked: the table has no usable key for it. -/
def parentKeyError (s : Schema) (t child : Table) (fk : ForeignKey) : Option String :=
  match locateParentKey s child t fk with
  | .ok _ => none
  | .error m => some m

/-- Throws the first of some possible errors. -/
def firstError (errs : List (Option String)) : Except String Unit :=
  match errs.findSome? id with
  | some m => .error m
  | none => .ok ()

/-- The problems of the foreign keys a row change checks, in the order they are met: for a
removal the keys pointing at the table first, then the table's own keys and again those
pointing at it, each only when the change touches its columns. -/
def keyCheckErrors (s : Schema) (schemaName : String) (t : Table) (kind : ChangeKind)
    (changed : Option (List Nat × Bool)) : Except String Unit := do
  let own := t.foreignKeys.reverse.filter fun fk =>
    match changed with
    | some (cols, r) => sameName t.name fk.parent || Write.childTouched t fk cols r
    | none => true
  let pointing := (s.referencing t.name).filter fun (_, fk) =>
    match changed with
    | some (cols, r) => Write.parentTouched t fk cols r
    | none => true
  let required := !own.isEmpty || !pointing.isEmpty
  match kind with
  | .insert =>
    firstError (own.map (childKeyError s schemaName t))
    firstError (pointing.map fun (c, fk) => parentKeyError s t c fk)
  | _ =>
    if required then
      firstError ((s.referencing t.name).map fun (c, fk) => parentKeyError s t c fk)
      firstError (own.map (childKeyError s schemaName t))
      firstError (pointing.map fun (c, fk) => parentKeyError s t c fk)

/-- The action programs of the keys pointing at a table that a removal or an update of its
rows runs. -/
def keyActions (s : Schema) (schemaName : String) (t : Table) (settings : Settings)
    (changed : Option (List Nat × Bool)) : List Program :=
  if !settings.foreignKeys then []
  else
    (s.referencingAt t.name).filterMap fun (child, i, fk) =>
      let touched := match changed with
        | some (cols, r) => Write.parentTouched t fk cols r
        | none => true
      if !touched then none
      else
        match locateParentKey s child t fk with
        | .ok key =>
          keyActionProgram schemaName t child i fk key changed.isSome settings.deferForeignKeys
        | .error _ => none

/-! ### Preparing -/

/-- Preparing: the programs prepared so far, by identity and resolution, and the first error. -/
abbrev PrepareM := StateT (List (String × Option Resolution)) (Except String)

/-- The result of a check that may fail. -/
def PrepareM.lift {α : Type} (r : Except String α) : PrepareM α :=
  match r with
  | .ok a => pure a
  | .error m => throw m

/-- The resolution a program's statement uses: the one its firing statement gives, else its own. -/
def stepResolution (given own : Option Resolution) : Option Resolution :=
  match given with
  | some r => some r
  | none => own

/-- Whether a conflict may be resolved by deleting rows, which fires delete triggers and
foreign key work. -/
def mayReplace (s : Schema) (t : Table) (res : Option Resolution) : Bool :=
  match res with
  | some r => r == .replace
  | none => t.rowidConflict == .replace || (s.indexesOf t.name).any (·.onConflict == .replace)

mutual

/-- Prepares an `INSERT`. -/
def prepareInsert (fuel : Nat) (settings : Settings) (ctx : Context) (trigger : Bool)
    (ins : Insert) (res : Option Resolution) : PrepareM Unit :=
  match fuel with
  | 0 => throw "statement is nested too deeply"
  | fuel + 1 => do
    match ins.source with
    | .values rows =>
      let w := (rows.head?.map List.length).getD 0
      if rows.any (·.length != w) then throw "all VALUES must have the same number of terms"
    | _ => pure ()
    let ctxW ← PrepareM.lift (withClause ctx trigger ins.ctes)
    let rel ← PrepareM.lift (locateTarget ctx ins.schema ins.table)
    let tg ← PrepareM.lift (writableTarget ctx rel .insert)
    let shown := shownName ins.schema ins.table ins.asName
    let cols := tg.columns
    for n in (ins.columns.getD []) do
      match cols.findIdx? (sameName ·.name n.name) with
      | some j =>
        if tg.isGenerated j then
          throw ("cannot INSERT into generated column \"" ++ ((cols[j]?).map (·.name)).getD n.name ++ "\"")
      | none =>
        if !(isRowidName n.name && tg.hasRowid) then
          throw ("table " ++ shown ++ " has no column named " ++ n.name)
    let bare : ScopeShape := ⟨#[], [], ctx.specials⟩
    let width ← match ins.source with
      | .values rows =>
        match rows with
        | [row] => do
          for e in row do PrepareM.lift (resolveIn ctxW [bare] trigger e)
          pure row.length
        | _ => do
          let _ ← PrepareM.lift (prepareSelect ctxW [] trigger
            (.mk [] false (.core (.values rows)) [] none none))
          pure ((rows.head?.map List.length).getD 0)
      | .query q => do
        let shape ← PrepareM.lift (prepareSelect ctxW [] trigger q)
        pure shape.size
      | .defaults => pure 0
    match ins.columns with
    | none =>
      let visible := ((List.range cols.size).filter fun j => !tg.isGenerated j).length
      if width > 0 && width != visible then
        throw ("table " ++ shown ++ " has " ++ toString visible ++ " columns but " ++
          toString width ++ " values were supplied")
    | some names =>
      if width != names.length then
        throw (toString width ++ " values for " ++ toString names.length ++ " columns")
    -- the targets of the upserts
    if !ins.upserts.isEmpty then
      match tg with
      | .view _ _ _ => throw "cannot UPSERT a view"
      | .table s t =>
        let scope := targetScope ctx tg shown
        let count := ins.upserts.length
        for (up, i) in ins.upserts.zip (List.range count) do
          if !up.target.isEmpty then
            for c in up.target do PrepareM.lift (resolveIn ctx [scope] trigger c.expr)
            for w in up.targetWhere.toList do PrepareM.lift (resolveIn ctx [scope] trigger w)
            if (upsertMatch (ctx.schemaOf s) t up).isNone then throw (upsertMismatch (i + 1) count)
    -- the programs the rows may run
    preparePrograms fuel settings ctx tg .insert true res
    match tg with
    | .table s t =>
      let sch := ctx.schemaOf s
      if mayReplace sch t res then prepareRemoval fuel settings ctx s t (some .replace)
      for up in ins.upserts do
        match up.assignments with
        | some (sets, w) =>
          let excluded := tg.specialRow "excluded"
          let uctx := { ctx with specials := ctx.specials ++ [excluded] }
          let u : Update := ⟨[], some .abort, ins.schema, ins.table, ins.asName, sets, none, w, [], [],
            none⟩
          prepareUpdate fuel settings uctx trigger u (some .abort)
        | none => pure ()
      if settings.foreignKeys then PrepareM.lift (keyCheckErrors sch s t .insert none)
    | .view _ _ _ => pure ()
    preparePrograms fuel settings ctx tg .insert false res
    PrepareM.lift (resolveReturning ctx tg shown ins.returning)

/-- Prepares an `UPDATE`. -/
def prepareUpdate (fuel : Nat) (settings : Settings) (ctx : Context) (trigger : Bool)
    (u : Update) (res : Option Resolution) : PrepareM Unit :=
  match fuel with
  | 0 => throw "statement is nested too deeply"
  | fuel + 1 => do
    let ctxW ← PrepareM.lift (withClause ctx trigger u.ctes)
    let sets ← PrepareM.lift (splitAssignments u.assignments)
    let kind := ChangeKind.update (sets.map (·.1.name))
    let rel ← PrepareM.lift (locateTarget ctx u.schema u.table)
    let tg ← PrepareM.lift (writableTarget ctx rel kind)
    let shown := shownName none u.table u.asName
    let scope := targetScope ctxW tg shown
    match u.source with
    | none =>
      for (n, e) in sets do
        PrepareM.lift (resolveIn ctxW [scope] trigger e)
        let _ ← PrepareM.lift (assignedColumn tg n)
      for w in u.condition.toList do PrepareM.lift (resolveIn ctxW [scope] trigger w)
    | some f =>
      for (n, _) in sets do
        let _ ← PrepareM.lift (assignedColumn tg n)
      let (srcs, ons) ← PrepareM.lift ((fromShapes exprFuel ctxW [] trigger f).finish)
      let joined : ScopeShape := ⟨#[tg.shape shown] ++ srcs, [], ctxW.specials⟩
      for (_, e) in sets do PrepareM.lift (resolveIn ctxW [joined] trigger e)
      for w in u.condition.toList ++ ons do PrepareM.lift (resolveIn ctxW [joined] trigger w)
    preparePrograms fuel settings ctx tg kind true res
    preparePrograms fuel settings ctx tg kind false res
    match tg with
    | .table s t =>
      let sch := ctx.schemaOf s
      let changed := changedColumns tg sets
      if settings.foreignKeys then PrepareM.lift (keyCheckErrors sch s t kind (some changed))
      if mayReplace sch t res then prepareRemoval fuel settings ctx s t (some .replace)
      for pg in keyActions sch s t settings (some changed) do
        prepareProgram fuel settings ctx pg (changeSpecials tg (.update [])) (some .abort)
    | .view _ _ _ => pure ()
    PrepareM.lift (resolveReturning ctx tg shown u.returning)

/-- Prepares a `DELETE`. -/
def prepareDelete (fuel : Nat) (settings : Settings) (ctx : Context) (trigger : Bool)
    (d : Delete) : PrepareM Unit :=
  match fuel with
  | 0 => throw "statement is nested too deeply"
  | fuel + 1 => do
    let ctxW ← PrepareM.lift (withClause ctx trigger d.ctes)
    let rel ← PrepareM.lift (locateTarget ctx d.schema d.table)
    let tg ← PrepareM.lift (writableTarget ctx rel .delete)
    let shown := shownName none d.table d.asName
    for w in d.condition.toList do
      PrepareM.lift (resolveIn ctxW [targetScope ctxW tg shown] trigger w)
    match tg with
    | .table s t => prepareRemoval fuel settings ctx s t none
    | .view _ _ _ =>
      preparePrograms fuel settings ctx tg .delete true none
      preparePrograms fuel settings ctx tg .delete false none
    PrepareM.lift (resolveReturning ctx tg shown d.returning)

/-- Prepares what removing a row of a table runs: its delete triggers (for a removal that
resolves a conflict, only with recursive triggers on), its foreign key checks and actions. -/
def prepareRemoval (fuel : Nat) (settings : Settings) (ctx : Context) (schemaName : String)
    (t : Table) (res : Option Resolution) : PrepareM Unit :=
  match fuel with
  | 0 => throw "statement is nested too deeply"
  | fuel + 1 => do
    let tg := Target.table schemaName t
    let sch := ctx.schemaOf schemaName
    if res != some .replace || settings.recursiveTriggers then
      preparePrograms fuel settings ctx tg .delete true res
      preparePrograms fuel settings ctx tg .delete false res
    if settings.foreignKeys then
      PrepareM.lift (keyCheckErrors sch schemaName t .delete none)
      for pg in keyActions sch schemaName t settings none do
        prepareProgram fuel settings ctx pg (changeSpecials tg .delete) (some .abort)

/-- Prepares the programs of the triggers a change fires, before or after it. -/
def preparePrograms (fuel : Nat) (settings : Settings) (ctx : Context) (tg : Target)
    (kind : ChangeKind) (before : Bool) (res : Option Resolution) : PrepareM Unit :=
  match fuel with
  | 0 => throw "statement is nested too deeply"
  | fuel + 1 => do
    for (s, tr) in triggersOn ctx.main ctx.temp tg.schema tg.name do
      if tr.firesOn kind && tr.isBefore == before then
        prepareProgram fuel settings ctx (tr.toProgram s) (changeSpecials tg kind) res

/-- Prepares a program once for each resolution: its condition, then its statements, which
see the special rows of the table it runs for (a foreign key action runs for the parent). -/
def prepareProgram (fuel : Nat) (settings : Settings) (ctx : Context) (pg : Program)
    (specials : List SpecialRow) (res : Option Resolution) : PrepareM Unit :=
  match fuel with
  | 0 => throw "statement is nested too deeply"
  | fuel + 1 => do
    let done ← get
    if done.any fun (k, r) => k == pg.key && r == res then return
    set (done ++ [(pg.key, res)])
    let pctx := pg.context ctx specials
    for w in pg.condition.toList do
      PrepareM.lift (resolveIn pctx [⟨#[], [], specials⟩] true w)
    for st in pg.steps do prepareStep fuel settings pctx st res

/-- Prepares a statement of a program. -/
def prepareStep (fuel : Nat) (settings : Settings) (ctx : Context) (st : TriggerStep)
    (res : Option Resolution) : PrepareM Unit :=
  match fuel with
  | 0 => throw "statement is nested too deeply"
  | fuel + 1 =>
    match st with
    | .insert i => prepareInsert fuel settings ctx true i (stepResolution res i.resolution)
    | .update u => prepareUpdate fuel settings ctx true u (stepResolution res u.resolution)
    | .delete d => prepareDelete fuel settings ctx true d
    | .select q => do
      let _ ← PrepareM.lift (prepareSelect ctx [] true q)

end

end Payout.Database
