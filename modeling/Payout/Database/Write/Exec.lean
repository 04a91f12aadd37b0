import Payout.Database.Write.Prepare

/-!
# Changing rows

A prepared `INSERT`, `UPDATE` or `DELETE` runs row by row.

An inserted row takes its values from its source, and defaults for the columns not named;
its row identifier is the one given, else one more than the largest. An updated row takes
the new values of the columns it sets, computed from its old row. Before the change, the
`BEFORE` (or `INSTEAD OF`) triggers run; then the row is checked against its table's
constraints in a fixed order — `NOT NULL`, `CHECK`, the row identifier, the uniqueness
indexes — each failure resolved by the statement's `OR` clause, else the constraint's own:
`ROLLBACK`, `ABORT` and `FAIL` stop with an error, `IGNORE` skips the row, `REPLACE` removes
the row in the way (and gives a column without a value its default). An upsert's `DO
NOTHING` skips the row and `DO UPDATE` updates the row in the way instead. Then the foreign
keys are counted, the row is written, the actions of the keys pointing at the table run, and
the `AFTER` triggers run. A removed row runs its triggers, key checks and actions the same way.

A trigger's program runs as a statement of its own: its changes are counted apart, and
`last_insert_rowid()` comes back as it was. `RAISE(IGNORE)` ends the program and skips the
row it fired for. A trigger that is running does not fire again inside itself unless
recursive triggers are on, and programs nest at most a thousand deep.
-/

namespace Payout.Database

/-- The frame a row of a target is read in, under the name the statement gives it. -/
def targetFrame (tg : Target) (shown : String) (specials : List SpecialRow) (vals : Array Value)
    (rowid : Option Int) : RowScope :=
  ⟨⟨#[tg.shape shown], [], specials⟩, ⟨#[vals], #[rowid]⟩, none⟩

/-- The frame of a statement without sources, which still sees the special rows. -/
def bareFrame (specials : List SpecialRow) : RowScope :=
  ⟨⟨#[], [], specials⟩, ⟨#[], #[]⟩, none⟩

/-- How a conflict with a uniqueness constraint is resolved: as a resolution says, or by an
upsert's update. -/
inductive ConflictAction where
  | resolve (r : Resolution)
  | doUpdate (u : Upsert)
deriving Inhabited

/-- The upserts of an `INSERT`, each with what its target matches, and the name the
statement gives its table. -/
structure UpsertPlan where
  clauses : List (Upsert × Option (Option Index))
  schema : Option Ident
  table : Ident
  asName : Option Ident
deriving Inhabited

/-- No upserts. -/
def UpsertPlan.empty : UpsertPlan := ⟨[], none, Ident.plain "", none⟩

/-- The upsert that handles a conflict on the row identifier (`none`) or on an index: the
first whose target is that constraint, or one without a target. -/
def UpsertPlan.clauseFor (p : UpsertPlan) (ix : Option String) : Option Nat :=
  p.clauses.findIdx? fun (u, m) =>
    u.target.isEmpty || match m, ix with
      | some none, none => true
      | some (some i), some n => i.name == n
      | _, _ => false

/-- How a conflict on a constraint is resolved: by its upsert, else by the statement's
resolution, else by the constraint's own. -/
def UpsertPlan.actionFor (p : UpsertPlan) (res : Option Resolution) (own : Resolution)
    (ix : Option String) : ConflictAction :=
  match p.clauseFor ix >>= (p.clauses[·]?) with
  | some (u, _) => if u.assignments.isSome then .doUpdate u else .resolve .ignore
  | none => .resolve (res.getD own)

/-- The order uniqueness indexes are checked in: those upserts name first, in their order,
when the first upsert names one; then the others in the table's order. -/
def UpsertPlan.indexOrder (p : UpsertPlan) (all : List Index) : List Index :=
  match p.clauses with
  | (u, _) :: _ =>
    if u.target.isEmpty then all
    else
      let named := p.clauses.foldl (fun acc (_, m) =>
        match m with
        | some (some ix) => if acc.any (·.name == ix.name) then acc else acc ++ [ix]
        | _ => acc) []
      named ++ all.filter fun ix => !named.any (·.name == ix.name)
  | [] => all

/-- The text a failure of the row identifier's uniqueness names: its column, or `rowid`. -/
def Table.rowidFailureText (t : Table) : String :=
  match t.rowidColumn with
  | some j => t.name ++ "." ++ t.columnName j
  | none => t.name ++ ".rowid"

/-- Whether an update may change an index's entry: when the row identifier changes, or a
column of a term or of its condition is set. -/
def Index.mayChange (ix : Index) (scope : ScopeShape) (t : Table) (changed : List Nat)
    (rowidChanged : Bool) : Bool :=
  rowidChanged ||
    ix.keys.any (fun k =>
      match k.column >>= t.columnIndex? with
      | some j => changed.contains j || t.rowidColumn == some j && rowidChanged
      | none => k.expr.readsChanged scope t.rowidColumn changed rowidChanged) ||
    (ix.condition.map (Expr.readsChanged scope t.rowidColumn changed rowidChanged)).getD false

/-- The values of a row an upsert's `excluded` shows: as they stand, with integers in columns
of real affinity made real. -/
def excludedValues (t : Table) (vals : Array Value) : Array Value :=
  (List.range vals.size).toArray.map fun j =>
    let v := vals[j]?.getD .null
    match ((t.columns[j]?).map (·.affinity)), v with
    | some .real, .integer i => .real (Float.ofInt i)
    | _, _ => v

namespace Write

/-- The value of a column's default: its expression, or null. -/
def defaultOf (env : Env) (c : Column) : Write Value :=
  match c.default with
  | some (e, _) => lift (env.eval [] e)
  | none => pure .null

/-- Computes the generated columns of a row from its other columns, each under its column's
affinity; the other columns are first put under theirs, and a second pass lets a column read
a generated column after it. -/
def withGenerated (env : Env) (schemaName : String) (t : Table) (vals : Array Value)
    (rowid : Int) : Write (Array Value) := do
  if !(t.columns.any (·.generated.isSome)) then return vals
  let vals := (vals.zip (List.range vals.size).toArray).map fun (v, j) =>
    match t.columns[j]? with
    | some c => if c.generated.isSome then v else v.withAffinity c.affinity
    | none => v
  let pass := fun (vs : Array Value) =>
    (List.range t.columns.size).foldlM (fun (acc : Array Value) j =>
      match t.columns[j]? with
      | some c =>
        match c.generated with
        | some (e, _) => do
          let v ← lift (env.eval [t.rowScope schemaName acc rowid] e)
          pure (acc.set! j (v.withAffinity c.affinity))
        | none => pure acc
      | none => pure acc) vs
  let once ← pass vals
  pass once

/-- The values of a row for `NEW` before it is written: under the column affinities (a strict
table checks them), the row identifier column left null. -/
def beforeValues (t : Table) (vals : Array Value) : Write (Array Value) := do
  let vals := match t.rowidColumn with
    | some j => vals.set! j .null
    | none => vals
  lift (t.storeValues vals)

/-- The rows of a `RETURNING` clause for a changed row. -/
def returningRow (env : Env) (tg : Target) (shown : String) (specials : List SpecialRow)
    (ret : Returning) (vals : Array Value) (rowid : Option Int) : Write (Array Value) := do
  let src := tg.shape shown
  let items ← liftMsg (expandResult #[src] true ret)
  let fr := targetFrame tg shown specials vals rowid
  let vs ← items.mapM fun it => lift (env.eval [fr] it.expr)
  pure vs.toArray

/-- Ends a statement of a program: its changes become the connection's count of changes. -/
def settleChanges : Write Unit :=
  modify fun st => { st with
    conn := { st.conn with changes := st.changes, totalChanges := st.conn.totalChanges + st.changes },
    changes := 0 }

/-- The limit on nested programs. -/
def programDepthLimit : Nat := 1000

mutual

/-- Runs an `INSERT`; gives the rows of its `RETURNING` clause. -/
def insertRows (fuel : Nat) (site : Site) (ins : Insert) (res : Option Resolution) :
    Write (List (Array Value)) :=
  match fuel with
  | 0 => fail "statement is nested too deeply"
  | fuel + 1 => do
    let ctx ← context site
    let ctxW ← liftMsg (withClause ctx site.trigger ins.ctes)
    let rel ← liftMsg (locateTarget ctx ins.schema ins.table)
    let tg ← liftMsg (writableTarget ctx rel .insert)
    let shown := shownName ins.schema ins.table ins.asName
    let env0 ← env site
    let envW := { env0 with ctx := ctxW }
    let cols := tg.columns
    let written : List Nat := (List.range cols.size).filter fun j => !tg.isGenerated j
    -- where each column's value comes from in a source row
    let posOf : Nat → Option Nat := fun j =>
      match ins.columns with
      | none => written.findIdx? (· == j)
      | some names => names.findIdx? fun n => sameName n.name ((cols[j]?.map (·.name)).getD "")
    let rowidPos : Option Nat := match ins.columns, tg with
      | none, .table _ t => t.rowidColumn >>= posOf
      | none, .view _ _ _ => none
      | some names, _ =>
        let hits := (List.range names.length).filter fun i =>
          let n := (names[i]?.map (·.name)).getD ""
          match tg with
          | .table _ t =>
            match t.columnIndex? n with
            | some j => t.rowidColumn == some j
            | none => isRowidName n
          | .view _ _ _ => false
        hits.getLast?
    let ups : UpsertPlan := match tg with
      | .table s t =>
        ⟨ins.upserts.map (fun u => (u, if u.target.isEmpty then none
          else upsertMatch (ctx.schemaOf s) t u)), ins.schema, ins.table, ins.asName⟩
      | .view _ _ _ => UpsertPlan.empty
    let source : List (Option (List Expr) × Option (Array Value)) ← match ins.source with
      | .values rows => pure (rows.map fun r => (some r, none))
      | .query q => do
        let (_, rows) ← lift (envW.query [] q)
        pure (rows.map fun r => (none, some r))
      | .defaults => pure [(none, some #[])]
    let mut out : List (Array Value) := []
    for (exprs, given) in source do
      let srcVals ← match exprs, given with
        | some es, _ => do
          let vs ← es.mapM fun e => lift (envW.eval [bareFrame ctx.specials] e)
          pure vs.toArray
        | none, some vs => pure vs
        | none, none => pure #[]
      match tg with
      | .view _ _ _ =>
        let vals := (List.range cols.size).toArray.map fun j =>
          ((posOf j).bind (srcVals[·]?)).getD .null
        let _ ← fireTriggers fuel tg .insert true none (some (vals, none)) res
      | .table s t =>
        let mut vals : Array Value := #[]
        for j in List.range cols.size do
          match t.columns[j]? with
          | some c =>
            if c.generated.isSome || t.rowidColumn == some j then vals := vals.push .null
            else
              match posOf j with
              | some p => vals := vals.push (srcVals[p]?.getD .null)
              | none => vals := vals.push (← defaultOf env0 c)
          | none => vals := vals.push .null
        let givenRowid := rowidPos.bind (srcVals[·]?)
        match ← insertOne fuel site s t vals givenRowid res ups with
        | some (stored, rowid) =>
          if !ins.returning.isEmpty then
            out := out ++ [← returningRow env0 tg shown ctx.specials ins.returning stored (some rowid)]
        | none => pure ()
    pure out

/-- Inserts one row into a table; gives it as stored, or none when it was skipped. -/
def insertOne (fuel : Nat) (site : Site) (schemaName : String) (t : Table) (vals : Array Value)
    (given : Option Value) (res : Option Resolution) (ups : UpsertPlan) :
    Write (Option (Array Value × Int)) :=
  match fuel with
  | 0 => fail "statement is nested too deeply"
  | fuel + 1 => do
    let env ← env site
    let tg := Target.table schemaName t
    let st ← get
    let hasBefore := (triggersOn st.main st.temp schemaName t.name).any fun (_, tr) =>
      tr.firesOn .insert && tr.isBefore
    if hasBefore then
      let rid ← match given with
        | none => pure (-1)
        | some v => if v.isNull then pure (-1) else lift (rowidValue v)
      let newVals ← beforeValues t (← withGenerated env schemaName t vals rid)
      if !(← fireTriggers fuel tg .insert true none (some (newVals, some rid)) res) then
        return none
    let rowid ← match given with
      | some v => if v.isNull then newRowid schemaName t else lift (rowidValue v)
      | none => newRowid schemaName t
    if t.autoincrement then raiseCounter schemaName t rowid
    let vals := match t.rowidColumn with
      | some j => vals.set! j (.integer rowid)
      | none => vals
    let vals ← withGenerated env schemaName t vals rowid
    match ← checkRow fuel site schemaName t vals rowid none none res ups with
    | none => pure none
    | some stored =>
      checkKeys schemaName t false none (some (stored, rowid)) none
      putRow schemaName t.name ⟨rowid, stored⟩
      if t.hasRowid then
        modify fun st => { st with conn := { st.conn with lastRowid := rowid } }
      countChange
      let _ ← fireTriggers fuel tg .insert false none (some (stored, some rowid)) res
      pure (some (stored, rowid))

/-- Checks a new row against its table's constraints; gives its values as stored, or none
when the row is skipped. `old` is the identifier of the row an update changes, and
`changed` the columns it sets. -/
def checkRow (fuel : Nat) (site : Site) (schemaName : String) (t : Table) (vals : Array Value)
    (rowid : Int) (old : Option Int) (changed : Option (List Nat × Bool)) (res : Option Resolution)
    (ups : UpsertPlan) : Write (Option (Array Value)) :=
  match fuel with
  | 0 => fail "statement is nested too deeply"
  | fuel + 1 => do
    let env ← env site
    let settings ← settings
    let (changedCols, rowidChanged) := changed.getD ([], true)
    let isUpdate := old.isSome
    let scope : ScopeShape := ⟨#[t.shape t.name schemaName], [], []⟩
    -- NOT NULL
    let mut vals := vals
    let mut replaced := false
    let mut secondPass := false
    for j in List.range t.columns.size do
      let c := t.columns[j]?.getD default
      match c.notNull with
      | none => pure ()
      | some own =>
        if t.rowidColumn == some j then pure ()
        else if c.generated.isSome then secondPass := true
        else if isUpdate && !changedCols.contains j then pure ()
        else
          let onError := res.getD own
          if onError == .replace && c.default.isSome then
            secondPass := true
            if (vals[j]?.getD .null).isNull then
              vals := vals.set! j (← defaultOf env c)
              replaced := true
          else if (vals[j]?.getD .null).isNull then
            match onError with
            | .ignore => return none
            | .replace => throw (Fault.resolved .abort ("NOT NULL constraint failed: " ++ t.name ++ "." ++ c.name))
            | r => throw (Fault.resolved r ("NOT NULL constraint failed: " ++ t.name ++ "." ++ c.name))
    if secondPass then
      if replaced then vals ← withGenerated env schemaName t vals rowid
      for j in List.range t.columns.size do
        let c := t.columns[j]?.getD default
        match c.notNull with
        | none => pure ()
        | some own =>
          let onError := res.getD own
          let recheck := c.generated.isSome || (onError == .replace && c.default.isSome &&
            (!isUpdate || changedCols.contains j))
          if recheck && t.rowidColumn != some j && (vals[j]?.getD .null).isNull then
            match onError with
            | .ignore => return none
            | .replace => throw (Fault.resolved .abort ("NOT NULL constraint failed: " ++ t.name ++ "." ++ c.name))
            | r => throw (Fault.resolved r ("NOT NULL constraint failed: " ++ t.name ++ "." ++ c.name))
    -- CHECK
    let mut affinityDone := false
    if !settings.ignoreChecks then
      let onError := res.getD .abort
      for ck in t.checks do
        if !isUpdate || ck.expr.readsChanged scope t.rowidColumn changedCols rowidChanged then
          if !affinityDone then
            vals ← lift (t.storeValues vals)
            affinityDone := true
          let v ← lift (env.eval [t.rowScope schemaName vals rowid] ck.expr)
          if v.truth == some false then
            match onError with
            | .ignore => return none
            | .replace => throw (Fault.resolved .abort ("CHECK constraint failed: " ++ ck.name))
            | r => throw (Fault.resolved r ("CHECK constraint failed: " ++ ck.name))
    -- the row identifier, then the indexes
    let sch := (← get).schema schemaName
    let indexes := (ups.indexOrder (sch.indexesOf t.name)).filter fun ix =>
      !isUpdate || ix.mayChange scope t changedCols rowidChanged
    let rowidAction := ups.actionFor res t.rowidConflict none
    let rowidClause := ups.clauseFor none
    let delayed :=
      (!ups.clauses.isEmpty && rowidClause != some 0) ||
      (match rowidAction with
        | .resolve .replace => res.isNone && !(sch.indexesOf t.name).isEmpty
        | _ => false)
    if !delayed then
      if !(← rowidStep fuel site schemaName t vals rowid old rowidAction ups) then return none
    for ix in indexes do
      if !affinityDone then
        vals ← lift (t.storeValues vals)
        affinityDone := true
      let action := ups.actionFor res ix.onConflict (some ix.name)
      if !(← indexStep fuel site schemaName t vals rowid old ix action ups) then return none
    if delayed then
      if !(← rowidStep fuel site schemaName t vals rowid old rowidAction ups) then return none
    if !affinityDone then vals ← lift (t.storeValues vals)
    pure (some vals)

/-- Checks that a new row identifier is free; gives whether the row goes on. -/
def rowidStep (fuel : Nat) (site : Site) (schemaName : String) (t : Table) (vals : Array Value)
    (rowid : Int) (old : Option Int) (action : ConflictAction) (ups : UpsertPlan) : Write Bool :=
  match fuel with
  | 0 => fail "statement is nested too deeply"
  | fuel + 1 => do
    if !t.hasRowid || old == some rowid then return true
    match ← row? schemaName t.name rowid with
    | none => pure true
    | some _ =>
      match action with
      | .resolve .replace =>
        let _ ← removeRow fuel schemaName t rowid (some .replace) false
        pure true
      | .resolve .ignore => pure false
      | .doUpdate u =>
        upsertUpdate fuel site schemaName t ups u rowid vals rowid
        pure false
      | .resolve r => throw (Fault.resolved r ("UNIQUE constraint failed: " ++ t.rowidFailureText))

/-- Checks a new row against a uniqueness index; gives whether the row goes on. -/
def indexStep (fuel : Nat) (site : Site) (schemaName : String) (t : Table) (vals : Array Value)
    (rowid : Int) (old : Option Int) (ix : Index) (action : ConflictAction) (ups : UpsertPlan) :
    Write Bool :=
  match fuel with
  | 0 => fail "statement is nested too deeply"
  | fuel + 1 => do
    let env ← env site
    if !(← lift (inIndex env schemaName t ix vals rowid)) then return true
    let key ← lift (indexKey env schemaName t ix vals rowid)
    if !ix.unique then return true
    let rs ← rows schemaName t.name
    let mut conflict : Option Int := none
    for r in rs do
      if conflict.isNone && old != some r.rowid then
        if ← lift (inIndex env schemaName t ix r.values r.rowid) then
          let other ← lift (indexKey env schemaName t ix r.values r.rowid)
          if keysCollide ix key other then conflict := some r.rowid
    match conflict with
    | none => pure true
    | some other =>
      match action with
      | .resolve .replace =>
        let _ ← removeRow fuel schemaName t other (some .replace) false
        pure true
      | .resolve .ignore => pure false
      | .doUpdate u =>
        upsertUpdate fuel site schemaName t ups u other vals rowid
        pure false
      | .resolve r => throw (Fault.resolved r ("UNIQUE constraint failed: " ++ ix.failureText t))

/-- Runs an upsert's `DO UPDATE` on the row in the way, the new row shown as `excluded`. -/
def upsertUpdate (fuel : Nat) (site : Site) (schemaName : String) (t : Table) (ups : UpsertPlan)
    (u : Upsert) (target : Int) (vals : Array Value) (rowid : Int) : Write Unit :=
  match fuel with
  | 0 => fail "statement is nested too deeply"
  | fuel + 1 => do
    match u.assignments with
    | none => pure ()
    | some (sets, cond) =>
      let tg := Target.table schemaName t
      let excluded := tg.specialRow "excluded"
      let usite := { site with specials := site.specials ++ [excluded],
                               values := site.values ++ [⟨"excluded", excludedValues t vals, some rowid⟩] }
      let pairs ← liftMsg (splitAssignments sets)
      let shown := shownName none ups.table ups.asName
      let _ ← updateOne fuel usite schemaName t shown pairs target (some .abort) cond none
      pure ()

/-- Runs an `UPDATE`; gives the rows of its `RETURNING` clause. -/
def updateRows (fuel : Nat) (site : Site) (u : Update) (res : Option Resolution) :
    Write (List (Array Value)) :=
  match fuel with
  | 0 => fail "statement is nested too deeply"
  | fuel + 1 => do
    let ctx ← context site
    let ctxW ← liftMsg (withClause ctx site.trigger u.ctes)
    let sets ← liftMsg (splitAssignments u.assignments)
    let kind := ChangeKind.update (sets.map (·.1.name))
    let rel ← liftMsg (locateTarget ctx u.schema u.table)
    let tg ← liftMsg (writableTarget ctx rel kind)
    let shown := shownName none u.table u.asName
    let env0 ← env site
    let envW := { env0 with ctx := ctxW }
    let usite := site
    let mut out : List (Array Value) := []
    match tg with
    | .view s v cols =>
      let vctx := ctx.within s
      let (_, vrows) ← lift ({ env0 with ctx := vctx }.query [] v.query)
      for vals in vrows do
        let fr := targetFrame tg shown ctx.specials vals none
        let keep ← match u.condition with
          | some c => holds <$> lift (envW.eval [fr] c)
          | none => pure true
        if keep then
          let mut newVals := vals
          for (n, e) in sets do
            match cols.findIdx? (sameName ·.name n.name) with
            | some j => newVals := newVals.set! j (← lift (envW.eval [fr] e))
            | none => pure ()
          let _ ← fireTriggers fuel tg kind true (some (vals, none)) (some (newVals, none)) res
    | .table s t =>
      match u.source with
      | none =>
        let rs ← rows s t.name
        let mut ids : List Int := []
        for r in rs do
          let fr := targetFrame tg shown ctx.specials r.values (some r.rowid)
          let keep ← match u.condition with
            | some c => holds <$> lift (envW.eval [fr] c)
            | none => pure true
          if keep then ids := ids ++ [r.rowid]
        for rid in ids do
          match ← updateOne fuel usite s t shown sets rid res none
              (some envW.ctx) with
          | some (stored, newRid) =>
            if !u.returning.isEmpty then
              out := out ++ [← returningRow env0 tg shown ctx.specials u.returning stored (some newRid)]
          | none => pure ()
      | some f =>
        -- the new values come from the join of the table with the sources, all computed first
        let rs ← rows s t.name
        let (srcs, joinRows) ← lift (fromRows exprFuel envW [] f)
        let joinedShape : ScopeShape := ⟨#[tg.shape shown] ++ srcs, [], ctx.specials⟩
        let mut work : List (Int × List (Ident × Expr) × List Value) := []
        for r in rs do
          for jr in joinRows do
            let fr : RowScope := ⟨joinedShape, ⟨#[r.values] ++ jr.values, #[some r.rowid] ++ jr.rowids⟩, none⟩
            let keep ← match u.condition with
              | some c => holds <$> lift (envW.eval [fr] c)
              | none => pure true
            if keep then
              let vs ← sets.mapM fun (_, e) => lift (envW.eval [fr] e)
              work := work ++ [(r.rowid, sets, vs)]
        for (rid, ss, vs) in work do
          let fixedSets := (ss.zip vs).map fun ((n, _), v) => (n, Expr.lit v)
          match ← updateOne fuel usite s t shown fixedSets rid res none (some envW.ctx) with
          | some (stored, newRid) =>
            if !u.returning.isEmpty then
              out := out ++ [← returningRow env0 tg shown ctx.specials u.returning stored (some newRid)]
          | none => pure ()
    pure out

/-- Updates one row of a table by its identifier; gives it as stored, or none when it was
gone or skipped. The assignments are computed from the row as it stands; a condition (an
upsert's) must hold for it first. -/
def updateOne (fuel : Nat) (site : Site) (schemaName : String) (t : Table) (shown : String)
    (sets : List (Ident × Expr)) (rowid : Int) (res : Option Resolution) (cond : Option Expr)
    (withCtx : Option Context) : Write (Option (Array Value × Int)) :=
  match fuel with
  | 0 => fail "statement is nested too deeply"
  | fuel + 1 => do
    let env0 ← env site
    let env := match withCtx with
      | some c => { env0 with ctx := { c with specials := env0.ctx.specials } }
      | none => env0
    let tg := Target.table schemaName t
    match ← row? schemaName t.name rowid with
    | none => pure none
    | some r =>
      let fr := targetFrame tg shown env.ctx.specials r.values (some rowid)
      if let some c := cond then
        if !(holds (← lift (env.eval [fr] c))) then return none
      let assigned := sets.map fun (n, e) => ((assignedColumn tg n).toOption.getD none, n, e)
      let rowidExpr := (assigned.filter fun (j, n, _) =>
        j.isNone && (match assignedColumn tg n with | .ok none => true | _ => false)).getLast?
      let changedCols := (changedColumns tg sets)
      let newRowid ← match rowidExpr with
        | some (_, _, e) => do lift (rowidValue (← lift (env.eval [fr] e)))
        | none => pure rowid
      let mut newVals := r.values
      for j in List.range t.columns.size do
        if t.rowidColumn == some j then newVals := newVals.set! j (.integer newRowid)
        else
          match (assigned.filter fun (k, _, _) => k == some j).getLast? with
          | some (_, _, e) => newVals := newVals.set! j (← lift (env.eval [fr] e))
          | none => pure ()
      newVals ← withGenerated env schemaName t newVals newRowid
      let kind := ChangeKind.update (sets.map (·.1.name))
      let st ← get
      let hasBefore := (triggersOn st.main st.temp schemaName t.name).any fun (_, tr) =>
        tr.firesOn kind && tr.isBefore
      if hasBefore then
        let forNew ← beforeValues t newVals
        if !(← fireTriggers fuel tg kind true (some (r.values, some rowid))
            (some (forNew, some newRowid)) res) then
          return none
        match ← row? schemaName t.name rowid with
        | none => return none
        | some again =>
          -- columns the statement does not set are read again: a trigger may have changed them
          for j in List.range t.columns.size do
            let isSet := changedCols.1.contains j
            if t.rowidColumn == some j then pure ()
            else if isSet then newVals := newVals.set! j (forNew[j]?.getD .null)
            else newVals := newVals.set! j (again.values[j]?.getD .null)
          newVals ← withGenerated env schemaName t newVals newRowid
      match ← checkRow fuel site schemaName t newVals newRowid (some rowid) (some changedCols) res
          UpsertPlan.empty with
      | none => pure none
      | some stored =>
        checkKeys schemaName t false (some (r.values, rowid)) none (some changedCols)
        checkKeys schemaName t false none (some (stored, newRowid)) (some changedCols)
        if newRowid != rowid then eraseRow schemaName t.name rowid
        putRow schemaName t.name ⟨newRowid, stored⟩
        countChange
        runKeyActions fuel schemaName t (r.values, rowid) (some (stored, newRowid)) (some changedCols)
        let _ ← fireTriggers fuel tg kind false (some (r.values, some rowid))
          (some (stored, some newRowid)) res
        pure (some (stored, newRowid))

/-- Runs a `DELETE`; gives the rows of its `RETURNING` clause. -/
def deleteRows (fuel : Nat) (site : Site) (d : Delete) : Write (List (Array Value)) :=
  match fuel with
  | 0 => fail "statement is nested too deeply"
  | fuel + 1 => do
    let ctx ← context site
    let ctxW ← liftMsg (withClause ctx site.trigger d.ctes)
    let rel ← liftMsg (locateTarget ctx d.schema d.table)
    let tg ← liftMsg (writableTarget ctx rel .delete)
    let shown := shownName none d.table d.asName
    let env0 ← env site
    let envW := { env0 with ctx := ctxW }
    let mut out : List (Array Value) := []
    match tg with
    | .view s v _ =>
      let vctx := ctx.within s
      let (_, vrows) ← lift ({ env0 with ctx := vctx }.query [] v.query)
      for vals in vrows do
        let fr := targetFrame tg shown ctx.specials vals none
        let keep ← match d.condition with
          | some c => holds <$> lift (envW.eval [fr] c)
          | none => pure true
        if keep then
          let _ ← fireTriggers fuel tg .delete true (some (vals, none)) none none
    | .table s t =>
      let rs ← rows s t.name
      let mut ids : List Row := []
      for r in rs do
        let fr := targetFrame tg shown ctx.specials r.values (some r.rowid)
        let keep ← match d.condition with
          | some c => holds <$> lift (envW.eval [fr] c)
          | none => pure true
        if keep then ids := ids ++ [r]
      for r in ids do
        if !d.returning.isEmpty then
          if (← row? s t.name r.rowid).isSome then
            out := out ++ [← returningRow env0 tg shown ctx.specials d.returning r.values (some r.rowid)]
        let _ ← removeRow fuel s t r.rowid none true
    pure out

/-- Removes a row of a table with what goes with it: the delete triggers (for a removal that
resolves a conflict, only with recursive triggers on), the foreign key counts and actions.
Gives whether the row was removed. -/
def removeRow (fuel : Nat) (schemaName : String) (t : Table) (rowid : Int)
    (res : Option Resolution) (counted : Bool) : Write Bool :=
  match fuel with
  | 0 => fail "statement is nested too deeply"
  | fuel + 1 => do
    match ← row? schemaName t.name rowid with
    | none => pure false
    | some r =>
      let settings ← settings
      let fire := res != some .replace || settings.recursiveTriggers
      let tg := Target.table schemaName t
      if fire then
        if !(← fireTriggers fuel tg .delete true (some (r.values, some rowid)) none res) then
          return false
        if (← row? schemaName t.name rowid).isNone then return false
      checkKeys schemaName t false (some (r.values, rowid)) none none
      eraseRow schemaName t.name rowid
      if counted then countChange
      runKeyActions fuel schemaName t (r.values, rowid) none none
      if fire then
        let _ ← fireTriggers fuel tg .delete false (some (r.values, some rowid)) none res
      pure true

/-- Fires the triggers of a change, before or after it; gives false when one of them ended
with `RAISE(IGNORE)`, which skips the row. -/
def fireTriggers (fuel : Nat) (tg : Target) (kind : ChangeKind) (before : Bool)
    (old new : Option (Array Value × Option Int)) (res : Option Resolution) : Write Bool :=
  match fuel with
  | 0 => fail "statement is nested too deeply"
  | fuel + 1 => do
    let st ← get
    let specials := changeSpecials tg kind
    let values := (new.toList.map fun (v, r) => (⟨"new", v, r⟩ : SpecialValues)) ++
      (old.toList.map fun (v, r) => (⟨"old", v, r⟩ : SpecialValues))
    for (s, tr) in triggersOn st.main st.temp tg.schema tg.name do
      if tr.firesOn kind && tr.isBefore == before then
        if !(← runProgram fuel (tr.toProgram s) specials values res) then return false
    pure true

/-- Runs the actions of the foreign keys pointing at a table for a removed or updated row. -/
def runKeyActions (fuel : Nat) (schemaName : String) (t : Table) (old : Array Value × Int)
    (new : Option (Array Value × Int)) (changed : Option (List Nat × Bool)) : Write Unit :=
  match fuel with
  | 0 => fail "statement is nested too deeply"
  | fuel + 1 => do
    let st ← get
    let settings := st.conn.settings
    let tg := Target.table schemaName t
    let kind := if new.isSome then ChangeKind.update [] else .delete
    let values := (new.toList.map fun (v, r) => (⟨"new", v, some r⟩ : SpecialValues)) ++
      [⟨"old", old.1, some old.2⟩]
    for pg in keyActions (st.schema schemaName) schemaName t settings changed do
      let _ ← runProgram fuel pg (changeSpecials tg kind) values (some .abort)

/-- Runs a program for a row: its condition, then its statements, as a statement of its own.
Gives false when it ended with `RAISE(IGNORE)`. -/
def runProgram (fuel : Nat) (pg : Program) (specials : List SpecialRow)
    (values : List SpecialValues) (res : Option Resolution) : Write Bool :=
  match fuel with
  | 0 => fail "statement is nested too deeply"
  | fuel + 1 => do
    let st ← get
    if pg.isTrigger && !st.conn.settings.recursiveTriggers && st.running.contains pg.key then
      return true
    if st.running.length ≥ programDepthLimit then fail "too many levels of trigger recursion"
    let savedChanges := st.changes
    let savedConnChanges := st.conn.changes
    let savedLast := st.conn.lastRowid
    modify fun st => { st with running := pg.key :: st.running, changes := 0 }
    let site : Site := ⟨if isTempName pg.schema then none else some pg.schema, specials, values, true⟩
    let body : Write Bool := do
      if let some c := pg.condition then
        let env ← env site
        if !(holds (← lift (env.eval [bareFrame specials] c))) then return true
      for step in pg.steps do runStep fuel site step res
      pure true
    let outcome ← tryCatch body fun f =>
      match f with
      | .ignore => pure false
      | other => throw other
    modify fun st => { st with
      running := st.running.drop 1,
      changes := savedChanges,
      conn := { st.conn with totalChanges := st.conn.totalChanges + st.changes,
                             changes := savedConnChanges, lastRowid := savedLast } }
    pure outcome

/-- Runs a statement of a program. -/
def runStep (fuel : Nat) (site : Site) (step : TriggerStep) (res : Option Resolution) :
    Write Unit :=
  match fuel with
  | 0 => fail "statement is nested too deeply"
  | fuel + 1 =>
    match step with
    | .insert i => do
      let _ ← insertRows fuel site i (stepResolution res i.resolution)
      settleChanges
    | .update u => do
      let _ ← updateRows fuel site u (stepResolution res u.resolution)
      settleChanges
    | .delete d => do
      let _ ← deleteRows fuel site d
      settleChanges
    | .select q => do
      let env ← env site
      let _ ← lift (env.query [] q)

end

end Write

end Payout.Database
