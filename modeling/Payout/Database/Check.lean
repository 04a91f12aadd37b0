import Payout.Database.Relation
import Payout.Database.Function.Registry

/-!
# Preparing a query: tables, names and functions

Before a statement runs, every name in it is resolved, in two passes as the database does
them.

The first pass finds every table the statement reads, its subqueries included, and stops at
the first that does not exist; `*` needs a `FROM` clause and `t.*` a term named `t`. The
terms of a compound are visited from the last to the first.

The second pass resolves column names and calls. For each simple select it resolves the
subqueries of its `FROM` clause, then its result columns, `HAVING`, `WHERE` (with the `ON`
conditions after it), `ORDER BY` (which sees no outer query) and `GROUP BY`; the terms of a
compound are again taken from the last. Within one expression a bad call is noted and the
walk goes on, so a later error replaces it; a bad column name stops the walk at once. Some
errors appear only once the whole statement has been resolved: an aggregate where the
query cannot compute it, a subquery with too many columns, a row value where one value is
needed.

Resolving a query gives the columns of its result: their names, affinities and collations.
-/

namespace Payout.Database

/-- How an aggregate call is taken where it stands. -/
inductive AggregateRule where
  /-- It may stand here. -/
  | allowed
  /-- It is refused while names are resolved. -/
  | refused
  /-- It is refused once the statement is resolved. -/
  | deferred
deriving DecidableEq, Inhabited

/-- What an expression may hold where it stands. -/
structure Rules where
  place : Place
  aggregates : AggregateRule
  /-- Whether the expression stands in a trigger program, where `RAISE` may be used. -/
  trigger : Bool
deriving Inhabited

/-- The rules of a query's expressions. -/
def Rules.query (trigger : Bool) (aggregates : AggregateRule) : Rules :=
  ⟨.query, aggregates, trigger⟩

/-- What a walk of names looks out for, to find the names a change of the schema edits: the
references to a column of a stored table (the row identifier's other names too when the column
is its alias), also those through the special rows it names; or the references to a stored
table through its name; or only the double-quoted names taken as strings. -/
inductive Watch where
  /-- A column of a table (the row identifier's alias when `isRowid`), also as read through
  the special rows named in `specials`. -/
  | column (schema table : String) (col : Nat) (isRowid : Bool) (specials : List String)
  | table (schema name : String)
  /-- Nothing but the double-quoted names taken as strings. -/
  | strings
deriving Inhabited

/-- The errors noted while resolving: one noted while a walk goes on, and the first one found
after names are resolved; and, when the walk watches for names, the names found and the
double-quoted names taken as strings. -/
structure CheckState where
  pending : Option String
  late : Option String
  watch : Option Watch
  found : List Ident
  quoted : List Ident
deriving Inhabited

/-- The state a resolution starts from. -/
def CheckState.start : CheckState := ⟨none, none, none, [], []⟩

/-- Resolving, which may stop at an error. -/
abbrev CheckM := StateT CheckState (Except String)

/-- Notes an error and goes on; a later one replaces it. -/
def CheckM.note (m : String) : CheckM Unit := modify fun s => { s with pending := some m }

/-- Keeps an error for after resolving, unless one is kept already. -/
def CheckM.later (m : String) : CheckM Unit :=
  modify fun s => { s with late := s.late <|> some m }

/-- Stops at a noted error. -/
def CheckM.settle : CheckM Unit := do
  match (← get).pending with
  | some m => throw m
  | none => pure ()

/-- Runs a resolution to its end: the first stopping error, else the kept one. -/
def CheckM.finish {α : Type} (act : CheckM α) : Except String α := do
  let (a, s) ← (do let a ← act; CheckM.settle; pure a).run CheckState.start
  match s.late with
  | some m => .error m
  | none => .ok a

/-- Names found by a resolution that watches: those it looks out for, and the double-quoted
names taken as strings. -/
structure Findings where
  names : List Ident
  quoted : List Ident
deriving Inhabited

/-- Runs a resolution to its end while watching for names. -/
def CheckM.watching {α : Type} (w : Watch) (act : CheckM α) : Except String (α × Findings) := do
  let (a, s) ← (do let a ← act; CheckM.settle; pure a).run
    { CheckState.start with watch := some w }
  match s.late with
  | some m => .error m
  | none => .ok (a, ⟨s.found, s.quoted⟩)

/-- Runs a resolution of text that stands elsewhere (a view's query read through its name)
without watching. -/
def CheckM.unwatched {α : Type} (act : CheckM α) : CheckM α := do
  let w := (← get).watch
  modify fun st => { st with watch := none }
  let a ← act
  modify fun st => { st with watch := w }
  pure a

/-- Takes note of a name resolved to a reference, when the walk watches for it; `table` is
the table name written before it. -/
def CheckM.notice (scopes : List ScopeShape) (ref : Ref) (table : Option Ident) (n : Ident) :
    CheckM Unit := do
  match (← get).watch with
  | none => pure ()
  | some w =>
    let source := fun (depth i : Nat) => (scopes[depth]?.bind fun sc => sc.sources[i]?)
    let reads := fun (depth i : Nat) (sch tb : String) =>
      ((source depth i).map (·.reads sch tb)).getD false
    let named := fun (depth i : Nat) (sch tb : String) =>
      reads depth i sch tb && !((source depth i).map (·.aliased)).getD true
    let hit : List Ident := match w, ref with
      | .column sch tb col _ _, .column depth i j =>
        if reads depth i sch tb && j == col then [n] else []
      | .column sch tb _ isRowid _, .rowid depth i =>
        if isRowid && reads depth i sch tb then [n] else []
      | .column _ _ col isRowid names, .special nm c =>
        if names.any (sameName · nm) && (c == some col || (c.isNone && isRowid)) then [n] else []
      | .table sch tb, .column depth i _ => if named depth i sch tb then table.toList else []
      | .table sch tb, .rowid depth i => if named depth i sch tb then table.toList else []
      | _, _ => []
    let quoted := match ref with
      | .literal _ => if n.doubleQuoted then [n] else []
      | _ => []
    -- names a star stands for are in no text
    let hit := hit.filter fun i => i.start < i.stop
    modify fun st => { st with found := st.found ++ hit, quoted := st.quoted ++ quoted }

/-- Runs a resolution with the special row `excluded` standing for a row of the target of an
`INSERT`: a walk watching for a column of that table watches the row too. -/
def CheckM.withExcluded {α : Type} (target : SourceShape) (act : CheckM α) : CheckM α := do
  let w := (← get).watch
  match w with
  | some (.column sch tb col isRowid names) =>
    if target.reads sch tb then
      modify fun st => { st with watch := some (.column sch tb col isRowid ("excluded" :: names)) }
  | _ => pure ()
  let a ← act
  modify fun st => { st with watch := w }
  pure a

/-- Takes note of a table named in a `FROM` clause, when the walk watches for it. -/
def CheckM.noticeTable (schema : String) (t : Table) (n : Ident) : CheckM Unit := do
  match (← get).watch with
  | some (.table sch tb) =>
    if sameName sch schema && sameName tb t.name then
      modify fun st => { st with found := st.found ++ [n] }
  | _ => pure ()

/-! ### Expressions as trees -/

/-- The expressions directly inside an expression, leaving out those of its subqueries. -/
def Expr.children : Expr → List Expr
  | .unary _ a | .collate a _ | .cast a _ | .isNull a _ | .inSelect a _ _ | .inTable a _ _ _ => [a]
  | .binary _ a b => [a, b]
  | .like _ _ a b esc => [a, b] ++ esc.toList
  | .between a lo hi _ => [a, lo, hi]
  | .inList a items _ => a :: items
  | .case op arms other => op.toList ++ arms.flatMap (fun (w, t) => [w, t]) ++ other.toList
  | .raise _ m => m.toList
  | .call _ _ _ args filter _ => args ++ filter.toList
  | .vector items => items
  | _ => []

/-- Whether some node of an expression, subqueries left out, satisfies a test. -/
def Expr.anyNode (p : Expr → Bool) : Nat → Expr → Bool
  | 0, _ => false
  | fuel + 1, e => p e || e.children.any (Expr.anyNode p fuel)

/-- The expressions of a window that name columns: its partition, then its ordering. -/
def Window.terms : Window → List Expr
  | .mk _ partition order _ => partition ++ order.map fun (.mk x _ _) => x
  | .named _ => []

/-- The expressions of a window of a `WINDOW` clause, as a walk over the clause reads them:
its ordering, then its partition. -/
def Window.definitionTerms : Window → List Expr
  | .mk _ partition order _ => order.map (fun (.mk x _ _) => x) ++ partition
  | .named _ => []

/-- The depth any expression a statement holds stays under. -/
def exprFuel : Nat := 100000

/-- Whether a call is a call of an aggregate function (and not its use as a window
function). -/
def Expr.isAggregateCall : Expr → Bool
  | .call name _ star args _ none =>
    match lookupFunction name.name (if star then 0 else args.length) with
    | .found s => s.kind == .aggregate
    | _ => false
  | _ => false

/-- Whether an expression calls an aggregate function outside its subqueries. -/
def Expr.hasAggregate (e : Expr) : Bool := e.anyNode Expr.isAggregateCall exprFuel

/-- The first aggregate call of an expression, outside its subqueries. -/
def Expr.firstAggregate : Nat → Expr → Option String
  | 0, _ => none
  | fuel + 1, e =>
    match e with
    | .call name _ _ _ _ _ =>
      if e.isAggregateCall then some name.name
      else e.children.findSome? (Expr.firstAggregate fuel)
    | _ => e.children.findSome? (Expr.firstAggregate fuel)

/-- The number of values an expression stands for: a row value's length, a subquery's
columns are counted elsewhere. -/
def Expr.width : Expr → Nat
  | .vector items => items.length
  | _ => 1

/-- Whether an operator compares. -/
def BinaryOp.compares : BinaryOp → Bool
  | .lt | .le | .gt | .ge | .eq | .ne | .is | .isNot => true
  | _ => false

/-- The ordinal of a position in messages: `1st`, `2nd`, `3rd`, `4th`, `11th`, …. -/
def ordinal (n : Nat) : String :=
  let suffix :=
    if n % 100 ≥ 11 && n % 100 ≤ 13 then "th"
    else if n % 10 == 1 then "st"
    else if n % 10 == 2 then "nd"
    else if n % 10 == 3 then "rd"
    else "th"
  toString n ++ suffix

/-! ### Result columns -/

/-- A column of a query's result before it is named: its expression, its alias, and the
text it was written with. -/
structure ResultItem where
  expr : Expr
  asName : Option String
  text : String
deriving Inhabited

/-- Expands `*` and `t.*` over the sources of a simple select: each source's columns in
order, leaving out a column a later source was joined on by name. -/
def expandResult (sources : Array SourceShape) (hasFrom : Bool) :
    List ResultColumn → Except String (List ResultItem)
  | [] => .ok []
  | rc :: rest => do
    let here ← match rc with
      | .expr e a text => Except.ok [⟨e, a.map (·.name), text⟩]
      | .star =>
        if !hasFrom then .error "no tables specified"
        else .ok (starOf sources.toList (sources.size > 1) none)
      | .tableStar t =>
        let named := sources.toList.filter (sameName ·.name t.name)
        if named.isEmpty then .error ("no such table: " ++ t.name)
        else .ok (starOf named true (some t))
    let more ← expandResult sources hasFrom rest
    pure (here ++ more)
where
  /-- The columns of some sources, qualified by their sources' names when `qualify`: by the
  name written before the star when there is one. -/
  starOf (srcs : List SourceShape) (qualify : Bool) (written : Option Ident) : List ResultItem :=
    srcs.flatMap fun s =>
      (s.columns.toList.filter (fun c => !(s.joinedOn.any (sameName · c.name)) || s.rightJoined)).map
        fun c =>
          let qualifier := if qualify then some (written.getD (Ident.plain s.name)) else none
          ⟨.column none qualifier (Ident.plain c.name), none, c.name⟩

/-- The declared type a column of a result shows for an affinity when its expression gives
none. -/
def Affinity.typeWord : Affinity → String
  | .blob => "BLOB"
  | .text => "TEXT"
  | .numeric => "NUM"
  | .integer => "INT"
  | .real => "REAL"

/-! ### The first pass: tables -/

mutual

/-- Finds the first table a query reads that does not exist. -/
def expandSelect (fuel : Nat) (ctx : Context) (q : Select) : Except String Unit :=
  match fuel with
  | 0 => .error "query is nested too deeply"
  | fuel + 1 =>
    match q with
    | .mk ctes recursive body order limit offset => do
      let named := ctes.map fun (.mk n cols cq) =>
        (⟨n.name, cols.map (·.name), cq, recursive, none⟩ : NamedQuery)
      let ctx' := { ctx with ctes := named.reverse ++ ctx.ctes }
      expandBody fuel ctx' body
      for t in order do expandExpr fuel ctx' t.expr
      for e in limit.toList ++ offset.toList do expandExpr fuel ctx' e

/-- The terms of a compound, from the last. -/
def expandBody (fuel : Nat) (ctx : Context) (body : SelectBody) : Except String Unit :=
  match fuel with
  | 0 => .error "query is nested too deeply"
  | fuel + 1 =>
    match body with
    | .core c => expandCore fuel ctx c
    | .compound _ left right => do
      expandCore fuel ctx right
      expandBody fuel ctx left

/-- A simple select: its `FROM` terms, `*`, then its expressions. -/
def expandCore (fuel : Nat) (ctx : Context) (c : SelectCore) : Except String Unit :=
  match fuel with
  | 0 => .error "query is nested too deeply"
  | fuel + 1 =>
    match c with
    | .values rows => do
      for row in rows do
        for e in row do expandExpr fuel ctx e
    | .select _ cols source cond groupBy having windows => do
      let names ← match source with
        | some f => expandFrom fuel ctx f
        | none => pure []
      for rc in cols do
        match rc with
        | .star => if source.isNone then throw "no tables specified"
        | .tableStar t => if !names.any (sameName · t.name) then throw ("no such table: " ++ t.name)
        | .expr _ _ _ => pure ()
      for rc in cols do
        match rc with
        | .expr e _ _ => expandExpr fuel ctx e
        | _ => pure ()
      for e in cond.toList ++ groupBy ++ having.toList do expandExpr fuel ctx e
      let _ := windows
      match source with
      | some f => expandOn fuel ctx f
      | none => pure ()

/-- The terms of a `FROM` clause: tables and views looked up, subqueries expanded; gives the
names the terms are known by. -/
def expandFrom (fuel : Nat) (ctx : Context) (f : FromClause) : Except String (List String) :=
  match fuel with
  | 0 => .error "query is nested too deeply"
  | fuel + 1 =>
    match f with
    | .mk first joins => do
      let a ← expandItem fuel ctx first
      let mut names := [a]
      for j in joins do
        match j with
        | .mk _ item _ _ => names := names ++ [← expandItem fuel ctx item]
      pure names

/-- A term of a `FROM` clause; gives its name. -/
def expandItem (fuel : Nat) (ctx : Context) (item : FromItem) : Except String String :=
  match fuel with
  | 0 => .error "query is nested too deeply"
  | fuel + 1 =>
    match item with
    | .table schema name asName => do
      match ← ctx.relation schema name.name with
      | .view s v => expandSelect fuel (ctx.within s) v.query
      | _ => pure ()
      pure ((asName.map (·.name)).getD name.name)
    | .subquery q asName => do
      expandSelect fuel ctx q
      pure ((asName.map (·.name)).getD "")
    | .function name _ _ => throw ("no such table: " ++ name.name)
    | .nested f asName => do
      let _ ← expandFrom fuel ctx f
      pure ((asName.map (·.name)).getD "")

/-- The `ON` conditions of a `FROM` clause. -/
def expandOn (fuel : Nat) (ctx : Context) (f : FromClause) : Except String Unit :=
  match fuel with
  | 0 => .error "query is nested too deeply"
  | fuel + 1 =>
    match f with
    | .mk _ joins => do
      for j in joins do
        match j with
        | .mk _ _ on _ => for e in on.toList do expandExpr fuel ctx e

/-- The subqueries of an expression. -/
def expandExpr (fuel : Nat) (ctx : Context) (e : Expr) : Except String Unit :=
  match fuel with
  | 0 => .error "expression is nested too deeply"
  | fuel + 1 => do
    match e with
    | .exists q | .subquery q | .inSelect _ q _ => expandSelect fuel ctx q
    | .inTable _ schema t _ => let _ ← ctx.relation schema t.name
    | _ => pure ()
    for c in e.children do expandExpr fuel ctx c

end

/-! ### The second pass: names -/

/-- A simple select as resolved: its sources, its result items with their names, and
whether it is an aggregate query. -/
structure CoreShape where
  sources : Array SourceShape
  items : List ResultItem
  columns : Array ColumnShape
  aggregate : Bool
deriving Inhabited

/-- The shape of the sources of a `FROM` clause once joined: their columns, with the
columns joined by name recorded on the later source. -/
def joinShapes (left : Array SourceShape) (kind : JoinKind) (right : SourceShape)
    (hasOn : Bool) (usingCols : List Ident) : Except String SourceShape := do
  if kind.natural && (hasOn || !usingCols.isEmpty) then
    throw "a NATURAL join may not have an ON or USING clause"
  let leftHas := fun (n : String) => left.any fun s => s.columns.any (sameName ·.name n)
  let joined ←
    if kind.natural then
      pure ((right.columns.toList.map (·.name)).filter leftHas)
    else do
      for u in usingCols do
        if !(right.columns.any (sameName ·.name u.name)) || !leftHas u.name then
          throw ("cannot join using column " ++ u.name ++ " - column not present in both tables")
      pure (usingCols.map (·.name))
  pure { right with joinedOn := joined, rightJoined := kind.right }

/-- The column an expression reads when it is a plain column reference: its name (the row
identifier's column, or `rowid`) and its declared type. -/
def sourceColumn (scopes : List ScopeShape) : Expr → Option (String × String)
  | .column s t n =>
    match lookupName scopes (s.map (·.name)) (t.map (·.name)) n.name n.doubleQuoted with
    | .ok (.column d i j) =>
      (scopes[d]? >>= (·.sources[i]?) >>= (·.columns[j]?)).map fun c => (c.name, c.declared)
    | .ok (.rowid d i) =>
      match scopes[d]? >>= (·.sources[i]?) with
      | some src =>
        match src.rowidColumn >>= (src.columns[·]?) with
        | some c => some (c.name, c.declared)
        | none => some ("rowid", "INTEGER")
      | none => none
    | _ => none
  | .collate a _ => sourceColumn scopes a
  | _ => none

/-- The collation an expression carries and whether it was written with `COLLATE`: an
explicit `COLLATE` anywhere in it wins; else a column's own collation, looking through
`CAST` and unary `+`. -/
def exprCollation (scopes : List ScopeShape) (e : Expr) : Option (Collation × Bool) :=
  match explicit exprFuel e with
  | some c => some (c, true)
  | none => (implicit exprFuel e).map (·, false)
where
  /-- The first `COLLATE` written in the expression, left to right. -/
  explicit : Nat → Expr → Option Collation
    | 0, _ => none
    | fuel + 1, e =>
      match e with
      | .collate _ name => (Collation.ofName? name).orElse fun _ => some .binary
      | _ => e.children.findSome? (explicit fuel)
  /-- The collation of the column the expression reads. -/
  implicit : Nat → Expr → Option Collation
    | 0, _ => none
    | fuel + 1, e =>
      match e with
      | .column s t n =>
        match lookupName scopes (s.map (·.name)) (t.map (·.name)) n.name n.doubleQuoted with
        | .ok (.column d i j) =>
          (scopes[d]? >>= (·.sources[i]?) >>= (·.columns[j]?)).map (·.collation)
        | .ok (.special nm (some j)) =>
          ((scopes.head?.map (·.specials)).getD [] |>.find? (sameName ·.name nm)) >>=
            (·.columns[j]?) |>.map (·.collation)
        | _ => none
      | .cast a _ | .unary .pos a => implicit fuel a
      | .vector (a :: _) => implicit fuel a
      | _ => none

/-- The columns of a result under the names written for them, when names are written. -/
def renameColumns (names : List String) (cols : Array ColumnShape) : Array ColumnShape :=
  if names.isEmpty then cols
  else (cols.toList.zip names).toArray.map fun (c, n) => { c with name := n }

/-- Checks a term of the ordering of a compound: it must name a column of the result. -/
def checkCompoundTerm (columns : Array ColumnShape) (i : Nat) (e : Expr) : CheckM Unit :=
  match e with
  | .number text false =>
    match text.toNat? with
    | some k =>
      if k < 1 || k > columns.size then
        throw (ordinal i ++ " ORDER BY term out of range - should be between 1 and " ++
          toString columns.size)
      else pure ()
    | none => pure ()
  | .column none none n =>
    if columns.any (sameName ·.name n.name) then pure ()
    else throw (ordinal i ++ " ORDER BY term does not match any column in the result set")
  | .collate inner _ => checkCompoundTerm columns i inner
  | _ => throw (ordinal i ++ " ORDER BY term does not match any column in the result set")


mutual

/-- Resolves the names of an expression. -/
def checkExpr (fuel : Nat) (ctx : Context) (scopes : List ScopeShape) (r : Rules) (e : Expr) :
    CheckM Unit :=
  match fuel with
  | 0 => throw "expression is nested too deeply"
  | fuel + 1 =>
    match e with
    | .lit _ | .number _ _ | .now _ => pure ()
    | .variable _ =>
      if r.place != .query then CheckM.note ("parameters prohibited in " ++ r.place.phrase)
      else pure ()
    | .column s t n =>
      match lookupName scopes (s.map (·.name)) (t.map (·.name)) n.name n.doubleQuoted with
      | .error m => throw m
      | .ok ref => do
        CheckM.notice scopes ref t n
        match ref with
        | .aliased _ a =>
          match a.firstAggregate exprFuel with
          | some f =>
            match r.aggregates with
            | .refused => throw ("misuse of aliased aggregate " ++ n.name)
            | .deferred => CheckM.later ("misuse of aggregate: " ++ f ++ "()")
            | .allowed => pure ()
          | none => pure ()
        | _ => pure ()
    | .binary op a b => do
      if op.compares && a.width != b.width then CheckM.note "row value misused"
      checkExpr fuel ctx scopes r a
      checkExpr fuel ctx scopes r b
    | .between a lo hi _ => do
      if a.width != lo.width || a.width != hi.width then CheckM.note "row value misused"
      checkExpr fuel ctx scopes r a
      checkExpr fuel ctx scopes r lo
      checkExpr fuel ctx scopes r hi
    | .exists q => do
      if r.place != .query then CheckM.note ("subqueries prohibited in " ++ r.place.phrase)
      let _ ← checkSelect fuel ctx scopes r.trigger q
    | .subquery q => do
      if r.place != .query then CheckM.note ("subqueries prohibited in " ++ r.place.phrase)
      let cols ← checkSelect fuel ctx scopes r.trigger q
      if cols.size != 1 then
        CheckM.later ("sub-select returns " ++ toString cols.size ++ " columns - expected 1")
    | .inSelect a q _ => do
      if r.place != .query then CheckM.note ("subqueries prohibited in " ++ r.place.phrase)
      checkExpr fuel ctx scopes r a
      let cols ← checkSelect fuel ctx scopes r.trigger q
      if cols.size != a.width then
        CheckM.later ("sub-select returns " ++ toString cols.size ++ " columns - expected " ++
          toString a.width)
    | .inTable a _ _ _ => do
      if r.place != .query then CheckM.note ("subqueries prohibited in " ++ r.place.phrase)
      checkExpr fuel ctx scopes r a
    | .raise _ m => do
      if !r.trigger then CheckM.note "RAISE() may only be used within a trigger-program"
      for x in m.toList do checkExpr fuel ctx scopes r x
    | .call name _ star args filter window => do
      let count := if star then 0 else args.length
      let found := lookupFunction name.name count
      let isAgg := match found with
        | .found s => s.kind == .aggregate && window.isNone
        | _ => false
      match found with
      | .found s =>
        if !s.deterministic &&
            (r.place == .indexExpr || r.place == .partialIndex || r.place == .generated) then
          CheckM.note ("non-deterministic functions prohibited in " ++ r.place.phrase)
        if window.isSome && s.kind == .scalar then
          CheckM.note (name.name ++ "() may not be used as a window function")
        else if s.kind == .window && window.isNone then
          CheckM.note ("misuse of window function " ++ name.name ++ "()")
        else if isAgg && r.aggregates == .refused then
          CheckM.note ("misuse of aggregate function " ++ name.name ++ "()")
        else if !isAgg && filter.isSome && s.kind == .scalar then
          CheckM.note ("FILTER may not be used with non-aggregate " ++ name.name ++ "()")
      | .unknown => CheckM.note ("no such function: " ++ name.name)
      | .wrongCount => CheckM.note ("wrong number of arguments to function " ++ name.name ++ "()")
      let inner := if isAgg then { r with aggregates := .refused } else r
      for a in args do checkExpr fuel ctx scopes inner a
      for f in filter.toList do checkExpr fuel ctx scopes inner f
      for x in (window.map Window.terms).getD [] do checkExpr fuel ctx scopes r x
      if isAgg && r.aggregates == .deferred then
        CheckM.later ("misuse of aggregate: " ++ name.name ++ "()")
    | .vector items => do
      for x in items do checkExpr fuel ctx scopes r x
    | e => do
      for x in e.children do checkExpr fuel ctx scopes r x

/-- Resolves the names of an expression standing alone: a noted error stops it at its end. -/
def checkWhole (fuel : Nat) (ctx : Context) (scopes : List ScopeShape) (r : Rules) (e : Expr) :
    CheckM Unit :=
  match fuel with
  | 0 => throw "expression is nested too deeply"
  | fuel + 1 => do
    checkExpr fuel ctx scopes r e
    CheckM.settle

/-- Resolves a query; gives the columns of its result. -/
def checkSelect (fuel : Nat) (ctx : Context) (outer : List ScopeShape) (trigger : Bool) (q : Select) :
    CheckM (Array ColumnShape) :=
  match fuel with
  | 0 => throw "query is nested too deeply"
  | fuel + 1 =>
    match q with
    | .mk ctes recursive body order limit offset => do
      -- `LIMIT` and `OFFSET` see no names at all
      for e in limit.toList ++ offset.toList do checkWhole fuel ctx [] (Rules.query trigger .refused) e
      let ctx' ← withCtes fuel ctx outer trigger recursive ctes
      let (cores, aggregate) ← checkBody fuel ctx' outer trigger body
      match cores with
      | [] => pure #[]
      | first :: _ =>
        let isCompound := cores.length > 1
        for (t, i) in order.zip (List.range order.length) do
          if isCompound then
            checkCompoundTerm first.columns (i + 1) t.expr
          else
            checkOrderTerm fuel ctx' first trigger aggregate "ORDER" (i + 1) t.expr
        pure first.columns

/-- Makes the queries of a `WITH` clause visible, each checked as it is added. -/
def withCtes (fuel : Nat) (ctx : Context) (outer : List ScopeShape) (trigger recursive : Bool) :
    List Cte → CheckM Context
  | [] => pure ctx
  | (.mk n cols cq) :: rest =>
    match fuel with
    | 0 => throw "query is nested too deeply"
    | fuel + 1 => do
      let nq : NamedQuery := ⟨n.name, cols.map (·.name), cq, recursive, none⟩
      let known ← cteColumns fuel ctx outer trigger nq
      withCtes fuel { ctx with ctes := { nq with known := some known } :: ctx.ctes } outer trigger
        recursive rest

/-- The columns of a query named by a `WITH` clause: its own column names over its result. -/
def cteColumns (fuel : Nat) (ctx : Context) (outer : List ScopeShape) (trigger : Bool)
    (nq : NamedQuery) : CheckM (Array ColumnShape) :=
  match fuel with
  | 0 => throw "query is nested too deeply"
  | fuel + 1 => do
    let base ← match nq.query with
      | .mk _ _ (.compound _ left _) _ _ _ =>
        if nq.recursive then
          -- the first terms, which cannot read the query itself, give its columns
          let (cores, _) ← checkBody fuel
            { ctx with ctes := ctx.ctes.filter (!sameName ·.name nq.name) } outer trigger left
          pure (match cores with
            | c :: _ => some c.columns
            | [] => none)
        else pure none
      | _ => pure none
    let self := { nq with known := base }
    let cols ← checkSelect fuel { ctx with ctes := self :: ctx.ctes } outer trigger nq.query
    if !nq.columns.isEmpty && nq.columns.length != cols.size then
      throw ("table " ++ nq.name ++ " has " ++ toString cols.size ++ " values for " ++
        toString nq.columns.length ++ " columns")
    pure (renameColumns nq.columns cols)

/-- Resolves the terms of a compound, from the last; gives them first to last, and whether
the first is an aggregate query. -/
def checkBody (fuel : Nat) (ctx : Context) (outer : List ScopeShape) (trigger : Bool) :
    SelectBody → CheckM (List CoreShape × Bool)
  | body =>
    match fuel, body with
    | 0, _ => throw "query is nested too deeply"
    | fuel + 1, .core c => do
      let s ← checkCore fuel ctx outer trigger c
      pure ([s], s.aggregate)
    | fuel + 1, .compound op left right => do
      let s ← checkCore fuel ctx outer trigger right
      let (ls, agg) ← checkBody fuel ctx outer trigger left
      match ls.getLast? with
      | some l =>
        if l.columns.size != s.columns.size then
          match right with
          | .values _ => throw "all VALUES must have the same number of terms"
          | _ => throw ("SELECTs to the left and right of " ++ op.word ++
              " do not have the same number of result columns")
      | none => pure ()
      pure (ls ++ [s], agg)

/-- Resolves a simple select. -/
def checkCore (fuel : Nat) (ctx : Context) (outer : List ScopeShape) (trigger : Bool)
    (c : SelectCore) : CheckM CoreShape :=
  match fuel with
  | 0 => throw "query is nested too deeply"
  | fuel + 1 =>
    match c with
    | .values rows => do
      let rule := Rules.query trigger .refused
      let bare : ScopeShape := ⟨#[], [], ctx.specials⟩
      for row in rows do
        for e in row do checkWhole fuel ctx (bare :: outer) rule e
      let width := (rows.head?.map List.length).getD 0
      for row in rows do
        if row.length != width then throw "all VALUES must have the same number of terms"
      let items := ((rows.head?.getD []).zip (List.range width)).map fun (e, i) =>
        (⟨e, none, "column" ++ toString (i + 1)⟩ : ResultItem)
      let cols := (List.range width).map fun i =>
        (⟨"column" ++ toString (i + 1), .blob, .binary, "", true⟩ : ColumnShape)
      pure ⟨#[], items, cols.toArray, false⟩
    | .select _ cols source cond groupBy having windows => do
      let (sources, ons) ← match source with
        | some f => fromShapes fuel ctx outer trigger f
        | none => pure (#[], [])
      let items ← match expandResult sources source.isSome cols with
        | .ok xs => pure xs
        | .error m => throw m
      let here : ScopeShape := ⟨sources, [], ctx.specials⟩
      let scopes := here :: outer
      for it in items do checkWhole fuel ctx scopes (Rules.query trigger .allowed) it.expr
      let aggregate := !groupBy.isEmpty || items.any (·.expr.hasAggregate)
      let aliases := items.filterMap fun it => it.asName.map (·, it.expr)
      let withAliases := { here with aliases := aliases } :: outer
      match having with
      | some h =>
        if !aggregate then throw "HAVING clause on a non-aggregate query"
        checkWhole fuel ctx withAliases (Rules.query trigger .allowed) h
      | none => pure ()
      let whereRule := Rules.query trigger (if aggregate then .deferred else .refused)
      for w in cond.toList ++ ons do checkWhole fuel ctx withAliases whereRule w
      -- the windows of the `WINDOW` clause are read where a call names them; a walk that
      -- watches for names reads them all, as written
      if (← get).watch.isSome then
        for x in windows.flatMap (·.2.definitionTerms) do
          checkWhole fuel ctx withAliases (Rules.query trigger .allowed) x
      let shapes ← itemColumns fuel ctx scopes items
      let core : CoreShape := ⟨sources, items, shapes, aggregate⟩
      for (g, i) in groupBy.zip (List.range groupBy.length) do
        checkOrderTerm fuel ctx core trigger aggregate "GROUP" (i + 1) g
        if g.hasAggregate then throw "aggregate functions are not allowed in the GROUP BY clause"
      pure core

/-- Resolves a term of `ORDER BY` or `GROUP BY` of a simple select: a number picks a result
column, a bare name may be a result alias, anything else is resolved in the select without
its outer queries. -/
def checkOrderTerm (fuel : Nat) (ctx : Context) (core : CoreShape) (trigger aggregate : Bool)
    (clause : String) (i : Nat) (e : Expr) : CheckM Unit :=
  match fuel with
  | 0 => throw "query is nested too deeply"
  | fuel + 1 =>
    -- the term resolved as an expression
    let orderExpr : CheckM Unit := do
      let aliases := core.items.filterMap fun it => it.asName.map (·, it.expr)
      let here : ScopeShape := ⟨core.sources, aliases, ctx.specials⟩
      let rule := Rules.query trigger
        (if aggregate || clause == "GROUP" then .allowed else .deferred)
      checkWhole fuel ctx [here] rule e
    match e with
    | .number text false =>
      match text.toNat? with
      | some k =>
        if k < 1 || k > core.items.length then
          throw (ordinal i ++ " " ++ clause ++ " BY term out of range - should be between 1 and " ++
            toString core.items.length)
        else pure ()
      | none => pure ()
    | .column none none n =>
      if core.items.any (fun it => (it.asName.map (sameName · n.name)).getD false) then pure ()
      else orderExpr
    | _ => orderExpr

/-- The sources of a `FROM` clause, with the `ON` conditions to resolve with `WHERE`. -/
def fromShapes (fuel : Nat) (ctx : Context) (outer : List ScopeShape) (trigger : Bool)
    (f : FromClause) : CheckM (Array SourceShape × List Expr) :=
  match fuel with
  | 0 => throw "query is nested too deeply"
  | fuel + 1 =>
    match f with
    | .mk first joins => do
      let a ← itemShape fuel ctx outer trigger first
      let mut acc := #[a]
      let mut ons : List Expr := []
      for j in joins do
        match j with
        | .mk kind item on usingCols =>
          let s ← itemShape fuel ctx outer trigger item
          match joinShapes acc kind s on.isSome usingCols with
          | .ok s' => acc := acc.push s'
          | .error m => throw m
          ons := ons ++ on.toList
      pure (acc, ons)

/-- The shape of a term of a `FROM` clause. -/
def itemShape (fuel : Nat) (ctx : Context) (outer : List ScopeShape) (trigger : Bool)
    (item : FromItem) : CheckM SourceShape :=
  match fuel with
  | 0 => throw "query is nested too deeply"
  | fuel + 1 =>
    match item with
    | .table schema name asName => do
      let shown := (asName.map (·.name)).getD name.name
      match ctx.relation schema name.name with
      | .error m => throw m
      | .ok (.table s t) => do
        CheckM.noticeTable s t name
        pure { t.shape shown s with aliased := asName.isSome }
      | .ok (.master temp) =>
        pure ⟨shown, some (if temp then "temp" else "main"), masterColumns, true, [], false, none, none,
          false⟩
      | .ok (.view s v) => do
        let cols ← CheckM.unwatched (checkSelect fuel (ctx.within s) [] false v.query)
        if !v.columns.isEmpty && v.columns.length != cols.size then
          throw ("expected " ++ toString v.columns.length ++ " columns for '" ++ v.name ++
            "' but got " ++ toString cols.size)
        pure ⟨shown, some s, renameColumns v.columns cols, false, [], false, none, none, false⟩
      | .ok (.named nq) =>
        match nq.known with
        | some cols =>
          pure ⟨shown, none, renameColumns nq.columns cols, false, [], false, none, none, false⟩
        | none => do
          let cols ← checkSelect fuel ctx outer trigger nq.query
          pure ⟨shown, none, renameColumns nq.columns cols, false, [], false, none, none, false⟩
    | .subquery q asName => do
      let cols ← checkSelect fuel ctx outer trigger q
      pure ⟨(asName.map (·.name)).getD "", none, cols, false, [], false, none, none, false⟩
    | .function name _ _ => throw ("no such table: " ++ name.name)
    | .nested f asName => do
      let (srcs, ons) ← fromShapes fuel ctx outer trigger f
      let here : ScopeShape := ⟨srcs, [], ctx.specials⟩
      for o in ons do checkWhole fuel ctx (here :: outer) (Rules.query trigger .refused) o
      let items := expandResult.starOf srcs.toList (srcs.size > 1) none
      let cols ← itemColumns fuel ctx [here] items
      pure ⟨(asName.map (·.name)).getD "", none, cols, false, [], false, none, none, false⟩

/-- The columns of a result: named, deduplicated, with their affinities and collations. -/
def itemColumns (fuel : Nat) (ctx : Context) (scopes : List ScopeShape) (items : List ResultItem) :
    CheckM (Array ColumnShape) :=
  match fuel with
  | 0 => throw "query is nested too deeply"
  | fuel + 1 => do
    let raw ← items.zip (List.range items.length) |>.mapM fun (it, i) => do
      let (name, shape) ← itemShapeOf fuel ctx scopes it
      pure ({ shape with name := if isTruthName name then "column" ++ toString (i + 1) else name })
    let names := distinctNames (raw.map (·.name))
    pure ((raw.zip names).map (fun (c, n) => { c with name := n })).toArray

/-- The name and shape of one result item. -/
def itemShapeOf (fuel : Nat) (ctx : Context) (scopes : List ScopeShape) (it : ResultItem) :
    CheckM (String × ColumnShape) :=
  match fuel with
  | 0 => throw "query is nested too deeply"
  | fuel + 1 => do
    let aff ← exprAffinity fuel ctx scopes it.expr
    let coll := exprCollation scopes it.expr
    let plainShape : ColumnShape :=
      ⟨"", aff.getD .blob, (coll.map Prod.fst).getD .binary,
        match aff with
        | some a => a.typeWord
        | none => "", aff.isNone⟩
    let (colName, declared) := match sourceColumn scopes it.expr with
      | some (n, d) => (some n, some d)
      | none => (none, none)
    let name := match it.asName with
      | some a => a
      | none => colName.getD it.text
    let shape := match declared with
      | some d => { plainShape with declared := if d.isEmpty then (aff.getD .blob).typeWord else d }
      | none => plainShape
    pure (name, shape)

/-- The affinity of an expression, or none: a column's affinity, a `CAST`'s type, a
subquery's first column; `COLLATE`, `likely` and the like look through. -/
def exprAffinity (fuel : Nat) (ctx : Context) (scopes : List ScopeShape) (e : Expr) :
    CheckM (Option Affinity) :=
  match fuel with
  | 0 => pure none
  | fuel + 1 =>
    match e with
    | .column s t n =>
      match lookupName scopes (s.map (·.name)) (t.map (·.name)) n.name n.doubleQuoted with
      | .ok (.column d i j) =>
        match scopes[d]? >>= (·.sources[i]?) >>= (·.columns[j]?) with
        | some c => pure (if c.plain then none else some c.affinity)
        | none => pure none
      | .ok (.rowid _ _) => pure (some .integer)
      | .ok (.special nm col) =>
        match ctx.specials.find? (sameName ·.name nm) with
        | some r =>
          match col with
          | some j => pure ((r.columns[j]?).map (·.affinity))
          | none => pure (some .integer)
        | none => pure none
      | .ok (.aliased d a) => exprAffinity fuel ctx (scopes.drop d) a
      | _ => pure none
    | .cast _ ty => pure (some (Affinity.ofTypeName ty))
    | .collate a _ => exprAffinity fuel ctx scopes a
    | .subquery q => do
      let saved ← get
      let cols ← tryCatch (checkSelect fuel ctx scopes true q) (fun _ => pure #[])
      set saved
      pure (cols[0]? >>= fun c => if c.plain then none else some c.affinity)
    | .call name _ _ [a] _ _ =>
      if lowerAscii name.name == "likely" || lowerAscii name.name == "unlikely" then
        exprAffinity fuel ctx scopes a
      else pure none
    | .call name _ _ [a, _] _ _ =>
      if lowerAscii name.name == "likelihood" then exprAffinity fuel ctx scopes a else pure none
    | .vector (a :: _) => exprAffinity fuel ctx scopes a
    | _ => pure none

end

/-- Resolves a whole query against a context: the first pass, then the second. -/
def prepareSelect (ctx : Context) (outer : List ScopeShape) (trigger : Bool) (q : Select) :
    Except String (Array ColumnShape) := do
  expandSelect exprFuel ctx q
  (checkSelect exprFuel ctx outer trigger q).finish

end Payout.Database
