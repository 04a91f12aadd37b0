import Payout.Database.Write.State

/-!
# Foreign keys

A foreign key ties columns of a child table to the primary key, or to the columns of a
uniqueness index, of a parent table in the same schema. When the key names the parent's
row identifier column (or names nothing and the parent has one), the parent row is found by
its identifier; otherwise an index on exactly the key's columns, with their own collations
and no condition, must exist, else the key is a `foreign key mismatch`.

Violations are counted rather than refused at once: a child row whose key (with no null in
it) has no parent adds one, a parent row that disappears adds one for each child that
points to it, and the reverse changes take them away again (only while some violation is
counted). The count of an immediate key belongs to the statement and must be zero when it
ends; that of a deferred key, or of any key while `defer_foreign_keys` is on, belongs to
the connection and must be zero when the transaction commits.
-/

namespace Payout.Database

/-- How a foreign key reaches its parent rows: by the parent's row identifier, or through a
uniqueness index, each child column paired with a parent column in the index's order. -/
inductive ParentKey where
  | rowid (child : Nat)
  | index (ix : Index) (pairs : List (Nat × Nat))
deriving Inhabited

/-- The message of a foreign key without a usable parent key. -/
def mismatchMessage (child : Table) (fk : ForeignKey) : String :=
  "foreign key mismatch - \"" ++ child.name ++ "\" referencing \"" ++ fk.parent ++ "\""

/-- Finds how a foreign key reaches its parent, among the parent's indexes in order. -/
def locateParentKey (s : Schema) (child parent : Table) (fk : ForeignKey) :
    Except String ParentKey := do
  let childCols := fk.columns.map fun c => (child.columnIndex? c).getD 0
  let n := fk.columns.length
  let viaRowid : Option ParentKey :=
    if n == 1 then
      match parent.rowidColumn with
      | some p =>
        match fk.parentColumns with
        | [] => some (.rowid (childCols.headD 0))
        | [k] =>
          if (parent.columns[p]?.map (sameName ·.name k)).getD false then
            some (.rowid (childCols.headD 0))
          else none
        | _ => none
      | none => none
    else none
  match viaRowid with
  | some k => pure k
  | none =>
    let usable := fun (ix : Index) =>
      if ix.keys.length != n || !ix.unique || ix.condition.isSome then none
      else if fk.parentColumns.isEmpty then
        if ix.origin == .primaryKey then
          let parentCols := ix.keys.map fun k => (k.column >>= parent.columnIndex?).getD 0
          some (ParentKey.index ix (childCols.zip parentCols))
        else none
      else
        let pairs := ix.keys.mapM fun k => do
          let pc ← k.column >>= parent.columnIndex?
          let col ← parent.columns[pc]?
          if k.collation != col.collation then none
          let j ← fk.parentColumns.findIdx? (sameName · col.name)
          let cc ← childCols[j]?
          pure (cc, pc)
        pairs.map (ParentKey.index ix)
    match (s.indexesOf parent.name).findSome? usable with
    | some k => pure k
    | none => throw (mismatchMessage child fk)

/-- The child columns of a parent key, in its order. -/
def ParentKey.childColumns : ParentKey → List Nat
  | .rowid c => [c]
  | .index _ pairs => pairs.map Prod.fst

/-- Whether a parent row holds the key of a child row: the child's values, under the parent
columns' affinities, equal the parent's under the index's collations. -/
def ParentKey.matches (key : ParentKey) (parent : Table) (child : Array Value) (r : Row) : Bool :=
  match key with
  | .rowid c =>
    match rowidValue (child[c]?.getD .null) with
    | .ok i => i == r.rowid
    | .error _ => false
  | .index ix pairs =>
    (pairs.zip ix.keys).all fun ((cc, pc), k) =>
      let aff := ((parent.columns[pc]?).map (·.affinity)).getD .blob
      let v := (child[cc]?.getD .null).withAffinity aff
      let w := r.values[pc]?.getD .null
      !v.isNull && !w.isNull && Value.compareWith k.collation v w == .eq

/-- Whether a new row of a table that is its own parent holds its own key: the child values
equal the parent ones as they are, with no conversion and the binary collation. -/
def ParentKey.matchesItself (key : ParentKey) (vals : Array Value) (rowid : Int) : Bool :=
  match key with
  | .rowid c =>
    match rowidValue (vals[c]?.getD .null) with
    | .ok i => i == rowid
    | .error _ => false
  | .index _ pairs =>
    pairs.all fun (cc, pc) =>
      let v := vals[cc]?.getD .null
      let w := vals[pc]?.getD .null
      !v.isNull && !w.isNull && Value.compareWith .binary v w == .eq

/-- Whether a child row points at a parent row's key: the comparison `parent = child` under
the parent column's affinity and collation. -/
def ParentKey.pointsAt (key : ParentKey) (parent child : Table) (parentVals : Array Value)
    (parentRowid : Int) (r : Row) : Bool :=
  match key with
  | .rowid c =>
    let cc := child.columns[c]?.getD default
    compareUnder (comparisonAffinity (some .integer) (some cc.affinity)) .binary
      (.integer parentRowid) (r.values[c]?.getD .null) == some .eq
  | .index _ pairs =>
    pairs.all fun (cc, pc) =>
      let pcol := parent.columns[pc]?.getD default
      let ccol := child.columns[cc]?.getD default
      let pv := if parent.rowidColumn == some pc then Value.integer parentRowid
        else parentVals[pc]?.getD .null
      compareUnder (comparisonAffinity (some pcol.affinity) (some ccol.affinity)) pcol.collation
        pv (r.values[cc]?.getD .null) == some .eq

/-- The foreign keys of a schema that point at a table, newest first, with their tables. -/
def Schema.referencing (s : Schema) (parent : String) : List (Table × ForeignKey) :=
  (s.tables.flatMap fun t => (t.foreignKeys.filter (sameName ·.parent parent)).map (t, ·)).reverse

namespace Write

/-- Adds to the count of violations of a key. -/
def bumpKey (fk : ForeignKey) (n : Int) : Write Unit := do
  let st ← get
  if st.conn.settings.deferForeignKeys then
    set { st with conn := { st.conn with deferredImmediate := st.conn.deferredImmediate + n } }
  else if fk.deferred then
    set { st with conn := { st.conn with deferred := st.conn.deferred + n } }
  else set { st with pending := st.pending + n }

/-- Whether no violation of a key's kind is counted, so that none can be taken away. -/
def keyCountIsZero (fk : ForeignKey) : Write Bool := do
  let st ← get
  if fk.deferred then pure (st.conn.deferred == 0 && st.conn.deferredImmediate == 0)
  else pure (st.pending == 0 && st.conn.deferredImmediate == 0)

/-- The parent table of a key and how it is reached; with `lenient`, a missing table or key
gives none instead of failing. -/
def parentOf (schemaName : String) (child : Table) (fk : ForeignKey) (lenient : Bool) :
    Write (Option (Table × ParentKey)) := do
  let s := (← get).schema schemaName
  match s.table? fk.parent with
  | some p =>
    match locateParentKey s child p fk with
    | .ok k => pure (some (p, k))
    | .error m => if lenient then pure none else fail m
  | none =>
    if (s.view? fk.parent).isSome then
      if lenient then pure none else fail (mismatchMessage child fk)
    else if lenient then pure none
    else fail ("no such table: " ++ (if isTempName schemaName then "temp" else "main") ++ "." ++ fk.parent)

/-- Whether a row's key holds a null, which satisfies the key. -/
def keyHasNull (cols : List Nat) (vals : Array Value) : Bool :=
  cols.any fun c => (vals[c]?.getD .null).isNull

/-- Counts what a child row does to its keys: a new row without a parent adds a violation,
an old row without a parent takes one away. -/
def childSide (schemaName : String) (t : Table) (fk : ForeignKey) (lenient : Bool)
    (old new : Option (Array Value × Int)) : Write Unit := do
  let childCols := fk.columns.map fun c => (t.columnIndex? c).getD 0
  match ← parentOf schemaName t fk lenient with
  | none =>
    -- a table being dropped whose parent is gone: its rows with full keys no longer count
    if lenient then
      for (vals, _) in old.toList do
        if !keyHasNull childCols vals then bumpKey fk (-1)
  | some (parent, key) =>
    let parentRows ← rows schemaName parent.name
    for (vals, _) in old.toList do
      if !(← keyCountIsZero fk) && !keyHasNull childCols vals then
        if !(parentRows.any (key.matches parent vals)) then bumpKey fk (-1)
    for (vals, rowid) in new.toList do
      if !keyHasNull childCols vals then
        -- a row of a table that is its own parent may satisfy its own key
        let selfMatch := sameName parent.name t.name && key.matchesItself vals rowid
        if !selfMatch && !(parentRows.any (key.matches parent vals)) then bumpKey fk 1

/-- Counts what a parent row does to the keys pointing at it: a new row takes away one
violation for each child pointing at it, an old row adds one. -/
def parentSide (schemaName : String) (t : Table) (child : Table) (fk : ForeignKey)
    (lenient : Bool) (old new : Option (Array Value × Int)) : Write Unit := do
  let s := (← get).schema schemaName
  match locateParentKey s child t fk with
  | .error m => if lenient then pure () else fail m
  | .ok key =>
    let childRows ← rows schemaName child.name
    for (vals, rowid) in new.toList do
      if !(← keyCountIsZero fk) then
        let n := (childRows.filter (key.pointsAt t child vals rowid)).size
        if n > 0 then bumpKey fk (-(n : Int))
    for (vals, rowid) in old.toList do
      let own := fun (r : Row) => sameName child.name t.name && r.rowid == rowid
      let n := (childRows.filter fun r => key.pointsAt t child vals rowid r && !own r).size
      if n > 0 then bumpKey fk n

/-- Whether a change touches the child columns of a key. -/
def childTouched (t : Table) (fk : ForeignKey) (changed : List Nat) (rowidChanged : Bool) : Bool :=
  fk.columns.any fun c =>
    match t.columnIndex? c with
    | some j => changed.contains j || (rowidChanged && t.rowidColumn == some j)
    | none => false

/-- Whether a change touches the parent columns of a key. -/
def parentTouched (t : Table) (fk : ForeignKey) (changed : List Nat) (rowidChanged : Bool) : Bool :=
  (List.range t.columns.size).any fun j =>
    (changed.contains j || (rowidChanged && t.rowidColumn == some j)) &&
      (let c := t.columns[j]?.getD default
       if fk.parentColumns.isEmpty then c.keyPosition > 0
       else fk.parentColumns.any (sameName · c.name))

/-- Counts the violations a row change causes or clears, for the keys of the table and the
keys pointing at it; for an update, only the keys whose columns change. -/
def checkKeys (schemaName : String) (t : Table) (lenient : Bool)
    (old new : Option (Array Value × Int)) (changed : Option (List Nat × Bool)) : Write Unit := do
  if !(← settings).foreignKeys then return
  for fk in t.foreignKeys.reverse do
    let relevant := match changed with
      | some (cols, r) => sameName t.name fk.parent || childTouched t fk cols r
      | none => true
    if relevant then childSide schemaName t fk lenient old new
  let s := (← get).schema schemaName
  for (child, fk) in s.referencing t.name do
    let relevant := match changed with
      | some (cols, r) => parentTouched t fk cols r
      | none => true
    if relevant then parentSide schemaName t child fk lenient old new

end Write

end Payout.Database
