import Payout.Database.Check
import Payout.Database.Function.Call

/-!
# Evaluating expressions and queries

Expressions are evaluated against *frames*, one for each query they stand in, innermost
first; a frame holds its scope's shape and the current row of each of its sources, and,
while an aggregate query computes a group, the rows of that group. Names are looked up as
when the statement was prepared.

Comparisons convert their operands first: when one side is a column with a numeric affinity
(or both are columns and one has one), text that spells a number becomes that number; when
one side has text affinity and the other none, numbers become text. They compare under the
collation written with `COLLATE` on either side, else the left column's, else the right's.

A simple select joins its sources left to right, keeps the rows its condition holds for,
and, for an aggregate query, makes groups (ordered by their keys; one group of all rows
when there is no `GROUP BY`), keeping those `HAVING` holds for. Its rows are then ordered
(stably), made distinct and cut by `LIMIT` and `OFFSET`. `UNION`, `INTERSECT` and `EXCEPT`
give their rows distinct and in order; `UNION ALL` appends.
-/

namespace Payout.Database

/-- The current row of each source of a scope: its values and its row identifier (none for a
source without one, or for the missing side of an outer join). -/
structure Joined where
  values : Array (Array Value)
  rowids : Array (Option Int)
deriving Inhabited

/-- A scope at run time: its shape, its current row, and the rows of the group being
computed. -/
structure RowScope where
  shape : ScopeShape
  row : Joined
  group : Option (List Joined)
deriving Inhabited

/-- The values of a special row (`NEW`, `OLD`, `excluded`). -/
structure SpecialValues where
  name : String
  values : Array Value
  rowid : Option Int
deriving Inhabited

/-- What evaluation reads: the schemas with their rows, what calls may read, whether a
trigger program is running, the special rows, and the rows of `WITH` queries being built. -/
structure Env where
  ctx : Context
  call : CallEnv
  trigger : Bool
  specials : List SpecialValues
  bound : List (String × List (Array Value))
deriving Inhabited

/-- The shapes of frames, as name lookup sees them. -/
def scopesOf (frames : List RowScope) : List ScopeShape := frames.map (·.shape)

/-- The affinity of an expression in the frames. -/
def Env.affinity (env : Env) (frames : List RowScope) (e : Expr) : Option Affinity :=
  match (exprAffinity exprFuel env.ctx (scopesOf frames) e).run' CheckState.start with
  | .ok a => a
  | .error _ => none

/-! ### Operators -/

/-- The affinity a comparison applies: numeric when either side has a numeric affinity and
both have one, else that of the side that has one (none for blob affinity). -/
def comparisonAffinity (a b : Option Affinity) : Option Affinity :=
  match a, b with
  | some x, some y => if x.isNumeric || y.isNumeric then some .numeric else none
  | some x, none => some x
  | none, some y => some y
  | none, none => none

/-- Applies a comparison's affinity to its operands. -/
def applyComparison (aff : Option Affinity) (a b : Value) : Value × Value :=
  match aff with
  | some .numeric | some .integer | some .real => (a.numericForComparison, b.numericForComparison)
  | some .text =>
    let textual := fun (v : Value) => match v with
      | .text _ => true
      | _ => false
    if textual a || textual b then
      let stringify := fun (v : Value) => match v with
        | .integer _ | .real _ => Value.text v.asText
        | other => other
      (stringify a, stringify b)
    else (a, b)
  | _ => (a, b)

/-- Compares two values after the affinity is applied; none when either is null. -/
def compareUnder (aff : Option Affinity) (coll : Collation) (a b : Value) : Option Ordering :=
  if a.isNull || b.isNull then none
  else
    let (a, b) := applyComparison aff a b
    some (Value.compareWith coll a b)

/-- A truth value as an integer. -/
def truthValue (b : Bool) : Value := .integer (if b then 1 else 0)

/-- The result of a comparison operator. -/
def comparisonResult (op : BinaryOp) (aff : Option Affinity) (coll : Collation) (a b : Value) :
    Value :=
  match op with
  | .is => if a.isNull && b.isNull then truthValue true
    else if a.isNull || b.isNull then truthValue false
    else truthValue (compareUnder aff coll a b == some .eq)
  | .isNot => if a.isNull && b.isNull then truthValue false
    else if a.isNull || b.isNull then truthValue true
    else truthValue (compareUnder aff coll a b != some .eq)
  | _ =>
    match compareUnder aff coll a b with
    | none => .null
    | some o =>
      truthValue (match op with
        | .lt => o == .lt
        | .le => o != .gt
        | .gt => o == .gt
        | .ge => o != .lt
        | .eq => o == .eq
        | _ => o != .eq)

/-- Whole-number arithmetic in 64 bits: none on overflow or for a zero divisor, which the
caller handles. -/
def wholeArith (op : BinaryOp) (a b : Int) : Option (Option Int) :=
  match op with
  | .add => let r := a + b; if fitsWord r then some (some r) else none
  | .sub => let r := a - b; if fitsWord r then some (some r) else none
  | .mul => let r := a * b; if fitsWord r then some (some r) else none
  | .div =>
    if b == 0 then some none
    else if b == -1 && a == minWord then none
    else some (some (Int.tdiv a b))
  | _ =>
    if b == 0 then some none
    else some (some (Int.tmod a (if b == -1 then 1 else b)))

/-- Arithmetic on values: null with a null operand; text and blobs read as numbers; whole
numbers stay whole unless they overflow; a zero divisor gives null. -/
def arithmetic (op : BinaryOp) (a b : Value) : Value :=
  if a.isNull || b.isNull then .null
  else
    let x := a.numeric
    let y := b.numeric
    let real := fun (_ : Unit) =>
      match op with
      | .rem =>
        let ia := x.asInteger
        let ib := y.asInteger
        if ib == 0 then Value.null
        else .real (wordToFloat (Int.tmod ia (if ib == -1 then 1 else ib)))
      | _ =>
        let ra := x.asReal
        let rb := y.asReal
        let r := match op with
          | .add => ra + rb
          | .sub => ra - rb
          | .mul => ra * rb
          | _ => ra / rb
        if op == .div && rb == 0.0 then .null
        else if r.isNaN then .null else .real r
    match x, y with
    | .integer i, .integer j =>
      match wholeArith op i j with
      | some (some r) => .integer r
      | some none => .null
      | none => real ()
    | _, _ => real ()

/-- Shifts a 64-bit word left (or right, for a negative count), as the shift operators do. -/
def shiftWord (left : Bool) (a n : Int) : Int :=
  let (left, n) := if n < 0 then (!left, if n > -64 then -n else 64) else (left, n)
  if n == 0 then a
  else if n ≥ 64 then (if a ≥ 0 || left then 0 else -1)
  else if left then
    let u := Int.emod (a * Int.pow 2 n.toNat) (Int.pow 2 64)
    if u ≥ Int.pow 2 63 then u - Int.pow 2 64 else u
  else Int.fdiv a (Int.pow 2 n.toNat)

/-- Two's complement words as naturals and back. -/
def wordBits (a : Int) : Nat := (if a < 0 then a + Int.pow 2 64 else a).toNat

/-- A natural below `2^64` as a signed word. -/
def bitsWord (n : Nat) : Int := if n ≥ Nat.pow 2 63 then (n : Int) - Int.pow 2 64 else n

/-- The bit operators. -/
def bitwise (op : BinaryOp) (a b : Value) : Value :=
  if a.isNull || b.isNull then .null
  else
    let x := a.asInteger
    let y := b.asInteger
    match op with
    | .bitAnd => .integer (bitsWord (wordBits x &&& wordBits y))
    | .bitOr => .integer (bitsWord (wordBits x ||| wordBits y))
    | .shl => .integer (shiftWord true x y)
    | _ => .integer (shiftWord false x y)

/-- `||`: the text of both sides joined; null with a null side. -/
def concatValues (a b : Value) : Value :=
  match a, b with
  | .null, _ | _, .null => .null
  | .blob _, _ | _, .blob _ => .text (textOfBytes (a.asBytes ++ b.asBytes))
  | _, _ => .text (a.asText ++ b.asText)

/-- The value of a number literal: whole numbers that fit are integers, others doubles;
hexadecimal is read as a 64-bit word. -/
def numberValue (text : String) (isFloat : Bool) (negate : Bool) : Except Fault Value :=
  let cs := text.toList
  if cs.take 2 == ['0', 'x'] || cs.take 2 == ['0', 'X'] then
    let digits := cs.drop 2
    let n := digits.foldl (fun acc c => acc * 16 + (hexValue c).getD 0) 0
    if digits.length > 16 || (negate && n == Nat.pow 2 63) then
      .error (.error ("hex literal too big: " ++ (if negate then "-" else "") ++ text))
    else
      let w := bitsWord n
      .ok (.integer (if negate then -w else w))
  else if isFloat then
    let x := (readReal text).1
    .ok (.real (if negate then -x else x))
  else
    let (i, verdict) := readInteger text
    if verdict == .fits then .ok (.integer (if negate then -i else i))
    else if verdict == .justOver && negate then .ok (.integer minWord)
    else
      let x := (readReal text).1
      .ok (.real (if negate then -x else x))

/-- `CAST(X AS NUMERIC)` of text or a blob: a whole number when the text is one that fits
(or a number equal to one below `2^51`), else a double. -/
def numerify (v : Value) : Value :=
  match v with
  | .text _ | .blob _ =>
    let s := v.asText
    let (x, shape) := readReal s
    let (i, verdict) := readInteger s
    if (shape == .none || shape == .whole) && (verdict == .fits || verdict == .extra) then
      .integer i
    else
      let ix := realToInteger x
      if x == 0.0 || (wordToFloat ix == x && -2251799813685248 ≤ ix && ix < 2251799813685248) then
        .integer ix
      else .real x
  | other => other

/-- `CAST(X AS type)`: the type's affinity decides: blob keeps the bytes, text the text,
integer and real read the number, numeric reads it as `numerify` does. Null stays null. -/
def castValue (type : String) (v : Value) : Value :=
  match v with
  | .null => .null
  | _ =>
    match Affinity.ofTypeName type with
    | .blob => .blob v.asBytes
    | .text => .text v.asText
    | .integer => .integer v.asInteger
    | .real => .real v.asReal
    | .numeric => numerify v

/-- Whether an expression hands back JSON that a JSON function reads as JSON. -/
def Expr.givesJson : Expr → Bool
  | .call name _ _ _ _ _ => returnsJson name.name
  | .binary (.extract false) _ _ => true
  | _ => false

/-- The truth of a condition's value: only a value that is not zero holds. -/
def holds (v : Value) : Bool := v.truth == some true

/-- An ordering term made ready: its direction, where nulls go, and its collation. -/
structure SortKey where
  desc : Bool
  nullsFirst : Option Bool
  collation : Collation
deriving Inhabited

/-- Compares two rows of sort values under their keys. -/
def compareKeys : List SortKey → List Value → List Value → Ordering
  | k :: ks, a :: as, b :: bs =>
    let o :=
      if a.isNull && b.isNull then Ordering.eq
      else if a.isNull || b.isNull then
        let nullsFirst := k.nullsFirst.getD (!k.desc)
        if a.isNull then (if nullsFirst then .lt else .gt) else (if nullsFirst then .gt else .lt)
      else
        let o := Value.compareWith k.collation a b
        if k.desc then o.swap else o
    if o == .eq then compareKeys ks as bs else o
  | _, _, _ => .eq

/-- Whether two rows are the same for `DISTINCT` and the compound operators: nulls are the
same as nulls. -/
def sameRow (colls : List Collation) (a b : Array Value) : Bool :=
  (List.range a.size).all fun i =>
    let x := a[i]!
    let y := b[i]!
    (x.isNull && y.isNull) ||
      (!x.isNull && !y.isNull && Value.compareWith (colls.getD i .binary) x y == .eq)

/-- Rows without repeats, the first of each kept. -/
def distinctRows {α : Type} (colls : List Collation) (key : α → Array Value) (rows : List α) :
    List α :=
  rows.foldl (fun acc r => if acc.any (fun s => sameRow colls (key s) (key r)) then acc
    else acc ++ [r]) []

/-- Rows in ascending order of all their values. -/
def sortRows (colls : List Collation) (rows : List (Array Value)) : List (Array Value) :=
  let keys := fun (r : Array Value) => r.toList
  let sk := fun (i : Nat) => (⟨false, none, colls.getD i .binary⟩ : SortKey)
  rows.mergeSort fun a b =>
    compareKeys ((List.range a.size).map sk) (keys a) (keys b) != .gt

/-- Cuts rows by a limit (negative for none) and an offset. -/
def limitRows {α : Type} (limit : Option Int) (offset : Int) (rows : List α) : List α :=
  let rows := rows.drop (if offset > 0 then offset.toNat else 0)
  match limit with
  | some l => if l < 0 then rows else rows.take l.toNat
  | none => rows

/-- The value a `LIMIT` or `OFFSET` must be: a whole number, or text or a double that is
one. -/
def limitValue (v : Value) : Except Fault Int :=
  match v.numericType with
  | .integer i => .ok i
  | .real x =>
    match realAsInteger? x with
    | some i => .ok i
    | none => .error (.error "datatype mismatch")
  | _ => .error (.error "datatype mismatch")

/-! ### Pieces of evaluation that do not recurse -/

/-- A null row for a source of a shape. -/
def nullRow (s : SourceShape) : Array Value := s.columns.map fun _ => Value.null

/-- The rows of the schema table: one per entry, except the primary keys of tables without
row identifiers, which are their tables. -/
def masterRows (s : Schema) : List (Array Value × Option Int) :=
  let listed := s.entries.toList.filter fun e =>
    match e.object, s.table? e.tableName with
    | .index ix, some t => !ix.isTableItself t
    | _, _ => true
  (listed.zip (List.range listed.length)).map fun (e, i) =>
    (#[.text e.kind.word, .text e.name, .text e.tableName, .integer e.rootpage,
       match e.sql with
       | some t => .text t
       | none => .null], some (i + 1))

/-- A function's failure as a fault. -/
def liftCall (r : Except String Value) : Except Fault Value :=
  match r with
  | .ok v => .ok v
  | .error m => .error (.error m)

/-- The collation of a comparison of two expressions: a `COLLATE` written in the left one,
then in the right one, then the left one's column collation, then the right one's. -/
def binaryCollation (scopes : List ScopeShape) (a b : Expr) : Collation :=
  match exprCollation scopes a, exprCollation scopes b with
  | some (c, true), _ => c
  | _, some (c, true) => c
  | some (c, _), _ => c
  | _, some (c, _) => c
  | _, _ => .binary

/-- The collation an expression carries, binary when it carries none. -/
def collationOf (scopes : List ScopeShape) (e : Expr) : Collation :=
  ((exprCollation scopes e).map Prod.fst).getD .binary

/-- Whether a value is among others (`IN`): null when it is not found and a null is among
them or it is null itself. -/
def membership (negated : Bool) (aff : Option Affinity) (coll : Collation) (x : Value)
    (vs : List Value) : Value :=
  let found := !x.isNull && vs.any fun v => compareUnder aff coll x v == some .eq
  let r := if found then truthValue true
    else if x.isNull || vs.any Value.isNull then .null else truthValue false
  if negated then (match r.truth with
    | some b => truthValue !b
    | none => .null) else r

/-- The negation of a truth value; null stays null. -/
def negateTruth (v : Value) : Value :=
  match v.truth with
  | some b => truthValue !b
  | none => .null

/-- The arms of a `CASE`: the value after the first arm that matches, else the `ELSE`
value. -/
def caseArms (eval : Expr → Except Fault Value) (hit : Expr → Value → Bool) :
    List (Expr × Expr) → Option Expr → Except Fault Value
  | [], other =>
    match other with
    | some o => eval o
    | none => .ok .null
  | (w, t) :: rest, other => do
    let wv ← eval w
    if hit w wv then eval t else caseArms eval hit rest other

/-- `coalesce` and `ifnull`: the first argument that is not null, evaluating no further. -/
def firstNotNull (eval : Expr → Except Fault Value) : List Expr → Except Fault Value
  | [] => .ok .null
  | a :: rest => do
    let v ← eval a
    if v.isNull then firstNotNull eval rest else pure v

/-- `iif(C1, V1, C2, V2, …, ELSE)`: the value after the first condition that holds. -/
def iifValue (eval : Expr → Except Fault Value) : List Expr → Except Fault Value
  | [] => .ok .null
  | [otherwise] => eval otherwise
  | c :: v :: rest => do
    let cv ← eval c
    if holds cv then eval v else iifValue eval rest

/-- The row a group shows for its bare columns: its last row, or nulls for an empty group. -/
def representative (sources : Array SourceShape) (g : List Joined) : Joined :=
  match g.getLast? with
  | some r => r
  | none => ⟨sources.map nullRow, sources.map fun _ => none⟩

/-- The row a group shows for its bare columns when its only aggregate is `min` or `max`:
the first row with the least (or greatest) value that is not null; before any such value,
the latest row. -/
def extremeRow (isMax : Bool) (coll : Collation) (rows : List (Joined × Value)) : Option Joined :=
  (rows.foldl (fun (acc : Option Value × Option Joined) (r, v) =>
    match acc.1 with
    | none => if v.isNull then (none, some r) else (some v, some r)
    | some best =>
      if v.isNull then acc
      else
        let o := Value.compareWith coll best v
        if (isMax && o == .lt) || (!isMax && o == .gt) then (some v, some r) else acc)
    (none, none)).2

/-- Orders rows by their sort values, stably. -/
def sortKeyed (keys : List SortKey) (rows : List (Array Value × List Value)) :
    List (Array Value × List Value) :=
  if keys.isEmpty then rows else rows.mergeSort fun a b => compareKeys keys a.2 b.2 != .gt

/-- The result item an ordering term names by alias or by number. -/
def namedItem (items : List ResultItem) : Expr → Option Nat
  | .number text false => text.toNat?.bind fun k => if k ≥ 1 && k ≤ items.length then some (k - 1) else none
  | .column none none n => items.findIdx? fun it => (it.asName.map (sameName · n.name)).getD false
  | .collate inner _ =>
    match inner with
    | .number text false =>
      text.toNat?.bind fun k => if k ≥ 1 && k ≤ items.length then some (k - 1) else none
    | .column none none n => items.findIdx? fun it => (it.asName.map (sameName · n.name)).getD false
    | _ => none
  | _ => none

/-- The collation an ordering term sorts with: a `COLLATE` written on it, else that of the
result column it names, else its own. -/
def orderCollation (scopes : List ScopeShape) (items : List ResultItem) (e : Expr) : Collation :=
  match exprCollation scopes e with
  | some (c, true) => c
  | other =>
    match namedItem items e >>= (items[·]?) with
    | some it => collationOf scopes it.expr
    | none => ((other.map Prod.fst).getD .binary)

/-- The column a term of a compound's ordering names, with its sort key. -/
def compoundKey (cols : Array ColumnShape) (t : OrderTerm) : Except Fault (Nat × SortKey) :=
  let (e, coll) : Expr × Option Collation := match t.expr with
    | .collate inner c => (inner, some ((Collation.ofName? c).getD .binary))
    | other => (other, none)
  let idx : Option Nat := match e with
    | .number text false => text.toNat?.map (· - 1)
    | .column none none n => cols.findIdx? fun (c : ColumnShape) => sameName c.name n.name
    | _ => none
  match idx with
  | some i =>
    let own := (cols[i]?.map ColumnShape.collation).getD .binary
    .ok (i, ⟨t.desc, t.nullsFirst, coll.getD own⟩)
  | none => .error (.error "ORDER BY term does not match any column in the result set")

/-- Whether a `FROM` term reads a name with no schema written. -/
def FromItem.readsName (name : String) : FromItem → Bool
  | .table none n _ => sameName n.name name
  | _ => false

/-- Whether a simple select reads a name in its `FROM` clause. -/
def SelectCore.readsName (name : String) : SelectCore → Bool
  | .select _ _ (some (.mk first joins)) _ _ _ _ =>
    first.readsName name || joins.any fun j =>
      match j with
      | .mk _ item _ _ => item.readsName name
  | _ => false

/-- Runs the queue of a recursive query: takes the first row, keeps it (unless `UNION`
already has it), and queues what the recursive term makes of it; stops once the limit is
reached. -/
def recurseRows (step : Array Value → Except Fault (List (Array Value))) (distinct : Bool)
    (limit : Option Int) (offset : Int) :
    Nat → List (Array Value) → List (Array Value) → Except Fault (List (Array Value))
  | 0, _, done => .ok done
  | _, [], done => .ok done
  | fuel + 1, r :: rest, done =>
    if distinct && done.any (sameRow [] r) then recurseRows step distinct limit offset fuel rest done
    else
      let done := done ++ [r]
      let full := match limit with
        | some l => l ≥ 0 && (done.length : Int) ≥ l + (if offset > 0 then offset else 0)
        | none => false
      if full then .ok done
      else do
        let more ← step r
        recurseRows step distinct limit offset fuel (rest ++ more) done

/-- The most rows a recursive query makes. -/
def recursionFuel : Nat := 1000000

/-- The values of a nested join's row as its columns show them: a column joined on by name
appears once. -/
def nestedValues (shapes : Array SourceShape) (r : Joined) : Array Value :=
  ((shapes.toList.zip r.values.toList).flatMap fun (s, vs) =>
    (s.columns.toList.zip vs.toList).filterMap fun (c, v) =>
      if !(s.joinedOn.any (sameName · c.name)) || s.rightJoined then some v else none).toArray

/-- Pads a partial joined row with null rows for the sources not yet joined. -/
def padRow (shapes : Array SourceShape) (vals : Array (Array Value)) (ids : Array (Option Int)) :
    Joined :=
  ⟨vals ++ ((shapes.toList.drop vals.size).map nullRow).toArray,
    ids ++ (List.replicate (shapes.size - ids.size) none).toArray⟩

/-- The single `min` or `max` call among a query's expressions, when it has exactly one
aggregate call and that is one. -/
def loneExtreme (exprs : List Expr) : Option (Bool × Expr) :=
  let calls := exprs.flatMap fun e => aggregateCalls exprFuel e
  match calls with
  | [.call name _ _ [arg] _ _] =>
    let l := lowerAscii name.name
    if l == "min" then some (false, arg) else if l == "max" then some (true, arg) else none
  | _ => none
where
  /-- The aggregate calls of an expression, outside its subqueries. -/
  aggregateCalls : Nat → Expr → List Expr
    | 0, _ => []
    | fuel + 1, e =>
      if e.isAggregateCall then [e] else e.children.flatMap (aggregateCalls fuel)

/-! ### The evaluator -/

mutual

/-- Evaluates an expression. -/
def evalExpr (fuel : Nat) (env : Env) (frames : List RowScope) (e : Expr) : Except Fault Value :=
  match fuel with
  | 0 => .error (.error "Expression tree is too large (maximum depth 1000)")
  | fuel + 1 =>
    let scopes := scopesOf frames
    match e with
    | .lit v => .ok v
    | .number text isFloat => numberValue text isFloat false
    | .variable _ => .ok .null
    | .now k =>
      .ok (match k with
        | .date => dateOf []
        | .time => timeOf []
        | .timestamp => datetimeOf [])
    | .column s t n =>
      match lookupName scopes (s.map (·.name)) (t.map (·.name)) n.name n.doubleQuoted with
      | .error m => .error (.error m)
      | .ok (.column d i j) =>
        .ok ((frames[d]? >>= fun f => f.row.values[i]? >>= (·[j]?)).getD .null)
      | .ok (.rowid d i) =>
        .ok (match frames[d]? >>= fun f => f.row.rowids[i]? with
          | some (some r) => .integer r
          | _ => .null)
      | .ok (.special nm col) =>
        match env.specials.find? (sameName ·.name nm) with
        | some sv =>
          match col with
          | some j => .ok (sv.values[j]?.getD .null)
          | none => .ok (match sv.rowid with
            | some r => .integer r
            | none => .null)
        | none => .ok .null
      | .ok (.aliased d a) => evalExpr fuel env (frames.drop d) a
      | .ok (.literal str) => .ok (.text str)
      | .ok (.truth b) => .ok (truthValue b)
    | .unary op a =>
      match op, a with
      | .neg, .number text isFloat => numberValue text isFloat true
      | _, _ => do
        let v ← evalExpr fuel env frames a
        match op with
        | .neg => pure (arithmetic .sub (.integer 0) v)
        | .pos => pure v
        | .bitNot => pure (if v.isNull then .null else .integer (-v.asInteger - 1))
        | .not => pure (negateTruth v)
    | .binary op a b =>
      match op with
      | .and => do
        let x ← evalExpr fuel env frames a
        if x.truth == some false then pure (truthValue false)
        else
          let y ← evalExpr fuel env frames b
          if y.truth == some false then pure (truthValue false)
          else if x.isNull || y.isNull then pure .null
          else pure (truthValue true)
      | .or => do
        let x ← evalExpr fuel env frames a
        if x.truth == some true then pure (truthValue true)
        else
          let y ← evalExpr fuel env frames b
          if y.truth == some true then pure (truthValue true)
          else if x.isNull || y.isNull then pure .null
          else pure (truthValue false)
      | _ => do
        let x ← evalExpr fuel env frames a
        let y ← evalExpr fuel env frames b
        if op.compares then
          let aff := comparisonAffinity (env.affinity frames a) (env.affinity frames b)
          pure (comparisonResult op aff (binaryCollation scopes a b) x y)
        else
          match op with
          | .concat => pure (concatValues x y)
          | .add | .sub | .mul | .div | .rem => pure (arithmetic op x y)
          | .bitAnd | .bitOr | .shl | .shr => pure (bitwise op x y)
          | .extract asSql => liftCall (if asSql then jsonArrow2Of x y else jsonArrowOf x y)
          | _ => pure .null
    | .collate a _ => evalExpr fuel env frames a
    | .cast a ty => do
      let v ← evalExpr fuel env frames a
      pure (castValue ty v)
    | .like op negated a p esc => do
      let x ← evalExpr fuel env frames a
      let pv ← evalExpr fuel env frames p
      let ev ← match esc with
        | some ex => some <$> evalExpr fuel env frames ex
        | none => pure none
      let r ← match op with
        | .glob => liftCall (globOf pv x)
        | .like => liftCall (likeOf env.call.caseSensitiveLike pv x ev)
        | .regexp => throw (.error "no such function: REGEXP")
        | .matchOp => throw (.error "unable to use function MATCH in the requested context")
      pure (if negated then negateTruth r else r)
    | .isNull a negated => do
      let v ← evalExpr fuel env frames a
      pure (truthValue (v.isNull != negated))
    | .between a lo hi negated => do
      let x ← evalExpr fuel env frames a
      let l ← evalExpr fuel env frames lo
      let h ← evalExpr fuel env frames hi
      let geLo := comparisonResult .ge
        (comparisonAffinity (env.affinity frames a) (env.affinity frames lo))
        (binaryCollation scopes a lo) x l
      let leHi := comparisonResult .le
        (comparisonAffinity (env.affinity frames a) (env.affinity frames hi))
        (binaryCollation scopes a hi) x h
      let both := if geLo.truth == some false || leHi.truth == some false then truthValue false
        else if geLo.isNull || leHi.isNull then .null else truthValue true
      pure (if negated then negateTruth both else both)
    | .inList a items negated => do
      if items.isEmpty then pure (truthValue negated)
      else
        let x ← evalExpr fuel env frames a
        let vs ← items.mapM (evalExpr fuel env frames ·)
        pure (membership negated (env.affinity frames a) (collationOf scopes a) x vs)
    | .inSelect a q negated => do
      let x ← evalExpr fuel env frames a
      let (cols, rows) ← evalSelect fuel env frames q
      if rows.isEmpty then pure (truthValue negated)
      else
        let colAff := cols[0]?.bind fun c => if c.plain then none else some c.affinity
        let aff := comparisonAffinity (env.affinity frames a) colAff
        let coll := match exprCollation scopes a with
          | some (c, _) => c
          | none => (cols[0]?.map (·.collation)).getD .binary
        pure (membership negated aff coll x (rows.map fun r => r[0]?.getD .null))
    | .inTable a schema t negated => do
      let x ← evalExpr fuel env frames a
      let q : Select := .mk [] false (.core (.select false [.star]
        (some (.mk (.table schema t none) [])) none [] none [])) [] none none
      let (cols, rows) ← evalSelect fuel env frames q
      if rows.isEmpty then pure (truthValue negated)
      else
        let colAff := cols[0]?.map (·.affinity)
        pure (membership negated (comparisonAffinity (env.affinity frames a) colAff)
          (collationOf scopes a) x (rows.map fun r => r[0]?.getD .null))
    | .exists q => do
      let (_, rows) ← evalSelect fuel env frames q
      pure (truthValue !rows.isEmpty)
    | .subquery q => do
      let (_, rows) ← evalSelect fuel env frames q
      match rows.head? with
      | some r => pure (r[0]?.getD .null)
      | none => pure .null
    | .case operand arms other =>
      match operand with
      | some oe => do
        let ov ← evalExpr fuel env frames oe
        caseArms (evalExpr fuel env frames) (fun w wv =>
          let aff := comparisonAffinity (env.affinity frames oe) (env.affinity frames w)
          compareUnder aff (binaryCollation scopes oe w) ov wv == some .eq) arms other
      | none => caseArms (evalExpr fuel env frames) (fun _ wv => holds wv) arms other
    | .raise kind msg => do
      let m ← match msg with
        | some me => do
          let v ← evalExpr fuel env frames me
          pure v.asText
        | none => pure ""
      match kind with
      | .ignore => throw .ignore
      | .rollback => throw (.fail m .transaction)
      | .fail => throw (.fail m .keep)
      | .abort => throw (.fail m .statement)
    | .call name distinct star args filter _ =>
      let lname := lowerAscii name.name
      if e.isAggregateCall then aggregateValue fuel env frames lname distinct star args filter
      else if lname == "coalesce" || lname == "ifnull" then firstNotNull (evalExpr fuel env frames) args
      else if lname == "iif" || lname == "if" then iifValue (evalExpr fuel env frames) args
      else do
        let vals ← args.mapM fun a => do
          let v ← evalExpr fuel env frames a
          pure (JsonArg.mk v a.givesJson)
        liftCall (callScalar env.call name.name vals)
    | .vector _ => throw (.error "row value misused")

/-- An aggregate over the rows of the innermost frame's group. -/
def aggregateValue (fuel : Nat) (env : Env) (frames : List RowScope) (name : String)
    (distinct star : Bool) (args : List Expr) (filter : Option Expr) : Except Fault Value :=
  match fuel with
  | 0 => .error (.error "Expression tree is too large (maximum depth 1000)")
  | fuel + 1 =>
    match frames with
    | [] => .error (.error ("misuse of aggregate: " ++ name ++ "()"))
    | f :: outer => do
      let rows := f.group.getD [f.row]
      let rowFrames := fun (r : Joined) => { f with row := r, group := none } :: outer
      let kept ← rows.filterM fun r =>
        match filter with
        | some fe => holds <$> evalExpr fuel env (rowFrames r) fe
        | none => pure true
      let argRows ← kept.mapM fun r =>
        if star then pure [] else args.mapM (evalExpr fuel env (rowFrames r) ·)
      let coll := match args.head? with
        | some a => collationOf (scopesOf frames) a
        | none => .binary
      let argRows :=
        if distinct then
          distinctRows [coll] (fun (r : List Value) => r.toArray)
            (argRows.filter fun r => !(r.headD .null).isNull)
        else argRows
      liftCall (aggregateOf name coll argRows)

/-- Evaluates a query: the columns of its result and its rows. -/
def evalSelect (fuel : Nat) (env : Env) (frames : List RowScope) (q : Select) :
    Except Fault (Array ColumnShape × List (Array Value)) :=
  match fuel with
  | 0 => .error (.error "Expression tree is too large (maximum depth 1000)")
  | fuel + 1 =>
    match q with
    | .mk ctes recursive body order limit offset => do
      let ctx ← match (withCtes fuel env.ctx (scopesOf frames) env.trigger recursive ctes).run'
          CheckState.start with
        | .ok c => pure c
        | .error m => throw (.error m)
      let names := ctes.map fun (.mk n _ _) => n.name
      let env := { env with ctx := ctx,
                            bound := env.bound.filter fun (b, _) => !names.any (sameName · b) }
      let lim ← match limit with
        | some le => some <$> (evalExpr fuel env [] le >>= limitValue)
        | none => pure none
      let off ← match offset with
        | some oe => evalExpr fuel env [] oe >>= limitValue
        | none => pure 0
      match body with
      | .core c =>
        let (cols, rows) ← evalCore fuel env frames c order
        pure (cols, limitRows lim off (rows.map Prod.fst))
      | _ =>
        let (cols, rows) ← evalBody fuel env frames body
        let keys ← order.mapM fun t => compoundKey cols t
        let sorted :=
          if keys.isEmpty then rows
          else rows.mergeSort fun a b =>
            compareKeys (keys.map Prod.snd) (keys.map fun (i, _) => a[i]?.getD .null)
              (keys.map fun (i, _) => b[i]?.getD .null) != .gt
        pure (cols, limitRows lim off sorted)

/-- Evaluates the terms of a compound, left to right. -/
def evalBody (fuel : Nat) (env : Env) (frames : List RowScope) (body : SelectBody) :
    Except Fault (Array ColumnShape × List (Array Value)) :=
  match fuel with
  | 0 => .error (.error "Expression tree is too large (maximum depth 1000)")
  | fuel + 1 =>
    match body with
    | .core c => do
      let (cols, rows) ← evalCore fuel env frames c []
      pure (cols, rows.map Prod.fst)
    | .compound op left right => do
      let (cols, l) ← evalBody fuel env frames left
      let (_, r) ← evalCore fuel env frames right []
      let r := r.map Prod.fst
      let colls := cols.toList.map (·.collation)
      let rows := match op with
        | .unionAll => l ++ r
        | .union => sortRows colls (distinctRows colls id (l ++ r))
        | .intersect =>
          sortRows colls (distinctRows colls id (l.filter fun x => r.any (sameRow colls x)))
        | .except =>
          sortRows colls (distinctRows colls id (l.filter fun x => !r.any (sameRow colls x)))
      pure (cols, rows)

/-- Evaluates a simple select with the terms of its own ordering; gives each row with its
sort values, ordered. -/
def evalCore (fuel : Nat) (env : Env) (frames : List RowScope) (core : SelectCore)
    (order : List OrderTerm) :
    Except Fault (Array ColumnShape × List (Array Value × List Value)) :=
  match fuel with
  | 0 => .error (.error "Expression tree is too large (maximum depth 1000)")
  | fuel + 1 =>
    match core with
    | .values rows => do
      -- a row of values is a select without sources, which still sees the special rows
      let bare : RowScope := ⟨⟨#[], [], env.ctx.specials⟩, ⟨#[], #[]⟩, none⟩
      let vals ← rows.mapM fun row => do
        let vs ← row.mapM (evalExpr fuel env (bare :: frames) ·)
        pure vs.toArray
      let width := (rows.head?.map List.length).getD 0
      let cols := ((List.range width).map fun i =>
        (⟨"column" ++ toString (i + 1), .blob, .binary, "", true⟩ : ColumnShape)).toArray
      let keys ← order.mapM fun t => compoundKey cols t
      let keyed := vals.map fun v => (v, keys.map fun (i, _) => v[i]?.getD .null)
      pure (cols, sortKeyed (keys.map Prod.snd) keyed)
    | .select distinct cols source cond groupBy having _ => do
      let outer := scopesOf frames
      let (sources, joinRows) ← match source with
        | some f => fromRows fuel env frames f
        | none => pure (#[], [⟨#[], #[]⟩])
      let items ← match expandResult sources source.isSome cols with
        | .ok xs => pure xs
        | .error m => throw (.error m)
      let here : ScopeShape := ⟨sources, [], env.ctx.specials⟩
      let colShapes ← match (itemColumns fuel env.ctx (here :: outer) items).run' CheckState.start with
        | .ok cs => pure cs
        | .error m => throw (.error m)
      let aliases := items.filterMap fun it => it.asName.map (·, it.expr)
      let withAliases : ScopeShape := { here with aliases := aliases }
      let frameOf := fun (r : Joined) (g : Option (List Joined)) =>
        ({ shape := withAliases, row := r, group := g } : RowScope) :: frames
      let kept ← joinRows.filterM fun r =>
        match cond with
        | some c => holds <$> evalExpr fuel env (frameOf r none) c
        | none => pure true
      let aggregate := !groupBy.isEmpty || items.any (·.expr.hasAggregate)
      let scopes := withAliases :: outer
      let sortKeys := order.map fun t =>
        (⟨t.desc, t.nullsFirst, orderCollation scopes items t.expr⟩ : SortKey)
      let resultRows ←
        if !aggregate then
          kept.mapM fun r => do
            let vals ← items.mapM fun it => evalExpr fuel env (frameOf r none) it.expr
            let vals := vals.toArray
            let ks ← order.mapM fun t =>
              match namedItem items t.expr with
              | some i => pure (vals[i]?.getD .null)
              | none => evalExpr fuel env (frameOf r none) t.expr
            pure (vals, ks)
        else do
          let groups ← makeGroups fuel env frameOf groupBy kept
          let groups := if groupBy.isEmpty && groups.isEmpty then [[]] else groups
          let lone := loneExtreme (items.map (·.expr) ++ having.toList ++ order.map (·.expr))
          groups.filterMapM fun g => do
            let rep ← match lone with
              | some (isMax, arg) => do
                let pairs ← g.mapM fun r => do
                  let v ← evalExpr fuel env (frameOf r none) arg
                  pure (r, v)
                pure ((extremeRow isMax (collationOf scopes arg) pairs).getD
                  (representative sources g))
              | none => pure (representative sources g)
            let fr := frameOf rep (some g)
            let ok ← match having with
              | some h => holds <$> evalExpr fuel env fr h
              | none => pure true
            if !ok then pure none
            else
              let vals ← items.mapM fun it => evalExpr fuel env fr it.expr
              let vals := vals.toArray
              let ks ← order.mapM fun t =>
                match namedItem items t.expr with
                | some i => pure (vals[i]?.getD .null)
                | none => evalExpr fuel env fr t.expr
              pure (some (vals, ks))
      let colls := colShapes.toList.map (·.collation)
      let rows := if distinct then distinctRows colls Prod.fst resultRows else resultRows
      pure (colShapes, sortKeyed sortKeys rows)

/-- Splits rows into groups by the values of the grouping terms, the groups in order of
those values. -/
def makeGroups (fuel : Nat) (env : Env) (frameOf : Joined → Option (List Joined) → List RowScope)
    (groupBy : List Expr) (rows : List Joined) : Except Fault (List (List Joined)) :=
  match fuel with
  | 0 => .error (.error "Expression tree is too large (maximum depth 1000)")
  | fuel + 1 => do
    if groupBy.isEmpty then pure (if rows.isEmpty then [] else [rows])
    else
      let keyed ← rows.mapM fun r => do
        let ks ← groupBy.mapM (evalExpr fuel env (frameOf r none) ·)
        pure (ks, r)
      let scopes := scopesOf (frameOf ⟨#[], #[]⟩ none)
      let colls := groupBy.map (collationOf scopes ·)
      let groups := keyed.foldl (fun (acc : List (List Value × List Joined)) (k, r) =>
        match acc.findIdx? (fun (k', _) => sameRow colls k.toArray k'.toArray) with
        | some i => acc.modify i fun (k', rs) => (k', rs ++ [r])
        | none => acc ++ [(k, [r])]) []
      let sk := colls.map fun c => (⟨false, none, c⟩ : SortKey)
      pure ((groups.mergeSort fun a b => compareKeys sk a.1 b.1 != .gt).map Prod.snd)

/-- The rows of a `FROM` clause, joined left to right. -/
def fromRows (fuel : Nat) (env : Env) (frames : List RowScope) (f : FromClause) :
    Except Fault (Array SourceShape × List Joined) :=
  match fuel with
  | 0 => .error (.error "Expression tree is too large (maximum depth 1000)")
  | fuel + 1 =>
    match f with
    | .mk first joins => do
      let (s0, r0) ← itemRows fuel env frames first
      let terms ← joins.mapM fun j =>
        match j with
        | .mk kind item on usingCols => do
          let (s, r) ← itemRows fuel env frames item
          pure (kind, s, r, on, usingCols)
      let shapes ← terms.foldlM (fun (acc : Array SourceShape) (kind, s, _, on, usingCols) =>
        match joinShapes acc kind s on.isSome usingCols with
        | .ok s' => pure (acc.push s')
        | .error m => throw (.error m)) #[s0]
      let start := r0.map fun (v, id) => (#[v], #[id])
      let indexed := terms.zip (List.range terms.length)
      let joined ← indexed.foldlM (fun acc ((kind, _, rightRows, on, _), k) =>
        joinStep fuel env frames shapes (k + 1) kind rightRows on acc) start
      pure (shapes, joined.map fun (v, id) => padRow shapes v id)

/-- Joins the rows so far with the rows of the next source: each pair that meets the join's
condition, a left row with nulls when nothing matches it in a left join, and in a right
join each right row that matched nothing, with nulls on the left. -/
def joinStep (fuel : Nat) (env : Env) (frames : List RowScope) (shapes : Array SourceShape)
    (k : Nat) (kind : JoinKind) (rightRows : List (Array Value × Option Int)) (on : Option Expr)
    (acc : List (Array (Array Value) × Array (Option Int))) :
    Except Fault (List (Array (Array Value) × Array (Option Int))) :=
  match fuel with
  | 0 => .error (.error "Expression tree is too large (maximum depth 1000)")
  | fuel + 1 => do
    let right := shapes[k]?.getD default
    let numbered := rightRows.zip (List.range rightRows.length)
    let scope : ScopeShape := ⟨shapes, [], env.ctx.specials⟩
    let perLeft ← acc.mapM fun (lv, lid) => do
      let ms ← numbered.filterM fun ((rv, rid), _) =>
        joinHolds fuel env (⟨scope, padRow shapes (lv.push rv) (lid.push rid), none⟩ :: frames)
          shapes k right on
      pure ((lv, lid), ms)
    let inner := perLeft.flatMap fun ((lv, lid), ms) =>
      if ms.isEmpty && kind.left then [(lv.push (nullRow right), lid.push none)]
      else ms.map fun ((rv, rid), _) => (lv.push rv, lid.push rid)
    let matched := perLeft.flatMap fun (_, ms) => ms.map (·.2)
    let unmatched :=
      if kind.right then
        numbered.filterMap fun ((rv, rid), i) =>
          if matched.contains i then none
          else some (((shapes.toList.take k).map nullRow).toArray.push rv,
            (List.replicate k none).toArray.push rid)
      else []
    pure (inner ++ unmatched)

/-- Whether a joined row meets its join's condition: equal values in the columns it joins
on by name, and its `ON` condition. -/
def joinHolds (fuel : Nat) (env : Env) (frames : List RowScope) (shapes : Array SourceShape)
    (k : Nat) (right : SourceShape) (on : Option Expr) : Except Fault Bool :=
  match fuel with
  | 0 => .error (.error "Expression tree is too large (maximum depth 1000)")
  | fuel + 1 =>
    let row := (frames.head?.map (·.row)).getD default
    let byName := right.joinedOn.all fun col =>
      let leftIdx := (List.range k).find? fun i =>
        ((shapes[i]?.map (·.columns)).getD #[]).any (sameName ·.name col)
      match leftIdx with
      | some i =>
        let lcols := (shapes[i]?.map (·.columns)).getD #[]
        let li := (lcols.findIdx? (sameName ·.name col)).getD 0
        let ri := (right.columns.findIdx? (sameName ·.name col)).getD 0
        let lv := (row.values[i]? >>= (·[li]?)).getD .null
        let rv := (row.values[k]? >>= (·[ri]?)).getD .null
        let lc := lcols[li]?.getD default
        let rc := right.columns[ri]?.getD default
        let aff := comparisonAffinity (if lc.plain then none else some lc.affinity)
          (if rc.plain then none else some rc.affinity)
        compareUnder aff lc.collation lv rv == some .eq
      | none => false
    if !byName then pure false
    else
      match on with
      | some c => holds <$> evalExpr fuel env frames c
      | none => pure true

/-- The shape and rows of a term of a `FROM` clause. -/
def itemRows (fuel : Nat) (env : Env) (frames : List RowScope) (item : FromItem) :
    Except Fault (SourceShape × List (Array Value × Option Int)) :=
  match fuel with
  | 0 => .error (.error "Expression tree is too large (maximum depth 1000)")
  | fuel + 1 => do
    let shape ← match (itemShape fuel env.ctx (scopesOf frames) env.trigger item).run'
        CheckState.start with
      | .ok s => pure s
      | .error m => throw (.error m)
    match item with
    | .table schema name _ =>
      match env.ctx.relation schema name.name with
      | .error m => throw (.error m)
      | .ok (.table s t) =>
        let rows := (env.ctx.schemaOf s).rowsOf t.name
        pure (shape, rows.toList.map fun r =>
          (r.values, if t.withoutRowid then none else some r.rowid))
      | .ok (.master temp) =>
        pure (shape, masterRows (if temp then env.ctx.temp else env.ctx.main))
      | .ok (.view s v) => do
        let venv := { env with ctx := env.ctx.within s, bound := [] }
        let (_, rows) ← evalSelect fuel venv [] v.query
        pure (shape, rows.map (·, none))
      | .ok (.named nq) =>
        match env.bound.find? (fun (b, _) => sameName b nq.name) with
        | some (_, rows) => pure (shape, rows.map (·, none))
        | none => do
          let rows ← namedRows fuel env frames nq
          pure (shape, rows.map (·, none))
    | .subquery q _ => do
      let (_, rows) ← evalSelect fuel env frames q
      pure (shape, rows.map (·, none))
    | .function name _ _ => throw (.error ("no such table: " ++ name.name))
    | .nested f _ => do
      let (shapes, rows) ← fromRows fuel env frames f
      pure (shape, rows.map fun r => (nestedValues shapes r, none))

/-- The rows of a query named by `WITH`: a recursive one starts from the rows of its first
terms and feeds each row, one at a time, to its last term. -/
def namedRows (fuel : Nat) (env : Env) (frames : List RowScope) (nq : NamedQuery) :
    Except Fault (List (Array Value)) :=
  match fuel with
  | 0 => .error (.error "Expression tree is too large (maximum depth 1000)")
  | fuel + 1 =>
    match nq.query with
    | .mk ctes rec (.compound op left right) _ limit offset =>
      if nq.recursive && right.readsName nq.name && (op == .union || op == .unionAll) then do
        let others := { env with ctx := { env.ctx with
          ctes := env.ctx.ctes.filter (!sameName ·.name nq.name) } }
        let (_, initial) ← evalSelect fuel others frames (.mk ctes rec left [] none none)
        let lim ← match limit with
          | some le => some <$> (evalExpr fuel env [] le >>= limitValue)
          | none => pure none
        let off ← match offset with
          | some oe => evalExpr fuel env [] oe >>= limitValue
          | none => pure 0
        let step := fun (row : Array Value) => do
          let benv := { env with bound := (nq.name, [row]) :: env.bound }
          let (_, more) ← evalSelect fuel benv frames (.mk ctes rec (.core right) [] none none)
          pure more
        let rows ← recurseRows step (op == .union) lim off recursionFuel initial []
        pure (limitRows lim off rows)
      else do
        let (_, rows) ← evalSelect fuel env frames nq.query
        pure rows
    | _ => do
      let (_, rows) ← evalSelect fuel env frames nq.query
      pure rows

end

/-- Evaluates an expression with the depth bound every statement is held to. -/
def Env.eval (env : Env) (frames : List RowScope) (e : Expr) : Except Fault Value :=
  evalExpr exprFuel env frames e

/-- Runs a query with the depth bound every statement is held to. -/
def Env.query (env : Env) (frames : List RowScope) (q : Select) :
    Except Fault (Array ColumnShape × List (Array Value)) :=
  evalSelect exprFuel env frames q

end Payout.Database
