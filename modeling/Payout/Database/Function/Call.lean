import Payout.Database.Function.Printf
import Payout.Database.Function.Date
import Payout.Database.Function.Json
import Payout.Database.Function.Registry

/-!
# Calling functions

A scalar call is made on its evaluated arguments; the connection lends it the identifier of
the last inserted row and the counts of changed rows. (The calls that evaluate arguments
lazily, `coalesce`, `ifnull` and `iif`, are made by the evaluator itself.)

An aggregate call folds the arguments of the rows of a group:

* `count` counts rows (or values that are not null), `sum` adds whole numbers exactly and
  fails on overflow, switching to compensated addition of doubles once a value is not a
  whole number, `total` always gives a double and `avg` the mean;
* `min` and `max` give the least and greatest value that is not null;
* `group_concat` joins text with a separator, and `json_group_array` and
  `json_group_object` build JSON.
-/

namespace Payout.Database

/-- What a call may read besides its arguments. -/
structure CallEnv where
  lastRowid : Int
  changes : Int
  totalChanges : Int
  caseSensitiveLike : Bool
deriving Inhabited

/-- A value's numeric type as arithmetic sees it: numeric text becomes a number. -/
def Value.numericType : Value → Value
  | .text s =>
    match numericTextValue? s with
    | some n => n
    | none => .text s
  | v => v

/-- `abs(X)`. -/
def absOf : Value → Except String Value
  | .null => .ok .null
  | .integer i =>
    if i == minWord then .error "integer overflow" else .ok (.integer i.natAbs)
  | v => let x := v.asReal; .ok (.real (if x < 0.0 then -x else x))

/-- `round(X[, N])`: half away from zero, to `N` places (at most thirty). -/
def roundOf (x : Value) (n : Option Value) : Value :=
  match x, n with
  | _, some .null => .null
  | .null, _ => .null
  | v, _ =>
    let places : Int := match n with
      | some p => let k := p.asInteger; if k > 30 then 30 else if k < 0 then 0 else k
      | none => 0
    let r := v.asReal
    if r < -4503599627370496.0 || r > 4503599627370496.0 then .real r
    else if places == 0 then
      .real (wordToFloat (realToInteger (r + (if r < 0.0 then -0.5 else 0.5))))
    else
      let text := formatReal ⟨false, none, false, true, false, false, 0, some places.toNat⟩ 'f' r
      .real (readReal (textOfBytes text)).1

/-- `sign(X)`: -1, 0 or 1 for a number, null for anything else. -/
def signOf (v : Value) : Value :=
  match v.numericType with
  | .integer i => .integer (if i < 0 then -1 else if i > 0 then 1 else 0)
  | .real x => if x.isNaN then .null else .integer (if x < 0.0 then -1 else if x > 0.0 then 1 else 0)
  | _ => .null

/-- `min` or `max` of several values: null if any is null. -/
def extremeOf (greatest : Bool) (args : List Value) : Value :=
  if args.any Value.isNull then .null
  else
    match args with
    | [] => .null
    | a :: rest => rest.foldl (fun best v =>
        let o := Value.cmp v best
        if (greatest && o == .gt) || (!greatest && o == .lt) then v else best) a

/-- `zeroblob(N)`. -/
def zeroblobOf (v : Value) : Except String Value :=
  let n := v.asInteger
  if n > 1000000000 then .error "string or blob too big"
  else .ok (.blob (List.replicate (if n < 0 then 0 else n.toNat) 0))

/-- `like(P, X[, E])` and the `LIKE` operator: whether the text matches the pattern, with
an optional escape character. -/
def likeOf (caseSensitive : Bool) (pattern text : Value) (escape : Option Value) :
    Except String Value :=
  match pattern, text, escape with
  | .null, _, _ | _, .null, _ | _, _, some .null => .ok .null
  | p, t, _ => do
    let esc ← match escape with
      | some e =>
        match e.asText.toList with
        | [c] => pure (some c)
        | _ => throw "ESCAPE expression must be a single character"
      | none => pure none
    let pat := p.asText
    if (utf8Bytes pat).length > 50000 then throw "LIKE or GLOB pattern too complex"
    pure (.integer (if patternMatches (likeRules !caseSensitive) esc pat t.asText then 1 else 0))

/-- `glob(P, X)` and the `GLOB` operator. -/
def globOf (pattern text : Value) : Except String Value :=
  match pattern, text with
  | .null, _ | _, .null => .ok .null
  | p, t =>
    let pat := p.asText
    if (utf8Bytes pat).length > 50000 then .error "LIKE or GLOB pattern too complex"
    else .ok (.integer (if patternMatches globRules none pat t.asText then 1 else 0))

/-- `concat(…)`: the text of the values that are not null. -/
def concatOf (args : List Value) : Value :=
  .text (String.join (args.filterMap Value.text?))

/-- `concat_ws(SEP, …)`. -/
def concatWsOf : List Value → Value
  | [] => .null
  | .null :: _ => .null
  | sep :: args => .text (sep.asText.intercalate (args.filterMap Value.text?))

/-- Calls a scalar function on its arguments. -/
def callScalar (env : CallEnv) (name : String) (jargs : List JsonArg) : Except String Value :=
  let args := jargs.map (·.value)
  let a0 := args.getD 0 .null
  let a1 := args.getD 1 .null
  let a2 := args.getD 2 .null
  let opt := fun (i : Nat) => args[i]?
  match lowerAscii name with
  | "abs" => absOf a0
  | "changes" => .ok (.integer env.changes)
  | "total_changes" => .ok (.integer env.totalChanges)
  | "last_insert_rowid" => .ok (.integer env.lastRowid)
  | "char" => .ok (charOf args)
  | "concat" => .ok (concatOf args)
  | "concat_ws" => .ok (concatWsOf args)
  | "printf" | "format" => .ok (printfOf args)
  | "glob" => globOf a0 a1
  | "like" => likeOf env.caseSensitiveLike a0 a1 (opt 2)
  | "hex" => .ok (hexOf a0)
  | "instr" => .ok (instrOf a0 a1)
  | "length" => .ok (lengthOf a0)
  | "octet_length" => .ok (octetLength a0)
  | "likely" | "unlikely" | "likelihood" => .ok a0
  | "lower" => .ok (lowerText a0)
  | "upper" => .ok (upperText a0)
  | "ltrim" => .ok (trimOf true false a0 (opt 1))
  | "rtrim" => .ok (trimOf false true a0 (opt 1))
  | "trim" => .ok (trimOf true true a0 (opt 1))
  | "max" => .ok (extremeOf true args)
  | "min" => .ok (extremeOf false args)
  | "nullif" => .ok (if !a0.isNull && !a1.isNull && Value.cmp a0 a1 == .eq then .null else a0)
  | "quote" => .ok (quoteOf a0)
  | "random" => .ok (.integer 0)
  | "randomblob" => .ok (.blob (List.replicate (max 1 a0.asInteger).toNat 0))
  | "replace" => .ok (replaceOf a0 a1 a2)
  | "round" => .ok (roundOf a0 (opt 1))
  | "sign" => .ok (signOf a0)
  | "soundex" => .ok (soundexOf a0)
  | "sqlite_version" => .ok (.text "3.50.2")
  | "sqlite_source_id" => .ok (.text "")
  | "sqlite_compileoption_used" => .ok (.integer 0)
  | "sqlite_compileoption_get" => .ok .null
  | "substr" | "substring" => .ok (substrOf a0 a1 (opt 2))
  | "typeof" => .ok (.text a0.typeName)
  | "unhex" => .ok (unhexOf a0 (opt 1))
  | "unicode" => .ok (unicodeOf a0)
  | "unistr" | "unistr_quote" => .ok a0
  | "subtype" => .ok (.integer 0)
  | "zeroblob" => zeroblobOf a0
  | "date" => .ok (dateOf args)
  | "time" => .ok (timeOf args)
  | "datetime" => .ok (datetimeOf args)
  | "julianday" => .ok (juliandayOf args)
  | "unixepoch" => .ok (unixepochOf args)
  | "strftime" => .ok (strftimeOf args)
  | "timediff" => .ok (timediffOf a0 a1)
  | "current_date" => .ok (dateOf [])
  | "current_time" => .ok (timeOf [])
  | "current_timestamp" => .ok (datetimeOf [])
  | "json" => jsonOf (jargs.getD 0 default)
  | "json_valid" => .ok (jsonValidOf a0)
  | "json_quote" => jsonQuoteOf (jargs.getD 0 default)
  | "json_array" => jsonArrayOf jargs
  | "json_object" => jsonObjectOf jargs
  | "json_extract" => jsonExtractOf a0 (args.drop 1)
  | "json_insert" => jsonEditOf .insert "insert" jargs
  | "json_replace" => jsonEditOf .replace "replace" jargs
  | "json_set" => jsonEditOf .set "set" jargs
  | "json_remove" => jsonRemoveOf a0 (args.drop 1)
  | "json_type" => jsonTypeOf a0 (opt 1)
  | "json_array_length" => jsonArrayLengthOf a0 (opt 1)
  | "json_patch" => jsonPatchOf (jargs.getD 0 default) (jargs.getD 1 default)
  | "json_error_position" =>
    .ok (if a0.isNull then .null else .integer (if (parseJson a0.asText).isSome then 0 else 1))
  | _ => .error ("no such function: " ++ name)

/-- Whether a function hands back JSON that another JSON function reads as JSON. -/
def returnsJson (name : String) : Bool :=
  ["json", "json_array", "json_object", "json_insert", "json_replace", "json_set", "json_remove",
   "json_patch", "json_quote", "json_group_array", "json_group_object"].contains (lowerAscii name)

/-! ### Aggregates -/

/-- A running sum: the exact whole-number sum, or a double sum with its error term once a
value is not a whole number, with the count of values and whether a whole sum overflowed. -/
structure Sum where
  whole : Int
  real : Float
  err : Float
  count : Nat
  approx : Bool
  overflow : Bool
deriving Inhabited

/-- Adds a double with compensation for the lost low bits. -/
def Sum.addReal (s : Sum) (r : Float) : Sum :=
  let t := s.real + r
  let err := if s.real.abs > r.abs then s.err + ((s.real - t) + r) else s.err + ((r - t) + s.real)
  { s with real := t, err := err }

/-- Adds a whole number to the double sum, split so that no bits are lost. -/
def Sum.addWholeAsReal (s : Sum) (i : Int) : Sum :=
  if i ≤ -4503599627370496 || i ≥ 4503599627370496 then
    let small := Int.tmod i 16384
    (s.addReal (wordToFloat (i - small))).addReal (wordToFloat small)
  else s.addReal (wordToFloat i)

/-- Starts the double sum from a whole-number sum. -/
def Sum.start (s : Sum) : Sum :=
  let i := s.whole
  if i ≤ -4503599627370496 || i ≥ 4503599627370496 then
    let small := Int.tmod i 16384
    { s with real := wordToFloat (i - small), err := wordToFloat small, approx := true }
  else { s with real := wordToFloat i, err := 0.0, approx := true }

/-- Adds one value to a running sum; nulls are skipped. -/
def Sum.step (s : Sum) (v : Value) : Sum :=
  match v.numericType with
  | .null => s
  | .integer i =>
    let s := { s with count := s.count + 1 }
    if !s.approx then
      let t := s.whole + i
      if minWord ≤ t && t ≤ maxWord then { s with whole := t }
      else { s.start with overflow := true }.addWholeAsReal i
    else s.addWholeAsReal i
  | other =>
    let s := { s with count := s.count + 1 }
    let s := if s.approx then { s with overflow := false } else s.start
    s.addReal other.asReal

/-- The double a running sum stands for. -/
def Sum.total (s : Sum) : Float :=
  if s.approx then (if s.err.isNaN || s.err.isInf then s.real else s.real + s.err)
  else wordToFloat s.whole

/-- Folds an aggregate over the argument lists of a group's rows. `coll` is the collation
`min` and `max` compare with. -/
def aggregateOf (name : String) (coll : Collation) (rows : List (List Value)) :
    Except String Value :=
  let firsts := rows.map (·.headD .null)
  let zero : Sum := ⟨0, 0.0, 0.0, 0, false, false⟩
  match lowerAscii name with
  | "count" => .ok (.integer (rows.filter (fun r => r.isEmpty || !(r.headD .null).isNull)).length)
  | "sum" =>
    let s := firsts.foldl Sum.step zero
    if s.count == 0 then .ok .null
    else if s.approx then
      if s.overflow then .error "integer overflow" else .ok (.real s.total)
    else .ok (.integer s.whole)
  | "total" => .ok (.real (firsts.foldl Sum.step zero).total)
  | "avg" =>
    let s := firsts.foldl Sum.step zero
    if s.count == 0 then .ok .null else .ok (.real (s.total / wordToFloat s.count))
  | "min" | "max" =>
    let greatest := lowerAscii name == "max"
    .ok (firsts.foldl (fun best v =>
      if v.isNull then best
      else match best with
        | .null => v
        | b =>
          let o := Value.compareWith coll v b
          if (greatest && o == .gt) || (!greatest && o == .lt) then v else b) .null)
  | "group_concat" | "string_agg" =>
    let parts := rows.filterMap fun r =>
      match r with
      | [] | .null :: _ => none
      | v :: rest =>
        let sep := match rest with
          | s :: _ => s.text?.getD ""
          | [] => if lowerAscii name == "string_agg" then "" else ","
        some (sep, v.asText)
    match parts with
    | [] => .ok .null
    | (_, first) :: more => .ok (.text (first ++ String.join (more.map fun (s, t) => s ++ t)))
  | "json_group_array" => do
    let nodes ← rows.mapM fun r => (JsonArg.mk (r.headD .null) false).node
    pure (.text (JNode.array nodes).text)
  | "json_group_object" => do
    let ms ← rows.filterMapM fun r =>
      match r with
      | k :: v :: _ =>
        if k.isNull then pure none
        else do
          let n ← (JsonArg.mk v false).node
          pure (some (k.asText, n))
      | _ => pure none
    pure (.text (JNode.object ms).text)
  | _ => .error ("no such function: " ++ name)

end Payout.Database
