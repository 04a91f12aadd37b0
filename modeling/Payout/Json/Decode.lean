import Payout.Json.Reader
import Payout.Decimal.Text
import Payout.Text.Quoted

/-!
# Reading records from JSON

A record is read from a JSON object whose member names are its fields, or from an array that
lists its fields in order. Members the record does not know are read past; a field named
twice, or missing, is refused, except a field that may be absent, which is then empty.

A value of the wrong kind is refused with a text that names what was found and what was
expected: `invalid type: integer `1`, expected a string`. Such a fault is placed where the
reading stood once it had read past the offending value (for a missing or repeated field:
once the record was closed, or right after the repeated name).

A record may also *gather* another record: the members it does not know itself are kept,
and the inner record is read from them after the outer one is complete.
-/

namespace Payout

/-- What a field holds. -/
inductive FieldKind where
  | text
  | optText
  | int64
  | float
deriving DecidableEq, Inhabited

/-- A field as read. -/
inductive FieldValue where
  | text (s : String)
  | absent
  | int (i : Int)
  | float (x : Float)
deriving Inhabited

/-- A field of a record: its name and kind. -/
structure FieldSpec where
  name : String
  kind : FieldKind
deriving Inhabited

/-- A record as read: the value of each field, by name. -/
abbrev Record := List (String × FieldValue)

/-- The text of a field of a record, or empty. -/
def Record.text (r : Record) (name : String) : String :=
  match r.lookup name with
  | some (.text s) => s
  | _ => ""

/-- The optional text of a field of a record. -/
def Record.optText (r : Record) (name : String) : Option String :=
  match r.lookup name with
  | some (.text s) => some s
  | _ => none

/-- The integer of a field of a record, or zero. -/
def Record.int (r : Record) (name : String) : Int :=
  match r.lookup name with
  | some (.int i) => i
  | _ => 0

/-- The double of a field of a record, or zero. -/
def Record.float (r : Record) (name : String) : Float :=
  match r.lookup name with
  | some (.float x) => x
  | _ => 0.0

/-- The text the expected kind is named by. -/
def FieldKind.expecting : FieldKind → String
  | .text | .optText => "a string"
  | .int64 => "i64"
  | .float => "f64"

/-- A double named in a refusal: the shortest digits, positional from `1e-4` up to below `1e16`
with `.0` on whole numbers, and `1e+16` or `1.5e-7` outside that range. -/
def unexpectedFloat : Decimal.Style where
  positional := some (-3, 16)
  pointZero := true
  exponentPlus := true
  tie := .toEven
  nan := "NaN"
  infinity := "inf"

/-- How a number found where something else was expected is named. -/
def JsonNumber.unexpected : JsonNumber → String
  | .nat n => "integer `" ++ toString n ++ "`"
  | .neg i => "integer `" ++ toString i ++ "`"
  | .float x => "floating point `" ++ unexpectedFloat.write x ++ "`"

/-- How a value found where something else was expected is named. -/
def Json.unexpected : Json → String
  | .null => "null"
  | .bool b => "boolean `" ++ (if b then "true" else "false") ++ "`"
  | .num n => n.unexpected
  | .str s => "string " ++ debugQuote s
  | .arr _ => "sequence"
  | .obj _ => "map"

/-- The fault for a value of the wrong kind. -/
def invalidType (found expected : String) : JsonFault :=
  .data ("invalid type: " ++ found ++ ", expected " ++ expected)

namespace JsonRead

/-- Refuses the value at the cursor as being of the wrong kind: reads past a scalar to name
it, and places the fault where the reading then stands. -/
def refuse {α : Type} (expected : String) (fuel : Nat) : JsonRead α := do
  let found ← do
    match ← peek with
    | some 110 => do eat; ident [117, 108, 108]; pure "null"
    | some 116 => do eat; ident [114, 117, 101]; pure "boolean `true`"
    | some 102 => do eat; ident [97, 108, 115, 101]; pure "boolean `false`"
    | some 45 => do eat; pure (← number false).unexpected
    | some 34 => do eat; pure ("string " ++ debugQuote (← str "" fuel))
    | some 91 => pure "sequence"
    | some 123 => pure "map"
    | some b => if isDigitByte b then pure (← number true).unexpected else failAhead .expectedValue
    | none => failAhead .expectedValue
  throw (← fixPosition { fault := invalidType found expected })

/-- Reads a string. -/
def text (fuel : Nat) : JsonRead String := do
  match ← blank with
  | none => failAhead .eofValue
  | some 34 => do eat; str "" fuel
  | some _ => refuse "a string" fuel

/-- Reads a 64-bit integer; a larger one is an invalid value, a fraction an invalid type. -/
def int64 (fuel : Nat) : JsonRead Int := do
  match ← blank with
  | none => failAhead .eofValue
  | some b =>
    let n? ← if b == 45 then do eat; pure (some (← number false))
      else if isDigitByte b then do pure (some (← number true))
      else pure none
    match n? with
    | none => refuse "i64" fuel
    | some (.nat n) =>
      if n < Nat.pow 2 63 then pure n
      else throw (← fixPosition { fault := .data ("invalid value: integer `" ++ toString n ++ "`, expected i64") })
    | some (.neg i) => pure i
    | some (.float x) => throw (← fixPosition { fault := invalidType (JsonNumber.float x).unexpected "i64" })

/-- Reads a double; integers are taken as the nearest double. -/
def float (fuel : Nat) : JsonRead Float := do
  match ← blank with
  | none => failAhead .eofValue
  | some b =>
    if b == 45 then do
      eat
      match ← number false with
      | .nat n => pure (Float.ofScientific n false 0)
      | .neg i => pure (-(Float.ofScientific i.natAbs false 0))
      | .float x => pure x
    else if isDigitByte b then do
      match ← number true with
      | .nat n => pure (Float.ofScientific n false 0)
      | .neg i => pure (-(Float.ofScientific i.natAbs false 0))
      | .float x => pure x
    else refuse "f64" fuel

/-- Reads a field of a kind. -/
def field (k : FieldKind) (fuel : Nat) : JsonRead FieldValue := do
  match k with
  | .text => pure (.text (← text fuel))
  | .optText =>
    match ← blank with
    | some 110 => do eat; ident [117, 108, 108]; pure .absent
    | _ => pure (.text (← text fuel))
  | .int64 => pure (.int (← int64 fuel))
  | .float => pure (.float (← float fuel))

/-- Runs a step and then another whatever the first gave; the first one's failure wins. -/
def andThenAlways {α : Type} (first : JsonRead α) (after : JsonRead Unit) : JsonRead α := do
  let r ← tryCatch (do pure (Except.ok (← first))) fun e => pure (Except.error e)
  match r with
  | .ok a => after; pure a
  | .error e =>
    let _ ← tryCatch after fun _ => pure ()
    throw e

/-- The fields a record lacks at its end: the first missing one that must be present. -/
def missing (fields : List FieldSpec) (got : Record) : Option String :=
  (fields.find? fun f => f.kind != .optText && (got.lookup f.name).isNone).map (·.name)

/-- Fills the absent optional fields. -/
def complete (fields : List FieldSpec) (got : Record) : Record :=
  fields.map fun f => (f.name, (got.lookup f.name).getD .absent)

/-- Reads a gathered record from kept members: each of its fields from the first member of
that name (a second one is refused), missing fields refused. -/
def recordOfMembers (fields : List FieldSpec) (members : List (String × Json)) : Except JsonFault Record := do
  let mut got : Record := []
  for (k, v) in members do
    match fields.find? (·.name == k) with
    | none => pure ()
    | some f =>
      if (got.lookup k).isSome then throw (.data ("duplicate field `" ++ k ++ "`"))
      let fv ← match f.kind, v with
        | .text, .str s => pure (FieldValue.text s)
        | .optText, .str s => pure (.text s)
        | .optText, .null => pure .absent
        | .int64, .num (.nat n) =>
          if n < Nat.pow 2 63 then pure (.int n)
          else throw (.data ("invalid value: integer `" ++ toString n ++ "`, expected i64"))
        | .int64, .num (.neg i) => pure (.int i)
        | .float, .num (.nat n) => pure (.float (Float.ofScientific n false 0))
        | .float, .num (.neg i) => pure (.float (-(Float.ofScientific i.natAbs false 0)))
        | .float, .num (.float x) => pure (.float x)
        | k, v => throw (invalidType v.unexpected k.expecting)
      got := got ++ [(k, fv)]
  match missing fields got with
  | some m => throw (.data ("missing field `" ++ m ++ "`"))
  | none => pure (complete fields got)

/-- Reads the members of an object into a record (from after its `{`); unknown members are
skipped, or gathered when `gather` is set. With `track`, a fault inside a member's value gets
the member's name on its path. -/
def members (fields : List FieldSpec) (gather track : Bool) :
    Nat → Bool → Record × List (String × Json) → JsonRead (Record × List (String × Json))
  | 0, _, _ => fail .recursionLimit
  | fuel + 1, first, (got, extra) => do
    match ← nextKey first fuel with
    | none => pure (got, extra)
    | some k =>
      match fields.find? (·.name == k) with
      | some f =>
        if (got.lookup k).isSome then throw { fault := .data ("duplicate field `" ++ k ++ "`") }
        let v ← tracked track (.member k) (do colon; field f.kind fuel)
        members fields gather track fuel false (got ++ [(k, v)], extra)
      | none =>
        if gather then
          let v ← tracked track (.member k) (do colon; value track fuel)
          members fields gather track fuel false (got, extra ++ [(k, v)])
        else
          tracked track (.member k) (do colon; skipValue fuel)
          members fields gather track fuel false (got, extra)

/-- Reads a record from an object or an array of its fields in order. -/
def record (name : String) (fields : List FieldSpec) (track : Bool) (fuel : Nat) : JsonRead Record := do
  let expected := "struct " ++ name
  match ← blank with
  | none => failAhead .eofValue
  | some 123 =>
    enter
    eat
    let body : JsonRead Record := do
      let (got, _) ← members fields false track fuel true ([], [])
      match missing fields got with
      | some m => throw { fault := .data ("missing field `" ++ m ++ "`") }
      | none => pure (complete fields got)
    let r ← placed (andThenAlways (do let r ← body; leave; pure r) endObject)
    pure r
  | some 91 =>
    enter
    eat
    let body : JsonRead Record := do
      let mut got : Record := []
      let mut i := 0
      for f in fields do
        let item : JsonRead (Option FieldValue) := do
          if ← nextItem (i == 0) then pure (some (← field f.kind fuel)) else pure none
        if let some v ← tracked track (.item i) item then
          got := got ++ [(f.name, v)]
          i := i + 1
        else
          throw { fault := .data ("invalid length " ++ toString i ++ ", expected " ++ expected ++
            " with " ++ toString fields.length ++ " element" ++ (if fields.length == 1 then "" else "s")) }
      pure got
    let r ← placed (andThenAlways (do let r ← body; leave; pure r) endArray)
    pure r
  | some _ => refuse expected fuel

/-- Reads a record that gathers another: the outer record's own fields from an object, the
other members kept; then the own fields' presence is checked, and the gathered record is
read from the kept members. -/
def gathering (name : String) (own inner : List FieldSpec) (track : Bool) (fuel : Nat) : JsonRead (Record × Record) := do
  let expected := "struct " ++ name
  match ← blank with
  | none => failAhead .eofValue
  | some 123 =>
    enter
    eat
    let body : JsonRead (Record × Record) := do
      let (got, extra) ← members own true track fuel true ([], [])
      match missing own got with
      | some m => throw { fault := .data ("missing field `" ++ m ++ "`") }
      | none =>
        match recordOfMembers inner extra with
        | .ok r => pure (complete own got, r)
        | .error f => throw { fault := f }
    placed (andThenAlways (do let r ← body; leave; pure r) endObject)
  | some _ => refuse expected fuel

end JsonRead

/-- Reads a whole text as a record, refusing anything after it. -/
def Record.parse (name : String) (fields : List FieldSpec) (text : String) : Except JsonError Record :=
  JsonRead.runOn (fun fuel => do
    let r ← JsonRead.record name fields false fuel
    JsonRead.finish
    pure r) text.toUTF8

end Payout
