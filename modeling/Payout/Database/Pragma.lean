import Payout.Database.Define

/-!
# Pragmas

A `PRAGMA` reads or sets a setting of the connection, reads or sets a value of the database
header, or reads the catalog. A pragma the database does not know does nothing and gives no
rows; a schema name other than `main` or `temp` is unknown even then.

* A setting given a value is set (foreign key enforcement only outside a transaction;
  switching off `defer_foreign_keys` forgets the immediate violations it held back); without
  a value it gives one row holding 0 or 1.
* `table_info`, `foreign_key_list`, `index_list` and `index_info` give the rows a client reads
  a table's layout from; a name that names nothing gives no rows.

A value is true when it starts with a digit and reads as a number whose low byte is not
zero (decimal, or hexadecimal after `0x`), or is one of `on`, `yes`, `true` (any case);
anything else is false.
-/

namespace Payout.Database

/-- The value of a hexadecimal digit. -/
def hexDigitValue? (c : Char) : Option Nat :=
  if c.isDigit then some (c.toNat - '0'.toNat)
  else if 'a' ≤ c && c ≤ 'f' then some (c.toNat - 'a'.toNat + 10)
  else if 'A' ≤ c && c ≤ 'F' then some (c.toNat - 'A'.toNat + 10)
  else none

/-- Decimal digits after an optional sign: leading zeros skipped, then up to eleven digits
read; more than ten, or a value beyond the 32-bit range, reads as zero, as does text that does
not start with a digit. -/
def decimalInt32 (negative : Bool) (cs : List Char) : Int :=
  match cs with
  | c :: _ =>
    if !c.isDigit then 0
    else
      let ds := (cs.dropWhile (· == '0')).takeWhile Char.isDigit |>.take 11
      let v : Int := ds.foldl (fun n c => n * 10 + (c.toNat - '0'.toNat)) 0
      if ds.length > 10 then 0
      else if v - (if negative then 1 else 0) > 2147483647 then 0
      else if negative then -v else v
  | [] => 0

/-- Hexadecimal digits after `0x`: leading zeros skipped, then up to eight digits read; a value
from `2^31` on, or a ninth digit, reads as zero. -/
def hexInt32 (cs : List Char) : Int :=
  let cs := cs.dropWhile (· == '0')
  let ds := (cs.take 8).takeWhile fun c => (hexDigitValue? c).isSome
  let v := ds.foldl (fun n c => n * 16 + (hexDigitValue? c).getD 0) 0
  let next := cs.drop ds.length
  if v ≥ 2147483648 || (next.head?.bind hexDigitValue?).isSome then 0 else v

/-- A 32-bit integer read from the start of a pragma's value: an optional sign and decimal
digits, or `0x` and hexadecimal digits; text that reads as no such number, or as one out of
range, is zero. -/
def leadingInt32 (s : String) : Int :=
  match s.toList with
  | '-' :: r => decimalInt32 true r
  | '+' :: r => decimalInt32 false r
  | '0' :: x :: h :: r =>
    if (x == 'x' || x == 'X') && (hexDigitValue? h).isSome then hexInt32 (h :: r)
    else decimalInt32 false s.toList
  | r => decimalInt32 false r

/-- The truth of a pragma's value: a value starting with a digit is true when the low byte of
the integer it reads as is not zero; otherwise `on`, `yes` and `true` (any case) are true and
anything else is false. -/
def pragmaTruth (v : String) : Bool :=
  match v.toList with
  | c :: _ =>
    if c.isDigit then leadingInt32 v % 256 != 0
    else
      let l := lowerAscii v
      l == "on" || l == "yes" || l == "true"
  | [] => false

/-- The settings a pragma of a name reads and writes. -/
inductive SettingFlag where
  | foreignKeys
  | ignoreChecks
  | recursiveTriggers
  | deferForeignKeys
  | legacyAlterTable
deriving DecidableEq, Inhabited

/-- The setting of a pragma name, if it names one. -/
def SettingFlag.ofName? (n : String) : Option SettingFlag :=
  match lowerAscii n with
  | "foreign_keys" => some .foreignKeys
  | "ignore_check_constraints" => some .ignoreChecks
  | "recursive_triggers" => some .recursiveTriggers
  | "defer_foreign_keys" => some .deferForeignKeys
  | "legacy_alter_table" => some .legacyAlterTable
  | _ => none

/-- The name a setting's value is shown under. -/
def SettingFlag.name : SettingFlag → String
  | .foreignKeys => "foreign_keys"
  | .ignoreChecks => "ignore_check_constraints"
  | .recursiveTriggers => "recursive_triggers"
  | .deferForeignKeys => "defer_foreign_keys"
  | .legacyAlterTable => "legacy_alter_table"

/-- The value of a setting. -/
def Settings.flag (s : Settings) : SettingFlag → Bool
  | .foreignKeys => s.foreignKeys
  | .ignoreChecks => s.ignoreChecks
  | .recursiveTriggers => s.recursiveTriggers
  | .deferForeignKeys => s.deferForeignKeys
  | .legacyAlterTable => s.legacyAlterTable

/-- Sets a setting. -/
def Settings.setFlag (s : Settings) (f : SettingFlag) (b : Bool) : Settings :=
  match f with
  | .foreignKeys => { s with foreignKeys := b }
  | .ignoreChecks => { s with ignoreChecks := b }
  | .recursiveTriggers => { s with recursiveTriggers := b }
  | .deferForeignKeys => { s with deferForeignKeys := b }
  | .legacyAlterTable => { s with legacyAlterTable := b }

/-- What a statement gives: the names of its columns and its rows. -/
structure Answer where
  columns : List String
  rows : List (Array Value)
deriving Inhabited

/-- No rows. -/
def Answer.empty : Answer := ⟨[], []⟩

/-- The words `PRAGMA foreign_key_list` shows for a key action. -/
def KeyAction.word : KeyAction → String
  | .noAction => "NO ACTION"
  | .restrict => "RESTRICT"
  | .setNull => "SET NULL"
  | .setDefault => "SET DEFAULT"
  | .cascade => "CASCADE"

/-- A text value, or null. -/
def textOrNull : Option String → Value
  | some s => .text s
  | none => .null

/-- The type `PRAGMA table_info` shows for a column of a view or query: the type of the column
it copies when that gives its affinity, else the standard type of its affinity, and none for
a column without affinity. -/
def ColumnShape.shownType (c : ColumnShape) : String :=
  if c.plain then "" else queryColumnType c c.affinity

/-- The rows of `PRAGMA table_info` for a table: its columns that are not generated, with
their place, name, type, whether they are `NOT NULL`, their default's text and their place
in the primary key. -/
def Table.infoRows (t : Table) : List (Array Value) :=
  let shown := t.columns.toList.zipIdx.filter fun (c, _) => c.generated.isNone
  (shown.zipIdx).map fun ((c, _), i) =>
    #[.integer i, .text c.name, .text c.declared, .integer (if c.notNull.isSome then 1 else 0),
      textOrNull (c.default.map Prod.snd), .integer c.keyPosition]

/-- The rows of `PRAGMA table_info` for columns without constraints (a view, the schema table). -/
def shapeInfoRows (cols : Array ColumnShape) : List (Array Value) :=
  cols.toList.zipIdx.map fun (c, i) =>
    #[.integer i, .text c.name, .text c.shownType, .integer 0, .null, .integer 0]

/-- The rows of `PRAGMA foreign_key_list`: the keys newest first, numbered from zero, one row
per column pair. -/
def Table.keyRows (t : Table) : List (Array Value) :=
  (t.foreignKeys.reverse.zipIdx).flatMap fun (fk, id) =>
    let parents : List (Option String) :=
      if fk.parentColumns.isEmpty then fk.columns.map fun _ => none else fk.parentColumns.map some
    ((fk.columns.zip parents).zipIdx).map fun ((c, p), seq) =>
      #[.integer id, .integer seq, .text fk.parent, .text c, textOrNull p,
        .text fk.onUpdate.word, .text fk.onDelete.word, .text "NONE"]

/-- The rows of `PRAGMA index_list`: the indexes in the order they are checked in. -/
def indexRows (s : Schema) (t : Table) : List (Array Value) :=
  ((s.indexesOf t.name).zipIdx).map fun (ix, i) =>
    #[.integer i, .text ix.name, .integer (if ix.unique then 1 else 0), .text ix.origin.letter,
      .integer (if ix.condition.isSome then 1 else 0)]

/-- The rows of `PRAGMA index_info`: the index's terms with the column each names (`-2` and
null for an expression, `-1` for the row identifier). -/
def indexInfoRows (t : Table) (ix : Index) : List (Array Value) :=
  ix.keys.zipIdx.map fun (k, i) =>
    match k.column with
    | some c =>
      match t.columnIndex? c with
      | some j =>
        if t.rowidColumn == some j then #[.integer i, .integer (-1), .text (t.columnName j)]
        else #[.integer i, .integer j, .text (t.columnName j)]
      | none => #[.integer i, .integer (-1), .text c]
    | none => #[.integer i, .integer (-2), .null]

namespace Handle

/-- Looks a table up for a pragma: in the schema written, else in the temporary schema and
then the main one. -/
def pragmaTable? (h : Handle) (schema : Option String) (name : String) : Option (String × Table) :=
  let look := fun (s : String) =>
    ((if isTempName s then h.conn.temp else h.db.main).table? name).map (s, ·)
  match schema with
  | some s => look s
  | none => (look "temp").orElse fun _ => look "main"

/-- Looks an index up for a pragma, with its table. -/
def pragmaIndex? (h : Handle) (schema : Option String) (name : String) :
    Option (Table × Index) :=
  let look := fun (s : String) =>
    let sch := if isTempName s then h.conn.temp else h.db.main
    (sch.index? name).bind fun ix => (sch.table? ix.table).map (·, ix)
  match schema with
  | some s => look s
  | none => (look "temp").orElse fun _ => look "main"

/-- Runs a pragma. -/
def pragma (h : Handle) (schema : Option Ident) (n : Ident) (value : Option String) :
    Except String (Handle × Answer) := do
  let written ← match schema with
    | some _ => (some ·) <$> schemaNamed schema
    | none => pure none
  let name := lowerAscii n.name
  match SettingFlag.ofName? name, value with
  | some f, some v =>
    let inTxn := h.conn.transaction.isSome
    if f == .foreignKeys && inTxn then return (h, Answer.empty)
    let b := pragmaTruth v
    let conn := { h.conn with settings := h.conn.settings.setFlag f b }
    let conn := if f == .deferForeignKeys && !b then { conn with deferredImmediate := 0 } else conn
    pure ({ h with conn := conn }, Answer.empty)
  | some f, none =>
    pure (h, ⟨[f.name], [#[.integer (if h.conn.settings.flag f then 1 else 0)]]⟩)
  | none, _ =>
    match name, value with
    | "case_sensitive_like", some v =>
      let b := pragmaTruth v
      pure ({ h with conn := { h.conn with settings := { h.conn.settings with caseSensitiveLike := b } } },
        Answer.empty)
    | "user_version", some v => pure ({ h with db := { h.db with userVersion := leadingInt32 v } }, Answer.empty)
    | "user_version", none => pure (h, ⟨["user_version"], [#[.integer h.db.userVersion]]⟩)
    | "application_id", some v =>
      pure ({ h with db := { h.db with applicationId := leadingInt32 v } }, Answer.empty)
    | "application_id", none => pure (h, ⟨["application_id"], [#[.integer h.db.applicationId]]⟩)
    | "table_info", some t =>
      let cols := ["cid", "name", "type", "notnull", "dflt_value", "pk"]
      match h.pragmaTable? written t with
      | some (_, tab) => pure (h, ⟨cols, tab.infoRows⟩)
      | none =>
        let ctx : Context := ⟨h.db.main, h.conn.temp, [], none, []⟩
        let rel := ctx.relation (written.map Ident.plain) t
        match rel with
        | .ok (.view s v) =>
          let shape ← viewColumns ctx s v
          pure (h, ⟨cols, shapeInfoRows shape⟩)
        | .ok (.master _) => pure (h, ⟨cols, shapeInfoRows masterColumns⟩)
        | _ => pure (h, ⟨cols, []⟩)
    | "foreign_key_list", some t =>
      let cols := ["id", "seq", "table", "from", "to", "on_update", "on_delete", "match"]
      match h.pragmaTable? written t with
      | some (_, tab) => pure (h, ⟨cols, tab.keyRows⟩)
      | none => pure (h, ⟨cols, []⟩)
    | "index_list", some t =>
      let cols := ["seq", "name", "unique", "origin", "partial"]
      match h.pragmaTable? written t with
      | some (s, tab) =>
        let sch := if isTempName s then h.conn.temp else h.db.main
        pure (h, ⟨cols, indexRows sch tab⟩)
      | none => pure (h, ⟨cols, []⟩)
    | "index_info", some i =>
      let cols := ["seqno", "cid", "name"]
      match h.pragmaIndex? written i with
      | some (tab, ix) => pure (h, ⟨cols, indexInfoRows tab ix⟩)
      | none => pure (h, ⟨cols, []⟩)
    | _, _ => pure (h, Answer.empty)

end Handle

end Payout.Database
