import Payout.Store.Schema

/-!
# Where a database is, and opening it

A database is named by a path or by a `file:` URI. `:memory:` (and the empty path) is a
private database in memory. A URI names a path, optionally after an authority that must be
empty or `localhost`, and may carry parameters after `?`: `mode` (`ro`, `rw`, `rwc` or
`memory`), `cache` (`shared` or `private`) and `vfs`; path, names and values are
percent-encoded. A URI with any other value of these cannot be opened at all; one whose last
`mode` is `memory`, or whose path is `:memory:`, is a database in memory, which other
connections may open too when its cache is shared.

Files are never opened here: a path to a file fails as a file that cannot be opened.

Opening a store turns foreign keys on, brings the schema up to date, and checks that foreign
keys are enforced.
-/

namespace Payout.Store

open Database

/-- Where a database is. -/
inductive Location where
  /-- A database in memory; `shared` names one that other connections may open. -/
  | memory (shared : Option String)
  /-- A file. -/
  | file (path : String)
deriving Inhabited, DecidableEq

/-- Why a database could not be opened. -/
inductive OpenFailure where
  | cannotOpen
  | badName
deriving Inhabited, DecidableEq

/-- The text of a failure to open. -/
def OpenFailure.message : OpenFailure → String
  | .cannotOpen => "Unable to open the database file"
  | .badName => "SQL error or missing database"

/-- The file systems a URI may name. -/
def knownVfs : List String := ["unix", "unix-none", "unix-dotfile", "unix-excl", "memdb"]

/-- The value of a hexadecimal digit. -/
def hexDigit? (c : Char) : Option Nat :=
  if '0' ≤ c && c ≤ '9' then some (c.toNat - '0'.toNat)
  else if 'a' ≤ c && c ≤ 'f' then some (c.toNat - 'a'.toNat + 10)
  else if 'A' ≤ c && c ≤ 'F' then some (c.toNat - 'A'.toNat + 10)
  else none

/-- The part of a URI being read: the path, a parameter's name, or its value. -/
inductive UriPart where
  | path
  | name
  | value
deriving DecidableEq, Inhabited

/-- Whether a character ends the current part (so that reading resumes there after a `%00`):
`?` ends the path, `=` and `&` a name, `&` a value. -/
def UriPart.endsAt : UriPart → Char → Bool
  | .path, c => c == '?'
  | .name, c => c == '=' || c == '&'
  | .value, c => c == '&'

/-- What a URI reading has gathered: the path, the finished parameters, the parameter being
read, and what is being skipped (`nul` after `%00` up to the end of the part, `option` after a
parameter with no name up to the next `&`). -/
structure UriReading where
  part : UriPart
  path : List Char
  params : List (String × String)
  name : List Char
  value : List Char
  skip : Option Bool
deriving Inhabited

/-- Appends a character to the part being read. -/
def UriReading.push (r : UriReading) (c : Char) : UriReading :=
  match r.part with
  | .path => { r with path := r.path ++ [c] }
  | .name => { r with name := r.name ++ [c] }
  | .value => { r with value := r.value ++ [c] }

/-- Closes the parameter being read, if it has a name. -/
def UriReading.close (r : UriReading) : UriReading :=
  if r.name.isEmpty then { r with value := [] }
  else { r with params := r.params ++ [(String.ofList r.name, String.ofList r.value)],
                name := [], value := [] }

/-- Takes one character that is not part of an escape: `?` starts the parameters, `=`
divides a name from its value, `&` ends a parameter, and a parameter whose name is empty is
left out. -/
def UriReading.take (r : UriReading) (c : Char) : UriReading :=
  match r.part, c with
  | .path, '?' => { r with part := .name }
  | .name, '&' => r.close
  | .name, '=' => if r.name.isEmpty then { r with skip := some false } else { r with part := .value }
  | .value, '&' => { r.close with part := .name }
  | _, _ => r.push c

/-- Reads the characters of a URI after its authority, one at a time, up to `#`: `%` and two
hexadecimal digits stand for the byte they name, and `%00` drops the rest of the part. -/
def readUriChars (r : UriReading) : List Char → UriReading
  | [] => r
  | '#' :: _ => r
  | c :: rest =>
    match r.skip with
    | some true =>
      if r.part.endsAt c then readUriChars ({ r with skip := none }.take c) rest
      else readUriChars r rest
    | some false =>
      if c == '&' then readUriChars { r with skip := none } rest else readUriChars r rest
    | none =>
      if c == '%' then
        match _hr : rest with
        | h :: l :: rest' =>
          match hexDigit? h, hexDigit? l with
          | some a, some b =>
            if a * 16 + b == 0 then readUriChars { r with skip := some true } rest'
            else readUriChars (r.push (Char.ofNat (a * 16 + b))) rest'
          | _, _ => readUriChars (r.push '%') rest
        | _ => readUriChars (r.push '%') rest
      else readUriChars (r.take c) rest
termination_by cs => cs.length
decreasing_by all_goals simp_all <;> omega

/-- The path and parameters of a URI's text after its authority. -/
def uriParts (cs : List Char) : String × List (String × String) :=
  let r := (readUriChars ⟨.path, [], [], [], [], none⟩ cs).close
  (String.ofList r.path, r.params)

/-- What the parameters of a URI ask for: an access mode, a cache and a file system, each
the last one given. -/
structure UriOptions where
  memory : Bool
  shared : Bool
  vfs : Option String
deriving Inhabited

/-- Takes the parameters in order; a `mode` or `cache` with an unknown value is refused.
Other names are left alone. -/
def UriOptions.read (o : UriOptions) : List (String × String) → Except OpenFailure UriOptions
  | [] => pure o
  | (k, v) :: rest =>
    if k == "vfs" then UriOptions.read { o with vfs := some v } rest
    else if k == "cache" then
      if v == "shared" then UriOptions.read { o with shared := true } rest
      else if v == "private" then UriOptions.read { o with shared := false } rest
      else throw .badName
    else if k == "mode" then
      if v == "memory" then UriOptions.read { o with memory := true } rest
      else if v == "ro" || v == "rw" || v == "rwc" then UriOptions.read { o with memory := false } rest
      else throw .badName
    else UriOptions.read o rest

/-- Reads a `file:` URI (given without its scheme). An authority must be empty or
`localhost`. The database is in memory when the last `mode` is `memory`, when the path is
`:memory:` or empty, or when the file system is `memdb`; it is shared by name with a shared
cache, and under `memdb` when the path starts with `/`. -/
def Location.ofUri (rest : String) : Except OpenFailure Location := do
  let cs := rest.toList
  let cs ← match cs with
    | '/' :: '/' :: more =>
      let authority := more.takeWhile (· != '/')
      if authority.isEmpty || authority == "localhost".toList then pure (more.drop authority.length)
      else throw .badName
    | _ => pure cs
  let (path, params) := uriParts cs
  let o ← UriOptions.read ⟨false, false, none⟩ params
  if let some v := o.vfs then
    if !knownVfs.contains v then throw .badName
  if o.vfs == some "memdb" then
    pure (.memory (if path.length > 1 && path.startsWith "/" then some path else none))
  else if o.memory || path == ":memory:" || path.isEmpty then
    pure (.memory (if o.shared then some path else none))
  else pure (.file path)

/-- Reads a path or URI. -/
def Location.parse (name : String) : Except OpenFailure Location :=
  if name == ":memory:" || name.isEmpty then pure (.memory none)
  else if name.startsWith "file:" then Location.ofUri (name.drop 5).toString
  else pure (.file name)

/-- Opens a location: a database in memory opens as the database it already holds (`start`),
a file cannot be opened. -/
def Location.connect (loc : Location) (start : Database.File) : Except OpenFailure Handle :=
  match loc with
  | .memory _ => pure (Handle.of start)
  | .file _ => throw .cannotOpen

/-- Refuses a connection that does not enforce foreign keys, as its `PRAGMA foreign_keys`
answers; a pragma that answers no row is a missing record. -/
def verifyForeignKeys : StoreM Unit := do
  let a ← (Sql.exec (.pragma none (ident "foreign_keys") none)).orFail .database
  match a.rows with
  | row :: _ => if (row.getD 0 .null).asInteger == 0 then throw .foreignKeysOff
  | [] => throw (.notFound "Record not found")

/-- Makes an opened database ready as a store: foreign keys on, schema up to date, and
for a database named by a path, the journal switched to write-ahead logging. -/
def prepareStore (named : Bool) : StoreM Unit := do
  (Sql.batch "PRAGMA foreign_keys = ON").orFail .queryFailed
  migrate
  if named then (Sql.batch "PRAGMA journal_mode = WAL").orFail .queryFailed
  verifyForeignKeys

/-- Opens the store at a path over the database in memory it names (`start`); fails as a
connection failure when it cannot be opened. -/
def openStore (name : String) (start : Database.File) (named : Bool) : Except PersistenceError Handle := do
  let h ← match Location.parse name >>= fun loc => loc.connect start with
    | .ok h => pure h
    | .error f => throw (.connectionFailed f.message)
  match (prepareStore named).run.run h with
  | (.ok (), h') => pure h'
  | (.error e, _) => throw e

/-- Opens a store over a fresh database in memory. -/
def openFresh (named : Bool) : Except PersistenceError Handle :=
  openStore ":memory:" Database.File.empty named

end Payout.Store
