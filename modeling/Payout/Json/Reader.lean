import Payout.Json.Value
import Payout.Decimal.Parse

/-!
# Reading JSON text

A streaming reader of JSON text over its UTF-8 bytes. Reading moves a cursor; a failure names
its cause and the line and column (in bytes) where it was found, and the cursor keeps every
move made before the failure, so a later step may still read on. Some failures are found
before a byte is taken (they point at the byte looked at, one column further), others after.

Numbers follow the three shapes of `JsonNumber`: digits alone give an integer when they fit
(a negative zero and negative integers below `-2^63` become doubles), a point or an
exponent gives the nearest double, and a double too large to represent is refused. Nesting
deeper than 127 levels is refused.

Failures that are not about the text itself but about what a value was expected to be
(`data` failures) carry no position when made; `fixPosition` gives them the cursor's
position at the level that reports them, and a path of member names and item indices
records where in the document they arose.
-/

namespace Payout

/-- Why a JSON text could not be read. -/
inductive JsonFault where
  | eofList
  | eofObject
  | eofString
  | eofValue
  | expectedColon
  | expectedListCommaOrEnd
  | expectedObjectCommaOrEnd
  | expectedIdent
  | expectedValue
  | invalidEscape
  | invalidNumber
  | numberOutOfRange
  | controlCharacter
  | keyMustBeString
  | loneLeadingSurrogate
  | trailingComma
  | trailingCharacters
  | unexpectedEndOfHexEscape
  | recursionLimit
  /-- The value read is not of the shape expected. -/
  | data (message : String)
deriving Inhabited, DecidableEq

/-- The text of a fault. -/
def JsonFault.message : JsonFault → String
  | .eofList => "EOF while parsing a list"
  | .eofObject => "EOF while parsing an object"
  | .eofString => "EOF while parsing a string"
  | .eofValue => "EOF while parsing a value"
  | .expectedColon => "expected `:`"
  | .expectedListCommaOrEnd => "expected `,` or `]`"
  | .expectedObjectCommaOrEnd => "expected `,` or `\x7d`"
  | .expectedIdent => "expected ident"
  | .expectedValue => "expected value"
  | .invalidEscape => "invalid escape"
  | .invalidNumber => "invalid number"
  | .numberOutOfRange => "number out of range"
  | .controlCharacter => "control character (\\u0000-\\u001F) found while parsing a string"
  | .keyMustBeString => "key must be a string"
  | .loneLeadingSurrogate => "lone leading surrogate in hex escape"
  | .trailingComma => "trailing comma"
  | .trailingCharacters => "trailing characters"
  | .unexpectedEndOfHexEscape => "unexpected end of hex escape"
  | .recursionLimit => "recursion limit exceeded"
  | .data m => m

/-- Whether a fault is about the expected shape of a value rather than the text. -/
def JsonFault.isData : JsonFault → Bool
  | .data _ => true
  | _ => false

/-- A step from a value to one inside it: a member by name or an item by index. -/
inductive PathStep where
  | member (name : String)
  | item (index : Nat)
deriving Inhabited, DecidableEq

/-- A fault with its place: line and column (line 0 until placed) and the path of member
names and item indices from the root. -/
structure JsonError where
  fault : JsonFault
  line : Nat := 0
  column : Nat := 0
  path : List PathStep := []
deriving Inhabited

/-- The text of a fault and its place: `expected value at line 1 column 34`. -/
def JsonError.message (e : JsonError) : String :=
  e.fault.message ++ (if e.line == 0 then "" else
    " at line " ++ toString e.line ++ " column " ++ toString e.column)

/-- The text of a step: a member's name after a dot (none at the start), an index in
brackets. -/
def PathStep.text (first : Bool) : PathStep → String
  | .member k => (if first then "" else ".") ++ k
  | .item i => "[" ++ toString i ++ "]"

/-- The text of a path: `rows[2].name`. -/
def pathText (steps : List PathStep) : String :=
  String.join (steps.mapIdx fun i s => s.text (i == 0))

/-- The text with the path in front when there is one: `percentage: expected value at line 1
column 34`. -/
def JsonError.withPath (e : JsonError) : String :=
  (if e.path.isEmpty then "" else pathText e.path ++ ": ") ++ e.message

/-- A reading position in a text's bytes, and how many more levels may open. -/
structure Cursor where
  bytes : ByteArray
  pos : Nat
  depth : Nat
deriving Inhabited

/-- Reading that moves a cursor and may fail; moves made before a failure are kept. -/
abbrev JsonRead := ExceptT JsonError (StateM Cursor)

namespace JsonRead

/-- The line and byte column of an index: lines count from 1, columns count the bytes since
the last line break. -/
def placeOf (bytes : ByteArray) (i : Nat) : Nat × Nat :=
  let before := (bytes.extract 0 i).toList
  let lineStart := before.length - (before.reverse.takeWhile (· != 10)).length
  (1 + (before.take lineStart).count 10, i - lineStart)

/-- The byte under the cursor, if any. -/
def peek : JsonRead (Option UInt8) := do
  let c ← get
  pure c.bytes[c.pos]?

/-- Moves past one byte. -/
def eat : JsonRead Unit := modify fun c => { c with pos := c.pos + 1 }

/-- Takes one byte. -/
def next : JsonRead (Option UInt8) := do
  let b ← peek
  if b.isSome then eat
  pure b

/-- Fails with a fault placed at the cursor. -/
def fail {α : Type} (f : JsonFault) : JsonRead α := do
  let c ← get
  let (l, col) := placeOf c.bytes c.pos
  throw { fault := f, line := l, column := col }

/-- Fails with a fault placed at the byte looked at, one past the cursor. -/
def failAhead {α : Type} (f : JsonFault) : JsonRead α := do
  let c ← get
  let (l, col) := placeOf c.bytes (min c.bytes.size (c.pos + 1))
  throw { fault := f, line := l, column := col }

/-- A data fault, placed later. -/
def dataFault {α : Type} (m : String) : JsonRead α := throw { fault := .data m }

/-- Places an unplaced fault at the cursor. -/
def fixPosition (e : JsonError) : JsonRead JsonError := do
  if e.line != 0 then pure e
  else
    let c ← get
    let (l, col) := placeOf c.bytes c.pos
    pure { e with line := l, column := col }

/-- Runs a step and places a fault it raises at the cursor as it stands afterwards. -/
def placed {α : Type} (act : JsonRead α) : JsonRead α :=
  tryCatch act fun e => do throw (← fixPosition e)

/-- Runs a step under a path segment: a fault it raises gets the segment in front of its
path. -/
def under {α : Type} (seg : PathStep) (act : JsonRead α) : JsonRead α :=
  tryCatch act fun e => throw { e with path := seg :: e.path }

/-- Runs a step under a path segment when paths are tracked. -/
def tracked {α : Type} (track : Bool) (seg : PathStep) (act : JsonRead α) : JsonRead α :=
  if track then under seg act else act

/-- Whether a byte is a JSON blank. -/
def isBlankByte (b : UInt8) : Bool := b == 32 || b == 10 || b == 9 || b == 13

/-- The first index at or after `i` that holds no blank. -/
def skipBlank (bytes : ByteArray) (i : Nat) : Nat :=
  if h : i < bytes.size then
    if isBlankByte (bytes[i]) then skipBlank bytes (i + 1) else i
  else i
termination_by bytes.size - i

/-- Skips blanks and looks at the next byte. -/
def blank : JsonRead (Option UInt8) := do
  modify fun c => { c with pos := skipBlank c.bytes c.pos }
  peek

/-- Reads the rest of a keyword. -/
def ident (rest : List UInt8) : JsonRead Unit := do
  for b in rest do
    match ← next with
    | none => fail .eofValue
    | some c => if c != b then fail .expectedIdent

/-- Whether a byte is an ASCII digit. -/
def isDigitByte (b : UInt8) : Bool := 48 ≤ b && b ≤ 57

/-- The value of an ASCII hex digit. -/
def hexVal (b : UInt8) : Option Nat :=
  if 48 ≤ b && b ≤ 57 then some (b.toNat - 48)
  else if 97 ≤ b && b ≤ 102 then some (b.toNat - 87)
  else if 65 ≤ b && b ≤ 70 then some (b.toNat - 55)
  else none

/-- Reads the four hex digits of a `\u` escape. -/
def hexEscape : JsonRead Nat := do
  let c ← get
  if c.pos + 4 ≤ c.bytes.size then
    let ds := (c.bytes.extract c.pos (c.pos + 4)).toList
    set { c with pos := c.pos + 4 }
    match ds.mapM hexVal with
    | some [a, b, d, e] => pure (((a * 16 + b) * 16 + d) * 16 + e)
    | _ => fail .invalidEscape
  else
    set { c with pos := c.bytes.size }
    fail .eofString

/-- Reads a `\u` escape (the `u` taken), pairing surrogates into one character. -/
def unicodeEscape (acc : String) : JsonRead String := do
    let n ← hexEscape
    if 0xDC00 ≤ n && n ≤ 0xDFFF then fail .loneLeadingSurrogate
    else if n < 0xD800 || n > 0xDBFF then pure (acc.push (Char.ofNat n))
    else
      match ← peek with
      | none => fail .eofString
      | some b =>
        if b != 92 then do eat; fail .unexpectedEndOfHexEscape
        else
          eat
          match ← peek with
          | none => fail .eofString
          | some b2 =>
            if b2 != 117 then do eat; fail .unexpectedEndOfHexEscape
            else
              eat
              let n2 ← hexEscape
              if n2 < 0xDC00 || n2 > 0xDFFF then
                fail .loneLeadingSurrogate
              else
                pure (acc.push (Char.ofNat ((((n - 0xD800) * 1024) ||| (n2 - 0xDC00)) + 0x10000)))

/-- Reads one escape after its backslash. -/
def escape (acc : String) : JsonRead String := do
  match ← next with
  | none => fail .eofString
  | some b =>
    if b == 34 then pure (acc.push '"')
    else if b == 92 then pure (acc.push '\\')
    else if b == 47 then pure (acc.push '/')
    else if b == 98 then pure (acc.push (Char.ofNat 8))
    else if b == 102 then pure (acc.push (Char.ofNat 12))
    else if b == 110 then pure (acc.push '\n')
    else if b == 114 then pure (acc.push '\r')
    else if b == 116 then pure (acc.push '\t')
    else if b == 117 then unicodeEscape acc
    else fail .invalidEscape

/-- The first index at or after `i` that holds a quote, a backslash or a control byte. -/
def skipPlain (bytes : ByteArray) (i : Nat) : Nat :=
  if h : i < bytes.size then
    let b := bytes[i]
    if b == 34 || b == 92 || b < 32 then i else skipPlain bytes (i + 1)
  else i
termination_by bytes.size - i

/-- Reads the rest of a string after its opening quote. -/
def str (acc : String) : Nat → JsonRead String
  | 0 => fail .eofString
  | fuel + 1 => do
    let c ← get
    let stop := skipPlain c.bytes c.pos
    let chunk := (String.fromUTF8? (c.bytes.extract c.pos stop)).getD ""
    let acc := acc ++ chunk
    set { c with pos := stop }
    match c.bytes[stop]? with
    | none => fail .eofString
    | some b =>
      if b == 34 then do eat; pure acc
      else if b == 92 then do
        eat
        let acc ← escape acc
        str acc fuel
      else do eat; fail .controlCharacter

/-- Skips one escape after its backslash. -/
def skipEscape : JsonRead Unit := do
  match ← next with
  | none => fail .eofString
  | some b =>
    if b == 34 || b == 92 || b == 47 || b == 98 || b == 102 || b == 110 || b == 114 || b == 116 then
      pure ()
    else if b == 117 then do let _ ← hexEscape; pure ()
    else fail .invalidEscape

/-- Skips the rest of a string after its opening quote. -/
def skipStr : Nat → JsonRead Unit
  | 0 => fail .eofString
  | fuel + 1 => do
    let c ← get
    let stop := skipPlain c.bytes c.pos
    set { c with pos := stop }
    match c.bytes[stop]? with
    | none => fail .eofString
    | some b =>
      if b == 34 then eat
      else if b == 92 then do eat; skipEscape; skipStr fuel
      else fail .controlCharacter

/-- The first index at or after `i` that holds no digit. -/
def skipDigits (bytes : ByteArray) (i : Nat) : Nat :=
  if h : i < bytes.size then
    if isDigitByte (bytes[i]) then skipDigits bytes (i + 1) else i
  else i
termination_by bytes.size - i

/-- Takes a run of digits and their value. -/
def digits : JsonRead (Nat × Nat) := do
  let c ← get
  let stop := skipDigits c.bytes c.pos
  let ds := (c.bytes.extract c.pos stop).toList
  set { c with pos := stop }
  pure (ds.foldl (fun acc b => acc * 10 + (b.toNat - 48)) 0, ds.length)

/-- A number from its parts: sign, integer, fraction and exponent. -/
def numberOf (positive : Bool) (intPart : Nat) (frac : Option (Nat × Nat))
    (expo : Option Int) : JsonRead JsonNumber := do
  match frac, expo with
  | none, none =>
    if intPart < Nat.pow 2 64 then
      if positive then pure (.nat intPart)
      else if intPart == 0 then pure (.float (-0.0))
      else if intPart ≤ Nat.pow 2 63 then pure (.neg (-(intPart : Int)))
      else pure (.float (-(Decimal.ofDecimal intPart 0)))
    else
      let x := Decimal.ofDecimal intPart 0
      if x.isInf then fail .numberOutOfRange
      else pure (.float (if positive then x else -x))
  | _, _ =>
    let (fv, fl) := frac.getD (0, 0)
    let m := intPart * Nat.pow 10 fl + fv
    let e := expo.getD 0 - fl
    let x := Decimal.ofDecimal m e
    if x.isInf then fail .numberOutOfRange
    else pure (.float (if positive then x else -x))

/-- Reads a number whose sign, if any, was taken. -/
def number (positive : Bool) : JsonRead JsonNumber := do
  match ← next with
  | none => fail .eofValue
  | some b =>
    if !isDigitByte b then fail .invalidNumber
    else
      let intPart ←
        if b == 48 then do
          match ← peek with
          | some d => if isDigitByte d then failAhead .invalidNumber else pure 0
          | none => pure 0
        else do
          let (v, n) ← digits
          pure ((b.toNat - 48) * Nat.pow 10 n + v)
      let frac ← do
        match ← peek with
        | some 46 => do
          eat
          let (v, n) ← digits
          if n == 0 then
            match ← peek with
            | some _ => failAhead .invalidNumber
            | none => failAhead .eofValue
          else pure (some (v, n))
        | _ => pure none
      let expo ← do
        match ← peek with
        | some e =>
          if e == 101 || e == 69 then do
            eat
            let neg ← do
              match ← peek with
              | some 43 => do eat; pure false
              | some 45 => do eat; pure true
              | _ => pure false
            match ← next with
            | none => fail .eofValue
            | some d =>
              if !isDigitByte d then fail .invalidNumber
              else
                let c ← get
                let stop := skipDigits c.bytes c.pos
                let ds := d :: (c.bytes.extract c.pos stop).toList
                -- an exponent past the 32-bit range: refused for a nonzero value going up,
                -- zero otherwise
                let rec scan : List UInt8 → Nat → Nat → Option Nat
                  | [], acc, _ => some acc
                  | x :: xs, acc, i =>
                    let acc' := acc * 10 + (x.toNat - 48)
                    if acc' > 2147483647 then none else scan xs acc' (i + 1)
                match scan ds 0 0 with
                | some v =>
                  set { c with pos := stop }
                  pure (some (if neg then -(v : Int) else v))
                | none =>
                  -- find how many digits fit before the overflow
                  let rec fits : List UInt8 → Nat → Nat → Nat
                    | [], _, n => n
                    | x :: xs, acc, n =>
                      let acc' := acc * 10 + (x.toNat - 48)
                      if acc' > 2147483647 then n else fits xs acc' (n + 1)
                  let k := fits ds 0 0
                  let (fv, _) := (frac.getD (0, 0))
                  if !neg && (intPart != 0 || fv != 0) then
                    set { c with pos := c.pos + k }
                    fail .numberOutOfRange
                  else
                    set { c with pos := stop }
                    pure (some (if neg then -(Int.pow 10 400) else 0))
          else pure none
        | none => pure none
      numberOf positive intPart frac expo

/-- Skips a number whose sign, if any, was taken, without checking its range. -/
def skipNumber : JsonRead Unit := do
  let b ← next
  match b with
  | some 48 =>
    match ← peek with
    | some d => if isDigitByte d then failAhead .invalidNumber
    | none => pure ()
  | some d =>
    if 49 ≤ d && d ≤ 57 then do let _ ← digits; pure ()
    else fail .invalidNumber
  | none => fail .invalidNumber
  match ← peek with
  | some 46 => do
    eat
    let (_, n) ← digits
    if n == 0 then failAhead .invalidNumber
    match ← peek with
    | some e => if e == 101 || e == 69 then skipExponent
    | none => pure ()
  | some e => if e == 101 || e == 69 then skipExponent
  | none => pure ()
where
  /-- Skips an exponent from its `e`. -/
  skipExponent : JsonRead Unit := do
    eat
    match ← peek with
    | some 43 | some 45 => eat
    | _ => pure ()
    match ← next with
    | some d => if !isDigitByte d then fail .invalidNumber
    | none => fail .invalidNumber
    let _ ← digits
    pure ()

/-- Enters one more level of nesting, refusing past the limit. -/
def enter : JsonRead Unit := do
  let c ← get
  if c.depth ≤ 1 then failAhead .recursionLimit
  set { c with depth := c.depth - 1 }

/-- Leaves a level of nesting. -/
def leave : JsonRead Unit := modify fun c => { c with depth := c.depth + 1 }

/-- Closes an array: a `]`, else a trailing comma or trailing characters. -/
def endArray : JsonRead Unit := do
  match ← blank with
  | some 93 => eat
  | some 44 => do
    eat
    match ← blank with
    | some 93 => failAhead .trailingComma
    | _ => failAhead .trailingCharacters
  | some _ => failAhead .trailingCharacters
  | none => failAhead .eofList

/-- Closes an object: a `}`, else a trailing comma or trailing characters. -/
def endObject : JsonRead Unit := do
  match ← blank with
  | some 125 => eat
  | some 44 => failAhead .trailingComma
  | some _ => failAhead .trailingCharacters
  | none => failAhead .eofObject

/-- Moves to the next item of an array: whether one follows. -/
def nextItem (first : Bool) : JsonRead Bool := do
  let peeked ← do
    match ← blank with
    | some 93 => pure none
    | some 44 =>
      if first then pure (some (some 44))
      else do eat; pure (some (← blank))
    | some b => if first then pure (some (some b)) else failAhead .expectedListCommaOrEnd
    | none => failAhead .eofList
  match peeked with
  | none => pure false
  | some (some 93) => failAhead .trailingComma
  | some (some _) => pure true
  | some none => failAhead .eofValue

/-- Moves to the next member of an object and reads its name: `none` at the end. -/
def nextKey (first : Bool) (fuel : Nat) : JsonRead (Option String) := do
  let peeked ← do
    match ← blank with
    | some 125 => pure none
    | some 44 =>
      if first then pure (some (some 44))
      else do eat; pure (some (← blank))
    | some b => if first then pure (some (some b)) else failAhead .expectedObjectCommaOrEnd
    | none => failAhead .eofObject
  match peeked with
  | none => pure none
  | some (some 34) => do eat; pure (some (← str "" fuel))
  | some (some 125) => failAhead .trailingComma
  | some (some _) => failAhead .keyMustBeString
  | some none => failAhead .eofValue

/-- Reads the colon between a member's name and value. -/
def colon : JsonRead Unit := do
  match ← blank with
  | some 58 => eat
  | some _ => failAhead .expectedColon
  | none => failAhead .eofObject

mutual

/-- Reads any value. With `track`, a fault inside an item or member gets its index or name on
its path. -/
def value (track : Bool) : Nat → JsonRead Json
  | 0 => fail .recursionLimit
  | fuel + 1 => placed do
    match ← blank with
    | none => failAhead .eofValue
    | some b =>
      if b == 110 then do eat; ident [117, 108, 108]; pure .null
      else if b == 116 then do eat; ident [114, 117, 101]; pure (.bool true)
      else if b == 102 then do eat; ident [97, 108, 115, 101]; pure (.bool false)
      else if b == 45 then do eat; pure (.num (← number false))
      else if isDigitByte b then do pure (.num (← number true))
      else if b == 34 then do eat; pure (.str (← str "" fuel))
      else if b == 91 then do
        enter
        eat
        let items ← itemsOf track 0 true fuel
        leave
        endArray
        pure (.arr items)
      else if b == 123 then do
        enter
        eat
        let members ← membersOf track true fuel
        leave
        endObject
        pure (.obj members)
      else failAhead .expectedValue

/-- Reads the items of an array up to its end. -/
def itemsOf (track : Bool) (index : Nat) (first : Bool) : Nat → JsonRead (List Json)
  | 0 => fail .recursionLimit
  | fuel + 1 => do
    let item : JsonRead (Option Json) := do
      if ← nextItem first then pure (some (← value track fuel)) else pure none
    match ← tracked track (.item index) item with
    | some v =>
      let rest ← itemsOf track (index + 1) false fuel
      pure (v :: rest)
    | none => pure []

/-- Reads the members of an object up to its end. -/
def membersOf (track : Bool) (first : Bool) : Nat → JsonRead (List (String × Json))
  | 0 => fail .recursionLimit
  | fuel + 1 => do
    match ← nextKey first fuel with
    | none => pure []
    | some k =>
      let v ← tracked track (.member k) (do colon; value track fuel)
      let rest ← membersOf track false fuel
      pure ((k, v) :: rest)

end

/-- Skips any value without building it and without checking number ranges. -/
def skipValue : Nat → JsonRead Unit
  | 0 => fail .recursionLimit
  | fuel + 1 => do
    match ← blank with
    | none => failAhead .eofValue
    | some b =>
      if b == 110 then do eat; ident [117, 108, 108]
      else if b == 116 then do eat; ident [114, 117, 101]
      else if b == 102 then do eat; ident [97, 108, 115, 101]
      else if b == 45 then do eat; skipNumber
      else if isDigitByte b then skipNumber
      else if b == 34 then do eat; skipStr fuel
      else if b == 91 || b == 123 then do
        eat
        skipInside (if b == 91 then 93 else 125) true fuel
      else failAhead .expectedValue
where
  /-- Skips the inside of an array or object up to and with its closing byte. -/
  skipInside (close : UInt8) (first : Bool) : Nat → JsonRead Unit
    | 0 => fail .recursionLimit
    | fuel + 1 => do
      match ← blank with
      | none => failAhead (if close == 93 then .eofList else .eofObject)
      | some b =>
        if b == close then eat
        else if !first && b != 44 then
          failAhead (if close == 93 then .expectedListCommaOrEnd else .expectedObjectCommaOrEnd)
        else do
          if !first then eat
          if close == 125 then do
            match ← blank with
            | some 34 => eat
            | some _ => failAhead .keyMustBeString
            | none => failAhead .eofObject
            skipStr fuel
            match ← blank with
            | some 58 => eat
            | some _ => failAhead .expectedColon
            | none => failAhead .eofObject
          skipValue fuel
          skipInside close false fuel

/-- Checks that only blanks are left. -/
def finish : JsonRead Unit := do
  match ← blank with
  | some _ => failAhead .trailingCharacters
  | none => pure ()

/-- Runs a reading from the start of a text, with a fresh nesting budget. -/
def runOn {α : Type} (act : Nat → JsonRead α) (text : ByteArray) : Except JsonError α :=
  (StateT.run (ExceptT.run (act (text.size + 2))) ⟨text, 0, 128⟩).1

end JsonRead

/-- Reads a whole JSON text as a value, refusing anything after it. -/
def Json.parse (text : String) : Except JsonError Json :=
  JsonRead.runOn (fun fuel => do
    let v ← JsonRead.value false fuel
    JsonRead.finish
    pure v) text.toUTF8

end Payout
