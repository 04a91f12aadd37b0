import Payout.Database.Number
import Payout.Database.Token

/-!
# Stored values

A database cell holds one of five storage classes: null, a 64-bit integer, a double, text or
a blob. A column declares a type, and the type gives the column an *affinity* that converts
what is stored into it: text that spells a number becomes a number in a numeric column, and a
number becomes its text in a text column; blobs and nulls are never converted.

This module holds the values, the affinities, the conversions a reader applies when it asks
for an integer, a double or a text, the numeric reading arithmetic applies to text, and the
order in which values compare under a collation: null first, then numbers by value, then
text (by the collation), then blobs by their bytes.
-/

namespace Payout.Database

/-- A stored value. Integers stay inside the 64-bit range; a NaN is never stored (it becomes
null). -/
inductive Value where
  | null
  | integer (i : Int)
  | real (x : Float)
  | text (s : String)
  | blob (bytes : List UInt8)
deriving Inhabited

/-- The conversion a column applies to the values stored into it. -/
inductive Affinity where
  | blob
  | text
  | numeric
  | integer
  | real
deriving DecidableEq, Inhabited

/-- The four-character window of a type name, lower-cased, that decides its affinity. -/
def typeWindow (w : List Char) : String := String.ofList w

/-- The affinity a type name gives, reading it left to right with a window of its last four
characters: `char`, `clob` or `text` give text; `blob` gives blob unless text was seen; `real`,
`floa` or `doub` give real unless text or blob was seen; `int` gives integer and ends the
reading. A name with none of these is numeric. -/
def Affinity.ofTypeName (name : String) : Affinity :=
  go (lowerAscii name).toList [] .numeric
where
  /-- Reads on with the window of the characters read so far. -/
  go : List Char → List Char → Affinity → Affinity
    | [], _, a => a
    | c :: cs, w, a =>
      let w := (w ++ [c]).drop (if w.length ≥ 4 then 1 else 0)
      let s := typeWindow w
      if s == "char" || s == "clob" || s == "text" then go cs w .text
      else if s == "blob" && (a == .numeric || a == .real) then go cs w .blob
      else if (s == "real" || s == "floa" || s == "doub") && a == .numeric then go cs w .real
      else if s.endsWith "int" then .integer
      else go cs w a

/-- The affinity of a column's declared type: a column without a type has blob affinity. -/
def Affinity.ofDeclared (declared : String) : Affinity :=
  if declared.isEmpty then .blob else Affinity.ofTypeName declared

/-- Whether the affinity converts text to numbers. -/
def Affinity.isNumeric : Affinity → Bool
  | .numeric | .integer | .real => true
  | _ => false

/-! ### Text of values -/

/-- The bytes of text in UTF-8. -/
def utf8Bytes (s : String) : List UInt8 := s.toUTF8.toList

/-- Text of bytes read as UTF-8; bytes that are no UTF-8 become replacement characters. -/
def textOfBytes (bs : List UInt8) : String :=
  match String.fromUTF8? (ByteArray.mk bs.toArray) with
  | some s => s
  | none => String.ofList (go bs)
where
  /-- Decodes byte by byte, replacing what cannot be decoded. -/
  go : List UInt8 → List Char
    | [] => []
    | b :: rest =>
      let n := b.toNat
      let width := if n < 0x80 then 1 else if n / 32 == 6 then 2 else if n / 16 == 14 then 3
        else if n / 8 == 30 then 4 else 0
      if width == 0 then '�' :: go rest
      else
        match String.fromUTF8? (ByteArray.mk ((b :: rest).take width).toArray) with
        | some s => s.toList ++ go (rest.drop (width - 1))
        | none => '�' :: go rest
  termination_by bs => bs.length
  decreasing_by
    all_goals
      simp only [List.length_cons, List.length_drop]
      omega

/-- The text a value reads as: integers in decimal, doubles with fifteen significant digits,
blobs as UTF-8, null as empty text. -/
def Value.asText : Value → String
  | .integer i => toString i
  | .real x => realText x
  | .text s => s
  | .blob bs => textOfBytes bs
  | .null => ""

/-- The bytes a value reads as: text in UTF-8, numbers as their text. -/
def Value.asBytes : Value → List UInt8
  | .blob bs => bs
  | .null => []
  | v => utf8Bytes v.asText

/-! ### Numbers of values -/

/-- The value read as a 64-bit integer: doubles are cut toward zero and clamped, text gives
its leading integer, null gives zero. -/
def Value.asInteger : Value → Int
  | .integer i => i
  | .real x => realToInteger x
  | .text s => (readInteger s).1
  | .blob bs => (readInteger (textOfBytes bs)).1
  | .null => 0

/-- The value read as a double: text gives its leading number, null gives zero. -/
def Value.asReal : Value → Float
  | .integer i => wordToFloat i
  | .real x => x
  | .text s => (readReal s).1
  | .blob bs => (readReal (textOfBytes bs)).1
  | .null => 0.0

/-- The number text stands for in arithmetic: an integer when it reads as one that fits,
else a double. -/
def numberOfTextForArithmetic (s : String) : Value :=
  let (x, shape) := readReal s
  match shape with
  | .none | .prefixOnly =>
    let (i, verdict) := readInteger s
    if shape == .none && (verdict == .fits || verdict == .extra) then .integer i else .real x
  | .whole =>
    let (i, verdict) := readInteger s
    if verdict == .fits then .integer i else .real x
  | .real => .real x

/-- The number a value stands for in arithmetic: numbers as they are, text and blobs by
their leading number; null stays null. -/
def Value.numeric : Value → Value
  | .text s => numberOfTextForArithmetic s
  | .blob bs => numberOfTextForArithmetic (textOfBytes bs)
  | v => v

/-- Whether the value is null. -/
def Value.isNull : Value → Bool
  | .null => true
  | _ => false

/-- The number numeric text stands for, when the whole text (blanks apart) is a number: an
integer when it is written as a whole number that fits in 64 bits, else a double. -/
def numericTextValue? (s : String) : Option Value :=
  let (x, shape) := readReal s
  match shape with
  | .whole =>
    let (i, verdict) := readInteger s
    if verdict == .fits then some (.integer i) else some (.real x)
  | .real => some (.real x)
  | _ => none

/-- Applies a column's affinity to a value stored into it. Numeric affinities turn numeric
text into numbers and whole doubles into integers (real affinity keeps doubles); text
affinity turns numbers into their text. -/
def Value.withAffinity (a : Affinity) (v : Value) : Value :=
  match a, v with
  | .text, .integer _ | .text, .real _ => .text v.asText
  | .real, .integer i => .real (wordToFloat i)
  | .real, .text s =>
    match numericTextValue? s with
    | some (.integer i) => .real (wordToFloat i)
    | some (.real x) => .real x
    | _ => v
  | .numeric, .text s | .integer, .text s =>
    match numericTextValue? s with
    | some (.real x) =>
      match realAsInteger? x with
      | some i => .integer i
      | none => .real x
    | some n => n
    | none => v
  | .numeric, .real x | .integer, .real x =>
    match realAsInteger? x with
    | some i => .integer i
    | none => v
  | _, _ => v

/-- The value as a comparison with a numeric operand sees it: numeric text becomes a
number (whole doubles staying doubles). -/
def Value.numericForComparison : Value → Value
  | .text s =>
    match numericTextValue? s with
    | some n => n
    | none => .text s
  | v => v

/-- The truth of a value in a condition: `none` for null, else whether its number is not
zero. -/
def Value.truth : Value → Option Bool
  | .null => none
  | .integer i => some (i != 0)
  | .real x => some (x != 0.0)
  | v => some (v.asReal != 0.0)

/-! ### Order -/

/-- The collations: byte order, byte order with ASCII case folded, and byte order with
trailing spaces ignored. -/
inductive Collation where
  | binary
  | nocase
  | rtrim
deriving DecidableEq, Inhabited

/-- The collation a name gives, ignoring ASCII case. -/
def Collation.ofName? (name : String) : Option Collation :=
  let n := lowerAscii name
  if n == "binary" then some .binary
  else if n == "nocase" then some .nocase
  else if n == "rtrim" then some .rtrim
  else none

/-- The name of a collation. -/
def Collation.name : Collation → String
  | .binary => "BINARY"
  | .nocase => "NOCASE"
  | .rtrim => "RTRIM"

/-- Compares two texts under a collation. -/
def Collation.compare (c : Collation) (a b : String) : Ordering :=
  match c with
  | .binary => Ord.compare a b
  | .nocase => Ord.compare (lowerAscii a) (lowerAscii b)
  | .rtrim =>
    let trim := fun (s : String) => String.ofList (s.toList.reverse.dropWhile (· == ' ')).reverse
    Ord.compare (trim a) (trim b)

/-- Compares an integer with a double exactly. -/
def cmpIntegerReal (i : Int) (x : Float) : Ordering :=
  match Decimal.read x with
  | .nan => .gt
  | .infinite neg => if neg then .gt else .lt
  | .finite b =>
    let mag := i.natAbs
    if i ≥ 0 && !b.negative then Decimal.cmpScaled mag 0 0 b.mantissa b.exponent 0
    else if i < 0 && b.negative then Decimal.cmpScaled b.mantissa b.exponent 0 mag 0 0
    else if i ≥ 0 then
      if i == 0 && b.isZero then .eq else .gt
    else .lt

/-- Compares two doubles that are not NaN. -/
def cmpReal (x y : Float) : Ordering :=
  if x < y then .lt else if x == y then .eq else .gt

/-- Compares two byte strings: by their bytes, a prefix first. -/
def cmpBytes : List UInt8 → List UInt8 → Ordering
  | [], [] => .eq
  | [], _ => .lt
  | _, [] => .gt
  | a :: as, b :: bs => if a < b then .lt else if a > b then .gt else cmpBytes as bs

/-- The rank of a storage class in the order of values. -/
def Value.rank : Value → Nat
  | .null => 0
  | .integer _ | .real _ => 1
  | .text _ => 2
  | .blob _ => 3

/-- The order of values under a collation: null, then numbers by value, then text by the
collation, then blobs by their bytes. -/
def Value.compareWith (c : Collation) : Value → Value → Ordering
  | .integer a, .integer b => Ord.compare a b
  | .integer a, .real y => cmpIntegerReal a y
  | .real x, .integer b => (cmpIntegerReal b x).swap
  | .real x, .real y => cmpReal x y
  | .text s, .text t => c.compare s t
  | .blob a, .blob b => cmpBytes a b
  | a, b => Ord.compare a.rank b.rank

/-- The order of values in byte order. -/
def Value.cmp (a b : Value) : Ordering := Value.compareWith .binary a b

/-- Whether two values are the same for a uniqueness check under a collation: nulls are
never the same. -/
def Value.sameUnder (c : Collation) (a b : Value) : Bool :=
  !a.isNull && !b.isNull && Value.compareWith c a b == .eq

/-- The name of a value's storage class. -/
def Value.typeName : Value → String
  | .null => "null"
  | .integer _ => "integer"
  | .real _ => "real"
  | .text _ => "text"
  | .blob _ => "blob"

end Payout.Database
