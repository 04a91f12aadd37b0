import Payout.Decimal.Nearest
import Payout.Decimal.DoubleDouble
import Payout.Domain.Bounded

/-!
# Numbers in text

How the database reads numbers out of text and writes doubles as text.

*Reading a double.* Leading blanks are skipped, then a sign, digits, a point and digits, an
exponent. At most nineteen or twenty significant digits are kept in a 64-bit significand;
later digits of the whole part only scale it. The significand is scaled by its power of ten
in double-double arithmetic (by `10^100`, `10^10` and `10` in turn) and the pair's two parts
added. The reading also says what shape the text had: a whole number, a
number with a point or an exponent, a number followed by other text, or no number.

*Reading an integer.* Blanks, a sign and digits, clamped to the 64-bit range, with a
verdict: fits, has other text after it, or overflows.

*Writing a double.* The double is scaled to eighteen or nineteen digits in double-double
arithmetic and cut to an integer, whose digits are rounded (half up, on the digits) to
fifteen significant digits; trailing zeros go. Decimal exponents from `-4` to `14` are
written positionally with at least one digit after the point (`100.0`); the others as
`d.ddde+XX`.
-/

namespace Payout.Database

open Decimal

/-- Whether a character is a blank of numeric text: space, tab, line feed, vertical tab, form
feed or carriage return. -/
def isNumericBlank (c : Char) : Bool :=
  c == ' ' || c == '\t' || c == '\n' || c == '\x0b' || c == '\x0c' || c == '\r'

/-- The shape of numeric text. -/
inductive NumericShape where
  /-- No digits, or only a prefix without a point or exponent. -/
  | none
  /-- A number with a point or exponent followed by other text. -/
  | prefixOnly
  /-- The whole text (blanks apart) is a whole number. -/
  | whole
  /-- The whole text (blanks apart) is a number with a point or an exponent. -/
  | real
deriving DecidableEq, Inhabited

/-- The significand limit: digits are taken while the significand stays below this. -/
def significandLimit : Nat := (Nat.pow 2 64 - 1 - 9) / 10

/-- The parts of numeric text: sign, significand, the decimal exponent of its last digit,
the number of digits taken, whether a point or exponent was seen (`kind` counts them from
one), whether the exponent was complete, and the text after the number. -/
structure Numeral where
  negative : Bool
  significand : Nat
  scale : Int
  digits : Nat
  kind : Nat
  exponentValid : Bool
  rest : List Char

/-- Takes digits into the significand; once it reaches the limit, further digits of the
whole part only raise the scale. -/
def wholeDigits : List Char → Nat → Int → Nat → Nat × Int × Nat × List Char
  | [], s, d, n => (s, d, n, [])
  | c :: cs, s, d, n =>
    if c.isDigit then
      let s := s * 10 + (c.toNat - '0'.toNat)
      if s ≥ significandLimit then
        let skipped := cs.takeWhile Char.isDigit
        (s, d + skipped.length, n + 1, cs.drop skipped.length)
      else wholeDigits cs s d (n + 1)
    else (s, d, n, c :: cs)

/-- Takes the digits after the point while the significand has room; the others are read and
dropped. -/
def fractionDigits : List Char → Nat → Int → Nat → Nat × Int × Nat × List Char
  | [], s, d, n => (s, d, n, [])
  | c :: cs, s, d, n =>
    if c.isDigit then
      if s < significandLimit then fractionDigits cs (s * 10 + (c.toNat - '0'.toNat)) (d - 1) (n + 1)
      else fractionDigits cs s d n
    else (s, d, n, c :: cs)

/-- The exponent digits, capped at 10000. -/
def exponentDigits : List Char → Nat → Bool → Nat × Bool × List Char
  | [], e, v => (e, v, [])
  | c :: cs, e, v =>
    if c.isDigit then
      exponentDigits cs (if e < 10000 then e * 10 + (c.toNat - '0'.toNat) else 10000) true
    else (e, v, c :: cs)

/-- Reads the numeral at the start of text, after blanks. -/
def readNumeral (s : String) : Numeral :=
  let cs := s.toList.dropWhile isNumericBlank
  let (neg, cs) := match cs with
    | '-' :: r => (true, r)
    | '+' :: r => (false, r)
    | r => (false, r)
  let (sig, d, n, cs) := wholeDigits cs 0 0 0
  let (sig, d, n, kind, cs) := match cs with
    | '.' :: r =>
      let (sig, d, n, r) := fractionDigits r sig d n
      (sig, d, n, 2, r)
    | r => (sig, d, n, 1, r)
  let (e, valid, kind, cs) : Int × Bool × Nat × List Char := match cs with
    | c :: r =>
      if c == 'e' || c == 'E' then
        let (eneg, r) := match r with
          | '-' :: r' => (true, r')
          | '+' :: r' => (false, r')
          | r' => (false, r')
        let (ev, valid, r) := exponentDigits r 0 false
        (if eneg then -(ev : Int) else ev, valid, kind + 1, r)
      else (0, true, kind, c :: r)
    | [] => (0, true, kind, [])
  let cs := cs.dropWhile isNumericBlank
  ⟨neg, sig, e + d, n, kind, valid, cs⟩

/-- The shape of numeric text, as the reader judges it. -/
def Numeral.shape (n : Numeral) : NumericShape :=
  if n.rest.isEmpty && n.digits > 0 && n.exponentValid then
    if n.kind == 1 then .whole else .real
  else if n.kind ≥ 2 && (n.kind == 3 || n.exponentValid) && n.digits > 0 then .prefixOnly
  else .none

/-- Moves powers of ten into the significand while it stays below `limit`, and drops
trailing zeros into the exponent. -/
def balance : Nat → Nat → Int → Nat × Int
  | 0, s, e => (s, e)
  | fuel + 1, s, e =>
    if e > 0 && s < (Nat.pow 2 64 - 1) / 10 then balance fuel (s * 10) (e - 1)
    else if e < 0 && s % 10 == 0 then balance fuel (s / 10) (e + 1)
    else (s, e)

/-- The double a numeral denotes. -/
def Numeral.toFloat (n : Numeral) : Float :=
  let x :=
    if n.significand == 0 then 0.0
    else
      let (s, e) := balance 20050 n.significand n.scale
      if e == 0 then floatOfBinary s 0 else scaledDouble s e
  if n.negative then -x else x

/-- Reads a double from text: the value of its leading number (zero when there is none) and
the shape of the text. -/
def readReal (s : String) : Float × NumericShape :=
  let n := readNumeral s
  (n.toFloat, n.shape)

/-- How an integer reading of text ends. -/
inductive IntegerVerdict where
  /-- The text is a whole number that fits in 64 bits. -/
  | fits
  /-- Other text follows the digits, or there are no digits. -/
  | extra
  /-- The number is beyond the 64-bit range. -/
  | overflow
  /-- The number is `9223372036854775808` without a minus sign. -/
  | justOver
deriving DecidableEq, Inhabited

/-- Reads an integer from text: blanks, a sign and digits, clamped to the 64-bit range, with
the verdict on the text. -/
def readInteger (s : String) : Int × IntegerVerdict :=
  let cs := s.toList.dropWhile isNumericBlank
  let (neg, cs) := match cs with
    | '-' :: r => (true, r)
    | '+' :: r => (false, r)
    | r => (false, r)
  let afterZeros := cs.dropWhile (· == '0')
  let ds := afterZeros.takeWhile Char.isDigit
  let rest := afterZeros.drop ds.length
  let u : Nat := ds.foldl (fun a c => a * 10 + (c.toNat - '0'.toNat)) 0
  let v : Int := if neg then -(u : Int) else u
  let noDigits := ds.isEmpty && afterZeros.length == cs.length
  let extra := noDigits || !(rest.all isNumericBlank)
  let base := if extra then IntegerVerdict.extra else .fits
  if ds.length < 19 then (v, base)
  else
    let limit : Nat := Nat.pow 2 63
    if u < limit then (v, base)
    else if u > limit then (if neg then minWord else maxWord, .overflow)
    else if neg then (minWord, base) else (maxWord, .justOver)

/-- The integer a double gives when cut toward zero, clamped to the 64-bit range; a NaN gives
zero. -/
def realToInteger (x : Float) : Int :=
  match read x with
  | .nan => 0
  | .infinite neg => if neg then minWord else maxWord
  | .finite b => clampWord b.truncate

/-- The integer a double equals, when it is a whole number strictly inside the 64-bit range. -/
def realAsInteger? (x : Float) : Option Int :=
  match read x with
  | .finite b =>
    if b.isIntegral then
      let t := b.truncate
      if minWord < t && t < maxWord then some t else none
    else none
  | _ => none

/-! ### Decimal digits of a double -/

/-- The decimal digits of a positive double: a natural whose digits are the significant
digits and the position of the decimal point after the first `n` of them (`iDP`), rounded
as the writer rounds. -/
structure DecimalDigits where
  digits : List Nat
  pointAt : Int
deriving Inhabited

/-- The digits of a natural, most significant first. -/
def natDigits (n : Nat) : List Nat :=
  (Nat.toDigits 10 n).map fun c => c.toNat - '0'.toNat

/-- Adds one to the last of a list of digits (given last first), carrying. -/
def carryDigits : List Nat → List Nat × Bool
  | [] => ([], true)
  | d :: rest =>
    if d == 9 then
      let (r, c) := carryDigits rest
      (0 :: r, c)
    else ((d + 1) :: rest, false)

/-- Adds one to the last digit of a list of digits, carrying; gives whether a new leading
digit was needed. -/
def incrementDigits (ds : List Nat) : List Nat × Bool :=
  let (r, c) := carryDigits ds.reverse
  (r.reverse, c)

/-- The digits of a positive finite double, rounded to `round` significant digits when that
is fewer than it has (or to `most` when it has more than `most`); a nonpositive `round`
counts places after the point instead. Trailing zeros are dropped. -/
def decimalDigits (x : Float) (round : Int) (most : Nat) : DecimalDigits :=
  let (v, e) := decimalScale x
  let ds := natDigits v
  let pointAt : Int := ds.length + e
  -- places after the point become a count of significant digits
  let (ds, pointAt, round) :=
    if round ≤ 0 then
      let k := pointAt - round
      if k == 0 && (ds.head?.getD 0) ≥ 5 then (0 :: ds, pointAt + 1, (1 : Int)) else (ds, pointAt, k)
    else (ds, pointAt, round)
  let (ds, pointAt) :=
    if round > 0 && (round < ds.length || ds.length > most) then
      let k := min round.toNat most
      let kept := ds.take k
      if (ds.getD k 0) ≥ 5 then
        let (up, grew) := incrementDigits kept
        if grew then (1 :: up, pointAt + 1) else (up, pointAt)
      else (kept, pointAt)
    else (ds, pointAt)
  let trimmed := (ds.reverse.dropWhile (· == 0)).reverse
  ⟨trimmed, pointAt⟩

/-- The text of a digit list. -/
def digitText (ds : List Nat) : String := String.ofList (ds.map fun d => Char.ofNat (d + '0'.toNat))

/-- The text of a double as a stored real is shown: fifteen significant digits,
positional for decimal exponents from `-4` to `14` with at least one digit after the point,
`d.ddde±XX` otherwise; infinities are `Inf` and `-Inf`, and zero is `0.0`. -/
def realText (x : Float) : String :=
  match read x with
  | .nan => "NaN"
  | .infinite neg => if neg then "-Inf" else "Inf"
  | .finite b =>
    if b.isZero then "0.0"
    else
      let sign := if b.negative then "-" else ""
      let dd := decimalDigits (if b.negative then -x else x) 15 26
      let ds := if dd.digits.isEmpty then [0] else dd.digits
      let expo := dd.pointAt - 1
      if expo < -4 || expo ≥ 15 then
        let mant := match ds with
          | [d] => digitText [d] ++ ".0"
          | d :: rest => digitText [d] ++ "." ++ digitText rest
          | [] => "0.0"
        let en := expo.natAbs
        sign ++ mant ++ "e" ++ (if expo < 0 then "-" else "+") ++
          (if en < 10 then "0" else "") ++ toString en
      else if dd.pointAt ≤ 0 then
        sign ++ "0." ++ String.ofList (List.replicate (-dd.pointAt).toNat '0') ++ digitText ds
      else
        let p := dd.pointAt.toNat
        if p ≥ ds.length then
          sign ++ digitText ds ++ String.ofList (List.replicate (p - ds.length) '0') ++ ".0"
        else sign ++ digitText (ds.take p) ++ "." ++ digitText (ds.drop p)

end Payout.Database
