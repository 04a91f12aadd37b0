import Payout.Decimal.Binary

/-!
# Reading doubles from text

The decimal grammar of a double: an optional sign, then `inf`, `infinity` or `nan` in any
case, or digits with an optional point and fraction (at least one digit in all) and an
optional exponent `e` or `E` with its own sign. No blanks and no digit separators. The value
is the double nearest to the decimal, ties to even.
-/

namespace Payout.Decimal

/-- The double nearest to `m * 10 ^ e`. Exponents far outside the range of doubles go
straight to infinity or zero, so no huge power is ever formed. -/
def ofDecimal (m : Nat) (e : Int) : Float :=
  if m == 0 then 0.0
  else
    let len : Int := (toString m).length
    if len + e > 310 then Float.ofScientific 1 false 400
    else if len + e < -330 then 0.0
    else Float.ofScientific m (e < 0) e.natAbs

/-- Splits a leading run of decimal digits off. -/
def spanDigits (cs : List Char) : List Char × List Char :=
  (cs.takeWhile Char.isDigit, cs.dropWhile Char.isDigit)

/-- The natural number written by a list of decimal digits. -/
def natOfDigits (ds : List Char) : Nat :=
  ds.foldl (fun acc c => acc * 10 + (c.toNat - '0'.toNat)) 0

/-- Reads the unsigned part of a decimal: digits, point, fraction and exponent. -/
def readUnsigned (cs : List Char) : Option Float :=
  let lower := cs.map Char.toLower
  if lower == "inf".toList || lower == "infinity".toList then some (Float.ofScientific 1 false 400)
  else if lower == "nan".toList then some (0.0 / 0.0)
  else
    let (intPart, rest) := spanDigits cs
    let (fracPart, rest) :=
      match rest with
      | '.' :: r => spanDigits r
      | r => ([], r)
    if intPart.isEmpty && fracPart.isEmpty then none
    else
      let expo : Option Int :=
        match rest with
        | [] => some 0
        | c :: r =>
          if c == 'e' || c == 'E' then
            let (neg, r) := match r with
              | '+' :: r' => (false, r')
              | '-' :: r' => (true, r')
              | r' => (false, r')
            let (ds, tail) := spanDigits r
            if ds.isEmpty || !tail.isEmpty then none
            else
              let v : Int := natOfDigits ds
              some (if neg then -v else v)
          else none
      match expo with
      | none => none
      | some e => some (ofDecimal (natOfDigits (intPart ++ fracPart)) (e - fracPart.length))

/-- Reads a double from text by the grammar above, or fails. -/
def parseFloat (s : String) : Option Float :=
  match s.toList with
  | '-' :: r => (readUnsigned r).map (fun x => -x)
  | '+' :: r => readUnsigned r
  | r => readUnsigned r

end Payout.Decimal
