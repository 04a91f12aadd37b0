import Payout.Decimal.Binary

/-!
# Writing doubles as text

Three written forms of a double, all built from the exact digits of `Payout.Decimal.Binary`:

* `display`: the shortest digits that read back, always positional (`1e21` is written with
  all its zeros, `1e-7` as `0.0000001`), with no `.0` on whole numbers;
* `fixed`: the exact binary value rounded to a number of places, ties to even;
* `number`: the shortest digits as a JSON number, positional for magnitudes from `1e-5` up
  to below `1e16` with `.0` on whole numbers, and `1.5e-7` or `1e21` outside that range.

The choices that tell the forms apart are fields of a `Style`, one value per form.
-/

namespace Payout.Decimal

/-- The choices of a printer of shortest digits. -/
structure Style where
  /-- Positional notation is used when the value lies in `[10 ^ (kk - 1), 10 ^ kk)` with
  `kk` in this range (ends included); `none` means always. -/
  positional : Option (Int × Int)
  /-- Whether a whole number keeps a `.0`. -/
  pointZero : Bool
  /-- Whether a positive exponent is written with a plus sign: `1e+21`. -/
  exponentPlus : Bool
  /-- How an exact tie between two shortest candidates goes. -/
  tie : Tie
  /-- The text of a NaN. -/
  nan : String
  /-- The text of a positive infinity; a negative one has a minus in front. -/
  infinity : String

/-- The plain text of a double: every digit positional, no `.0`, and `-0` for negative
zero. -/
def Style.plain : Style where
  positional := none
  pointZero := false
  exponentPlus := false
  tie := .awayFromZero
  nan := "NaN"
  infinity := "inf"

/-- JSON numbers: positional from `1e-5` up to below `1e16`, whole numbers with `.0`. -/
def Style.json : Style where
  positional := some (-4, 16)
  pointZero := true
  exponentPlus := false
  tie := .toEven
  nan := "NaN"
  infinity := "inf"

/-- `n` zeros. -/
def zeros (n : Nat) : String := String.ofList (List.replicate n '0')

/-- The decimal digits of a natural number. -/
def digitsOf (n : Nat) : String := toString n

/-- Writes `d * 10 ^ k` positionally; `pointZero` adds `.0` to a whole number. -/
def positionalText (d : Nat) (k : Int) (pointZero : Bool) : String :=
  let s := digitsOf d
  if k ≥ 0 then
    s ++ zeros k.toNat ++ (if pointZero then ".0" else "")
  else
    let len := s.length
    let frac := (-k).toNat
    if len > frac then
      String.ofList (s.toList.take (len - frac)) ++ "." ++ String.ofList (s.toList.drop (len - frac))
    else
      "0." ++ zeros (frac - len) ++ s

/-- Writes `d * 10 ^ k` as `d.ddd` and an exponent, which has a plus sign if it is positive
and `plus` is set: `1e21` or `1e+21`, and `1.5e-7`. -/
def exponentText (d : Nat) (k : Int) (plus : Bool) : String :=
  let s := digitsOf d
  let e := k + s.length - 1
  let mant :=
    match s.toList with
    | [c] => String.singleton c
    | c :: rest => String.singleton c ++ "." ++ String.ofList rest
    | [] => "0"
  mant ++ "e" ++ (if plus && e > 0 then "+" else "") ++ toString e

/-- The text of a finite nonnegative value under a style. -/
def Style.magnitude (st : Style) (b : Binary) : String :=
  if b.isZero then (if st.pointZero then "0.0" else "0")
  else
    let sci := b.shortest st.tie
    let kk := sci.exponent + (digitsOf sci.digits).length
    match st.positional with
    | none => positionalText sci.digits sci.exponent st.pointZero
    | some (lo, hi) =>
      if lo ≤ kk && kk ≤ hi then positionalText sci.digits sci.exponent st.pointZero
      else exponentText sci.digits sci.exponent st.exponentPlus

/-- Writes a double under a style. -/
def Style.write (st : Style) (x : Float) : String :=
  match read x with
  | .nan => st.nan
  | .infinite neg => (if neg then "-" else "") ++ st.infinity
  | .finite b => (if b.negative then "-" else "") ++ st.magnitude b

/-- The plain text of a double: `100`, `0.1`, `-0`, `1000000000000000000000`, `NaN`. -/
def display (x : Float) : String := Style.plain.write x

/-- The JSON text of a finite double: `100.0`, `0.125`, `1e21`, `1e-7`, `-0.0`. -/
def number (x : Float) : String := Style.json.write x

/-- The plain text with a decimal point always present on finite values: `5.0`, `1.5`,
`1000000000000000000000.0`. -/
def displayPointed (x : Float) : String :=
  let s := display x
  match read x with
  | .finite _ => if s.toList.contains '.' then s else s ++ ".0"
  | _ => s

/-- The exact binary value rounded to `places` decimals, ties to even, every digit written;
a negative value keeps its minus also when it rounds to zero (`-0.00`). -/
def fixed (places : Nat) (x : Float) : String :=
  match read x with
  | .nan => "NaN"
  | .infinite neg => if neg then "-inf" else "inf"
  | .finite b =>
    let n := b.roundPlaces places .toEven
    let s := digitsOf n
    let s := if s.length < places + 1 then zeros (places + 1 - s.length) ++ s else s
    let whole := String.ofList (s.toList.take (s.length - places))
    let frac := String.ofList (s.toList.drop (s.length - places))
    (if b.negative then "-" else "") ++ whole ++ (if places == 0 then "" else "." ++ frac)

end Payout.Decimal
