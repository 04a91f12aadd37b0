import Payout.Decimal.Binary

/-!
# Signed 64-bit quantities

Identifiers, profits and amounts are integers of 64 bits. They are kept as `Int` inside the
range `[-2^63, 2^63)`; sums saturate at the ends of the range, and a double converts to such
an integer only when its whole part lies in the range.
-/

namespace Payout

/-- The least 64-bit integer, `-2^63`. -/
def minWord : Int := -(Int.pow 2 63)

/-- The greatest 64-bit integer, `2^63 - 1`. -/
def maxWord : Int := Int.pow 2 63 - 1

/-- Whether an integer fits in 64 bits. -/
def fitsWord (x : Int) : Bool := minWord ≤ x && x ≤ maxWord

/-- Clamps an integer into the 64-bit range. -/
def clampWord (x : Int) : Int := max minWord (min maxWord x)

/-- Addition that stops at the ends of the 64-bit range. -/
def satAdd (a b : Int) : Int := clampWord (a + b)

/-- Subtraction that stops at the ends of the 64-bit range. -/
def satSub (a b : Int) : Int := clampWord (a - b)

/-- The nearest double to an integer, ties to even. -/
def wordToFloat (x : Int) : Float :=
  if x ≥ 0 then Float.ofScientific x.toNat false 0 else -(Float.ofScientific x.natAbs false 0)

/-- The whole part of a double (cut toward zero) when the double lies in `[-2^63, 2^63)`;
NaN and the infinities have none. -/
def floatToWord? (x : Float) : Option Int :=
  match Decimal.read x with
  | .finite b =>
    let t := b.truncate
    if Decimal.cmpScaled b.mantissa b.exponent 0 (Nat.pow 2 63) 0 0 != .lt && !b.negative then none
    else if b.negative && Decimal.cmpScaled b.mantissa b.exponent 0 (Nat.pow 2 63) 0 0 == .gt then none
    else some t
  | _ => none

/-- The whole part of a double (cut toward zero) when the double lies in `(-1, 2^64)`. -/
def floatToSize? (x : Float) : Option Nat :=
  match Decimal.read x with
  | .finite b =>
    if b.negative then
      if Decimal.cmpScaled b.mantissa b.exponent 0 1 0 0 == .lt then some 0 else none
    else if Decimal.cmpScaled b.mantissa b.exponent 0 (Nat.pow 2 64) 0 0 == .lt then
      some b.truncate.toNat
    else none
  | _ => none

end Payout
