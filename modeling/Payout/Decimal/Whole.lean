import Payout.Decimal.Binary

/-!
# Whole numbers of a double

Rounding a double to a whole number, down or to the nearest with halves away from zero, is
exact arithmetic on its significand: for `± m * 2 ^ q` with `q < 0` the whole part is
`m / 2 ^ -q` and the rest `m % 2 ^ -q`. Both functions are written over `Decimal.read`, so
their values compute in the logic like the arithmetic of `Float` itself.

A double with `q ≥ 0`, NaN and the infinities are their own results. Otherwise the result is
below `2 ^ 53` in magnitude and so converts back without rounding, and it keeps the sign of
the argument also when it is zero: the floor of `-0.0` is `-0.0` and `-0.3` rounds to `-0.0`.
-/

namespace Payout.Decimal

/-- The double `± n` for a natural `n`; exact for `n ≤ 2 ^ 53`, and `-0.0` for a negative
zero. -/
def signedWhole (negative : Bool) (n : Nat) : Float :=
  let v := Float.ofScientific n false 0
  if negative then -v else v

/-- The greatest whole number not above the double. -/
def floorToWhole (x : Float) : Float :=
  match read x with
  | .finite b =>
    if b.exponent ≥ 0 then x
    else
      let (num, den) := fraction b.mantissa b.exponent 0
      signedWhole b.negative (if b.negative && num % den != 0 then num / den + 1 else num / den)
  | _ => x

/-- The whole number nearest to the double; a half goes away from zero. -/
def roundToWhole (x : Float) : Float :=
  match read x with
  | .finite b => if b.exponent ≥ 0 then x else signedWhole b.negative (b.roundPlaces 0 .awayFromZero)
  | _ => x

end Payout.Decimal
