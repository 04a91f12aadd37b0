/-!
# Doubles as exact numbers

A double is a NaN, an infinity, or a finite value `± m * 2 ^ q` with a natural significand
`m`. This module reads the three apart from the bits, compares scaled naturals exactly, and
gives the interval of reals that round to a finite value, which is what every printer of
the shortest digits works from.
-/

namespace Payout.Decimal

/-- A finite double as sign, natural significand and binary exponent: `± m * 2 ^ q`. -/
structure Binary where
  negative : Bool
  mantissa : Nat
  exponent : Int
deriving DecidableEq, Inhabited

/-- The three kinds of double. -/
inductive Reading where
  | nan
  | infinite (negative : Bool)
  | finite (value : Binary)
deriving DecidableEq, Inhabited

/-- Reads a double from its bits: 11 exponent bits, 52 fraction bits and a sign. -/
def read (x : Float) : Reading :=
  let bits : Nat := x.toBits.toNat
  let negative : Bool := bits / Nat.pow 2 63 % 2 == 1
  let biased : Nat := bits / Nat.pow 2 52 % 2048
  let fraction : Nat := bits % Nat.pow 2 52
  if biased == 2047 then
    if fraction == 0 then .infinite negative else .nan
  else if biased == 0 then
    .finite ⟨negative, fraction, -1074⟩
  else
    .finite ⟨negative, fraction + Nat.pow 2 52, (biased : Int) - 1075⟩

/-- Compares `a * 2 ^ p * 10 ^ r` with `b * 2 ^ s * 10 ^ t` exactly, by first dividing both
by the smaller powers. -/
def cmpScaled (a : Nat) (p r : Int) (b : Nat) (s t : Int) : Ordering :=
  let p0 := min p s
  let r0 := min r t
  compare (a * Nat.pow 2 (p - p0).toNat * Nat.pow 10 (r - r0).toNat)
    (b * Nat.pow 2 (s - p0).toNat * Nat.pow 10 (t - r0).toNat)

/-- The quotient and remainder of `m * 2 ^ q * 10 ^ e` by one, as a natural fraction
`num / den`: the value as a fraction with both parts natural. -/
def fraction (m : Nat) (q e : Int) : Nat × Nat :=
  (m * Nat.pow 2 q.toNat * Nat.pow 10 e.toNat, Nat.pow 2 (-q).toNat * Nat.pow 10 (-e).toNat)

namespace Binary

/-- Whether the value is zero (of either sign). -/
def isZero (b : Binary) : Bool := b.mantissa == 0

/-- The ends of the interval of reals that round to the value, in units of `2 ^ (q - 2)`:
the midpoints to the two neighbouring doubles. Below the smallest significand of a binade
the gap is half as wide. -/
def bounds (b : Binary) : Nat × Nat :=
  let below := if b.mantissa == Nat.pow 2 52 && b.exponent > -1074 then 1 else 2
  (4 * b.mantissa - below, 4 * b.mantissa + 2)

/-- The ends of the rounding interval belong to it exactly when the significand is even,
since a tie rounds to the even significand. -/
def closed (b : Binary) : Bool := b.mantissa % 2 == 0

/-- Whether `c * 10 ^ k` rounds to this (nonzero) value. -/
def holds (b : Binary) (c : Nat) (k : Int) : Bool :=
  let (lo, hi) := b.bounds
  let e := b.exponent - 2
  let above := cmpScaled c 0 k lo e 0
  let below := cmpScaled c 0 k hi e 0
  if b.closed then above != .lt && below != .gt else above == .gt && below == .lt

/-- The largest `E` with `10 ^ E ≤ m * 2 ^ q`, for a nonzero value: an estimate from the
bit length, corrected by exact comparison. -/
def decimalExponent (b : Binary) : Int :=
  let guess : Int := Int.fdiv ((((Nat.log2 b.mantissa : Nat) : Int) + b.exponent) * 30103) 100000
  let down := if cmpScaled 1 0 guess b.mantissa b.exponent 0 == .gt then guess - 1 else guess
  let down2 := if cmpScaled 1 0 down b.mantissa b.exponent 0 == .gt then down - 1 else down
  let up := if cmpScaled 1 0 (down2 + 1) b.mantissa b.exponent 0 != .gt then down2 + 1 else down2
  if cmpScaled 1 0 (up + 1) b.mantissa b.exponent 0 != .gt then up + 1 else up

/-- The integer part and exactness of `m * 2 ^ q / 10 ^ k`. -/
def quotient (b : Binary) (k : Int) : Nat × Bool :=
  let (num, den) := fraction b.mantissa b.exponent (-k)
  (num / den, num % den == 0)

end Binary

/-- How a printer settles an exact tie between two candidates. -/
inductive Tie where
  | toEven
  | awayFromZero
deriving DecidableEq, Inhabited

/-- Rounds `num / den` to an integer; a half goes as `t` says. -/
def roundDiv (num den : Nat) (t : Tie) : Nat :=
  let q := num / den
  let r := num % den
  match compare (2 * r) den, t with
  | .lt, _ => q
  | .gt, _ => q + 1
  | .eq, .awayFromZero => q + 1
  | .eq, .toEven => if q % 2 == 0 then q else q + 1

/-- A decimal `digits * 10 ^ exponent`; `digits` ends in no zero unless it is zero. -/
structure Scientific where
  digits : Nat
  exponent : Int
deriving DecidableEq, Inhabited

/-- Drops trailing zeros of the digits into the exponent. -/
def Scientific.normalize : Nat → Int → Nat → Scientific
  | d, e, 0 => ⟨d, e⟩
  | d, e, fuel + 1 =>
    if d != 0 && d % 10 == 0 then Scientific.normalize (d / 10) (e + 1) fuel else ⟨d, e⟩

/-- The decimal of `n` significant digits nearest to the value among those that round to it,
if there is one: the two grid points around the value are the only candidates, since the
rounding interval is convex and holds the value. -/
def Binary.onGrid (b : Binary) (t : Tie) (n : Nat) : Option (Nat × Int) :=
  let k := b.decimalExponent + 1 - n
  let (c, exact) := b.quotient k
  if exact then some (c, k)
  else
    let lower := b.holds c k
    let upper := b.holds (c + 1) k
    if lower && upper then
      match cmpScaled b.mantissa (b.exponent + 1) 0 (2 * c + 1) 0 k with
      | .lt => some (c, k)
      | .gt => some (c + 1, k)
      | .eq =>
        match t with
        | .awayFromZero => some (c + 1, k)
        | .toEven => if c % 2 == 0 then some (c, k) else some (c + 1, k)
    else if lower then some (c, k)
    else if upper then some (c + 1, k)
    else none

/-- Tries grids of 1, 2, … digits; seventeen digits always suffice for a double. -/
def Binary.searchGrids (b : Binary) (t : Tie) : Nat → Nat → Option (Nat × Int)
  | _, 0 => none
  | n, fuel + 1 =>
    match b.onGrid t n with
    | some r => some r
    | none => b.searchGrids t (n + 1) fuel

/-- The shortest decimal that reads back as the value, and of those the nearest; an exact tie
between two goes as `t` says. Zero is `0 * 10 ^ 0`. -/
def Binary.shortest (b : Binary) (t : Tie) : Scientific :=
  if b.isZero then ⟨0, 0⟩
  else
    match b.searchGrids t 1 17 with
    | some (c, k) => Scientific.normalize c k 30
    | none =>
      let k := b.decimalExponent - 16
      Scientific.normalize (b.quotient k).1 k 30

/-- The value rounded to `places` decimals, as a natural count of units of `10 ^ -places`;
a tie goes as `t` says. -/
def Binary.roundPlaces (b : Binary) (places : Nat) (t : Tie) : Nat :=
  let (num, den) := fraction b.mantissa b.exponent places
  roundDiv num den t

/-- The value rounded toward zero to an integer, with its sign. -/
def Binary.truncate (b : Binary) : Int :=
  let (num, den) := fraction b.mantissa b.exponent 0
  if b.negative then -((num / den : Nat) : Int) else ((num / den : Nat) : Int)

/-- Whether the value is a whole number. -/
def Binary.isIntegral (b : Binary) : Bool :=
  let (num, den) := fraction b.mantissa b.exponent 0
  num % den == 0

end Payout.Decimal
