import Payout.Decimal.Nearest

/-!
# Double-double scaling

A number held as the unevaluated sum `hi + lo` of two doubles carries about twice the
precision of one double. Multiplying such a pair by a constant given the same way (the
double nearest the constant and the double nearest its error) is Dekker's product: each
factor is split into a high half of 26 significant bits and the rest, so that the partial
products are exact, and the rounding errors are gathered into the low part.

The decimal digits of a double are found by scaling it this way into `[2^63 / 10, 2^63)`,
by `10^∓100`, `10^∓10` and `10^∓1` in turn, and cutting the pair to an integer: nineteen
or so digits, of which the last few may be off by the errors of the products. A decimal
significand and exponent become a double the other way: the significand as a pair, scaled
by its power of ten, the two parts added.

Every step is an operation on doubles, each rounded to nearest, in the order written, so the
digits found are the same wherever the arithmetic is that of binary64.
-/

namespace Payout.Decimal

/-- A number as the sum of two doubles, `hi` the larger. -/
structure DoubleDouble where
  hi : Float
  lo : Float
deriving Inhabited

/-- The high half of a double: its bits with the low 26 cleared, 26 significant bits. -/
def highHalf (x : Float) : Float := Float.ofBits (x.toBits &&& 0xfffffffffc000000)

namespace DoubleDouble

/-- A double, exactly. -/
def ofFloat (x : Float) : DoubleDouble := ⟨x, 0.0⟩

/-- The product by a constant `y + yy`, where `y` is a double and `yy` the double nearest the
error of `y`: the high halves' products are exact, the cross terms and the low parts of both
factors are added in, and the sum is split again into a high and a low double. -/
def mulBy (x : DoubleDouble) (y yy : Float) : DoubleDouble :=
  let hx := highHalf x.hi
  let tx := x.hi - hx
  let hy := highHalf y
  let ty := y - hy
  let p := hx * hy
  let q := hx * ty + tx * hy
  let c := p + q
  let cc := p - c + q + tx * ty
  let cc := x.hi * yy + x.lo * y + cc
  let hi := c + cc
  ⟨hi, c - hi + cc⟩

/-- The integer a pair is cut to: the high part cut toward zero, with the low part (cut
toward zero) added or taken away by its sign. -/
def toNat (x : DoubleDouble) : Nat :=
  if x.lo < 0.0 then x.hi.toUInt64.toNat - (-x.lo).toUInt64.toNat
  else x.hi.toUInt64.toNat + x.lo.toUInt64.toNat

end DoubleDouble

/-! ### Powers of ten as pairs -/

/-- `10^100` and the error of the double nearest it. -/
def tenTo100 : Float × Float := (Float.ofBits 0x54b249ad2594c37d, Float.ofBits 0xd134f4d87b3b31f4)

/-- `10^10`, a double exactly. -/
def tenTo10 : Float × Float := (Float.ofBits 0x4202a05f20000000, 0.0)

/-- `10`, a double exactly. -/
def tenTo1 : Float × Float := (10.0, 0.0)

/-- `10^-100` and the error of the double nearest it. -/
def tenToMinus100 : Float × Float :=
  (Float.ofBits 0x2b2bff2ee48e0530, Float.ofBits 0xa7b42a68781d46c4)

/-- `10^-10` and the error of the double nearest it. -/
def tenToMinus10 : Float × Float :=
  (Float.ofBits 0x3ddb7cdfd9d7bdbb, Float.ofBits 0xba720a5465df8d2c)

/-- `10^-1` and the error of the double nearest it. -/
def tenToMinus1 : Float × Float :=
  (Float.ofBits 0x3fb999999999999a, Float.ofBits 0xbc5999999999999a)

namespace DoubleDouble

/-- The product by a power of ten given as a pair. -/
def mulPow (x : DoubleDouble) (p : Float × Float) : DoubleDouble := x.mulBy p.1 p.2

end DoubleDouble

/-! ### From a double to digits -/

/-- `2^63` less one unit in the last place, the top of the range digits are cut from. -/
def scaleTop : Float := Float.ofBits 0x43dfffffffffffff

/-- Scales a pair above `scaleTop` down to it: by `10^-100` while above `scaleTop · 10^100`,
then by `10^-10` while above `scaleTop · 10^10`, then by `10^-1`; counts the powers of ten. -/
def scaleDown : Nat → DoubleDouble → Int → DoubleDouble × Int
  | 0, r, e => (r, e)
  | fuel + 1, r, e =>
    if r.hi > Float.ofBits 0x58a249ad2594c37c then scaleDown fuel (r.mulPow tenToMinus100) (e + 100)
    else if r.hi > Float.ofBits 0x45f2a05f1fffffff then scaleDown fuel (r.mulPow tenToMinus10) (e + 10)
    else if r.hi > scaleTop then scaleDown fuel (r.mulPow tenToMinus1) (e + 1)
    else (r, e)

/-- Scales a pair up to at least `scaleTop / 10`: by `10^100` while below `scaleTop · 10^-101`,
then by `10^10` while below `scaleTop · 10^-11`, then by `10`; counts the powers of ten (as
negative numbers). -/
def scaleUp : Nat → DoubleDouble → Int → DoubleDouble × Int
  | 0, r, e => (r, e)
  | fuel + 1, r, e =>
    if r.hi < Float.ofBits 0x2ee665bf1d3e6a8c then scaleUp fuel (r.mulPow tenTo100) (e - 100)
    else if r.hi < Float.ofBits 0x4195fd7fe1796495 then scaleUp fuel (r.mulPow tenTo10) (e - 10)
    else if r.hi < Float.ofBits 0x43a9999999999999 then scaleUp fuel (r.mulPow tenTo1) (e - 1)
    else (r, e)

/-- The significant digits of a positive finite double as an integer `v` and a power of ten
`e`, with `v · 10^e` close to the double and `v` of eighteen or nineteen digits. -/
def decimalScale (x : Float) : Nat × Int :=
  let r := DoubleDouble.ofFloat x
  let (r, e) := if x > scaleTop then scaleDown 400 r 0 else scaleUp 400 r 0
  (r.toNat, e)

/-! ### From digits to a double -/

/-- Scales a pair by `10^e`: by `10^±100` while the exponent allows, then by `10^±10`, then
by `10^±1`. -/
def scaleByTen : Nat → DoubleDouble → Int → DoubleDouble
  | 0, r, _ => r
  | fuel + 1, r, e =>
    if e ≥ 100 then scaleByTen fuel (r.mulPow tenTo100) (e - 100)
    else if e ≥ 10 then scaleByTen fuel (r.mulPow tenTo10) (e - 10)
    else if e ≥ 1 then scaleByTen fuel (r.mulPow tenTo1) (e - 1)
    else if e ≤ -100 then scaleByTen fuel (r.mulPow tenToMinus100) (e + 100)
    else if e ≤ -10 then scaleByTen fuel (r.mulPow tenToMinus10) (e + 10)
    else if e ≤ -1 then scaleByTen fuel (r.mulPow tenToMinus1) (e + 1)
    else r

/-- A natural below `2^64` as a pair: the double nearest it, and the difference to that
double as a double. -/
def DoubleDouble.ofNat (s : Nat) : DoubleDouble :=
  let hi := floatOfBinary s 0
  let s2 := hi.toUInt64.toNat
  ⟨hi, if s ≥ s2 then floatOfBinary (s - s2) 0 else -(floatOfBinary (s2 - s) 0)⟩

/-- The double nearest `s · 10^e` as the pair arithmetic finds it: the pair scaled, its two
parts added; a result that is not a number (from an overflow) is infinity. -/
def scaledDouble (s : Nat) (e : Int) : Float :=
  let r := scaleByTen 20050 (DoubleDouble.ofNat s) e
  let x := r.hi + r.lo
  if x.isNaN then Float.ofBits 0x7ff0000000000000 else x

end Payout.Decimal
