/-!
# The double nearest a binary number

A natural `n` times `2^e` is rounded to a double the way every exact conversion rounds: to
the nearest double, a tie going to the even significand. Below the normal range the result
lies on the grid of `2^-1074`; above it the result is infinite.
-/

namespace Payout.Decimal

/-- `n / 2^s` rounded to nearest, a tie going to the even result; `sticky` says that a
nonzero part below `n` was already dropped, so that no tie is possible. -/
def shiftRound (n s : Nat) (sticky : Bool) : Nat :=
  if s == 0 then n
  else
    let q := n / Nat.pow 2 s
    let r := n % Nat.pow 2 s
    let half := Nat.pow 2 (s - 1)
    if r > half || (r == half && (sticky || q % 2 == 1)) then q + 1 else q

/-- The double nearest to `n · 2^e`, a tie going to the even significand; below the normal
range the result lies on the grid of `2^-1074`, above it the result is infinite. -/
def floatOfBinary (n : Nat) (e : Int) : Float :=
  if n == 0 then 0.0
  else
    let bits := Nat.log2 n + 1
    -- the exponent of the leading bit
    let top : Int := (bits : Int) - 1 + e
    if top > 1023 then Float.ofBits 0x7ff0000000000000
    else if top ≥ -1022 then
      let m := if bits ≥ 53 then shiftRound n (bits - 53) false else n * Nat.pow 2 (53 - bits)
      let (m, top) := if m == Nat.pow 2 53 then (Nat.pow 2 52, top + 1) else (m, top)
      if top > 1023 then Float.ofBits 0x7ff0000000000000
      else Float.ofBits (UInt64.ofNat ((top + 1023).toNat * Nat.pow 2 52 + (m - Nat.pow 2 52)))
    else
      -- subnormal: count units of 2^-1074
      let shift : Int := e + 1074
      let m := if shift ≥ 0 then n * Nat.pow 2 shift.toNat else shiftRound n (-shift).toNat false
      Float.ofBits (UInt64.ofNat m)

end Payout.Decimal
