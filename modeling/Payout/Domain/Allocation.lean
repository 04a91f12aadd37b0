import Payout.Domain.Weight
import Payout.Domain.Bounded
import Payout.Decimal.Whole

/-!
# Allocation

Shares become stored percentages and whole-currency amounts.

* Percentages are whole hundredths of a percent chosen by the largest remainder method: each
  share is floored to hundredths, then the hundredths still missing from 10,000 go one each
  to the largest remainders, the earlier participant first among equals. A share that gets
  no hundredth gets no row.
* An amount is `round(totalProfit * percentage / 100)`, halves away from zero, computed from
  the stored percentage; it must fit in 64 bits.
* The amounts need not add up to the total; the difference is the residual, reported and
  never corrected.
-/

namespace Payout

/-- One participant's allocation: unrounded share, stored percentage and amount. -/
structure Allocation where
  participant : Int
  share : Float
  percentage : Float
  amount : Int
deriving Inhabited, DecidableEq

/-- The amount for a percentage of a total profit, or a refusal when it is not a finite
number that fits in 64 bits. -/
def computeAmount (totalProfit : Int) (percentage : Float) : Except DomainError Int :=
  let raw := wordToFloat totalProfit * percentage / 100.0
  if !isFinite raw then .error (.amountOutOfRange totalProfit percentage)
  else
    match floatToWord? (Decimal.roundToWhole raw) with
    | some a => .ok a
    | none => .error (.amountOutOfRange totalProfit percentage)

/-- A key that orders doubles totally: negative NaNs, negative numbers from the infinity up,
negative zero, positive zero, positive numbers, positive NaNs. -/
def totalKey (x : Float) : Int :=
  let n := x.toBits.toNat
  if n ≥ Nat.pow 2 63 then -((n - Nat.pow 2 63 : Nat) : Int) - 1 else n

/-- Whether a remainder, with the index of its share, ranks before another: the larger
remainder in the total order of doubles first, and of two equal ones the smaller index. -/
def ranksBefore (a b : Nat × Float) : Bool :=
  totalKey a.2 > totalKey b.2 || (totalKey a.2 == totalKey b.2 && a.1 < b.1)

/-- Inserts a remainder into a ranking, before the first one it ranks before. -/
def insertRanked (x : Nat × Float) : List (Nat × Float) → List (Nat × Float)
  | [] => [x]
  | y :: ys => if ranksBefore x y then x :: y :: ys else y :: insertRanked x ys

/-- Remainders with their indices, ranked by `ranksBefore`. -/
def rankRemainders : List (Nat × Float) → List (Nat × Float)
  | [] => []
  | x :: xs => insertRanked x (rankRemainders xs)

/-- Hundredths of a percent for each share, adding up to 10,000 when the shares add up to
100: floors first, then one more hundredth for each of the largest remainders. -/
def apportionHundredths (totalProfit : Int) (shares : List Share) :
    Except DomainError (List Float) := do
  let parts ← shares.mapM fun s =>
    let raw := s.share * 100.0
    if !isFinite raw || raw < 0.0 then Except.error (DomainError.amountOutOfRange totalProfit s.share)
    else
      let whole := Decimal.floorToWhole raw
      pure (whole, raw - whole)
  let floors := parts.map (·.1)
  let missing := (floatToSize? (Decimal.roundToWhole (10000.0 - sumFloats floors))).getD 0
  let ranked := (List.range parts.length).zip (parts.map (·.2))
  let order := rankRemainders ranked
  let bumped := (order.take missing).map (·.1)
  pure ((List.range floors.length).zip floors |>.map fun (i, f) =>
    if bumped.contains i then f + 1.0 else f)

/-- Allocates a total profit over shares, in order, leaving out shares under a hundredth of a
percent. -/
def allocate (totalProfit : Int) (shares : List Share) : Except DomainError (List Allocation) := do
  if totalProfit < 0 then throw (.invalidTotalProfit totalProfit)
  let hundredths ← apportionHundredths totalProfit shares
  let kept := (shares.zip hundredths).filter fun (_, h) => h > 0.0
  kept.mapM fun (s, h) => do
    let percentage := h / 100.0
    let amount ← computeAmount totalProfit percentage
    pure ⟨s.participant, s.share, percentage, amount⟩

/-- The total profit less the sum of the amounts, both saturating at the 64-bit range. -/
def residualOf (totalProfit : Int) (amounts : List Int) : Int :=
  satSub totalProfit (amounts.foldl satAdd 0)

/-- The whole pipeline: weights, shares, allocation. -/
def computeAllocations (totalProfit : Int) (standings : List Standing) :
    Except DomainError (List Allocation) := do
  let weights ← computeWeights standings
  let shares ← normalizeWeights weights
  allocate totalProfit shares

end Payout
