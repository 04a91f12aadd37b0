import Payout.Domain.Entity

/-!
# Weights and shares

A participant's weight is its investment scaled by the importance bonus of its role,
`investment * (1 + importance / 100)`; a participant without a role counts importance 0.
Investment is the base, so no investment means no weight however important the role.

Weights become percentage shares `100 * w / total`: participants of weight zero drop out,
order is kept, and nothing is rounded yet. When no weight is positive there is nothing to
share.
-/

namespace Payout

/-- A participant with its weight. -/
structure Weighted where
  participant : Int
  weight : Float
deriving Inhabited, DecidableEq

/-- A participant with its unrounded share, in percent. -/
structure Share where
  participant : Int
  share : Float
deriving Inhabited, DecidableEq

/-- Whether a double is neither infinite nor NaN. -/
def isFinite (x : Float) : Bool := !x.isNaN && !x.isInf

/-- Sums doubles from the left, starting at negative zero, so that an empty sum is `-0.0`
and every other sum is the plain left-to-right one. -/
def sumFloats (xs : List Float) : Float := xs.foldl (· + ·) (-0.0)

/-- The weight of one participant, refusing negative or non-finite inputs. -/
def computeWeight (investment importance : Float) : Except DomainError Float :=
  if !isFinite investment || investment < 0.0 then .error (.invalidInvestment investment)
  else if !isFinite importance || importance < 0.0 then .error (.invalidImportance importance)
  else .ok (investment * (1.0 + importance / 100.0))

/-- The weights of all standings, in order; the first refusal wins. -/
def computeWeights (standings : List Standing) : Except DomainError (List Weighted) :=
  standings.mapM fun s =>
    (computeWeight s.investment (s.importance.getD 0.0)).map fun w => ⟨s.participant, w⟩

/-- Shares in percent of the total weight, dropping zero weights and keeping order. -/
def normalizeWeights (weights : List Weighted) : Except DomainError (List Share) :=
  match weights.find? (fun w => !isFinite w.weight || w.weight < 0.0) with
  | some bad => .error (.invalidWeight bad.participant bad.weight)
  | none =>
    let total := sumFloats (weights.map (·.weight))
    if total ≤ 0.0 then .error .noEligibleParticipants
    else .ok ((weights.filter (fun w => w.weight > 0.0)).map fun w =>
      ⟨w.participant, 100.0 * w.weight / total⟩)

end Payout
