import Payout.Domain.Validation
import Payout.Domain.Bounded

/-!
# Distribution summaries

A distribution with its rows, and the totals read off them: the allocated percentage (the
left-to-right sum of the rows' percentages, `-0.0` for no rows), the allocated amount
(saturating), and the residual, the total profit less the allocated amount.

The snapshot is the one-line text that the audit trail records before and after each
change: `distribution_id=1,period=2026-Q1,state=Pending,total_profit=100,details_count=0,
allocated_percentage=-0.00,allocated_amount=0`, the percentage written to two places.
-/

namespace Payout

/-- A distribution and its detail rows. -/
structure Summary where
  distribution : Distribution
  details : List Detail
deriving Inhabited

namespace Summary

/-- The sum of the rows' percentages. -/
def allocatedPercentage (s : Summary) : Float := totalPercentage s.details

/-- The sum of the rows' amounts, saturating. -/
def allocatedAmount (s : Summary) : Int := s.details.foldl (fun acc d => satAdd acc d.amount) 0

/-- The part of the total profit that no row holds. -/
def residual (s : Summary) : Int := satSub s.distribution.totalProfit s.allocatedAmount

/-- The one-line snapshot of the distribution and its totals. -/
def snapshot (s : Summary) : String :=
  "distribution_id=" ++ (match s.distribution.id with
    | some id => toString id
    | none => "none") ++
  ",period=" ++ s.distribution.period ++
  ",state=" ++ s.distribution.state.name ++
  ",total_profit=" ++ toString s.distribution.totalProfit ++
  ",details_count=" ++ toString s.details.length ++
  ",allocated_percentage=" ++ Decimal.fixed 2 s.allocatedPercentage ++
  ",allocated_amount=" ++ toString s.allocatedAmount

end Summary

end Payout
