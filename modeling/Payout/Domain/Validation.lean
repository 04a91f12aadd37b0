import Payout.Domain.Weight

/-!
# Validation

The rules a request must meet before anything is stored: a positive total profit, a
percentage in `(0, 100]`, a period label of 1 to 100 characters after trimming, room left
under 100%, and one row per participant. A distribution counts as fully allocated when its
rows add up to within `0.01` of 100. Both comparisons with 100 allow `1e-9` of float noise.
-/

namespace Payout

/-- The tolerance around 100% for a distribution to count as fully allocated. -/
def percentageTolerance : Float := 0.01

/-- The whole of a distribution, in percent. -/
def maxPercentage : Float := 100.0

/-- The longest period label, in characters. -/
def maxPeriodLength : Nat := 100

/-- Slack for float noise at the 100% boundary. -/
def ceilingEpsilon : Float := 1e-9

/-- A total profit must be positive. -/
def validateTotalProfit (totalProfit : Int) : Except DomainError Unit :=
  if totalProfit ≤ 0 then .error (.invalidTotalProfit totalProfit) else .ok ()

/-- A percentage must be finite, positive and at most 100. -/
def validatePercentage (percentage : Float) : Except DomainError Unit :=
  if !isFinite percentage || percentage ≤ 0.0 || percentage > maxPercentage then
    .error (.invalidPercentage percentage)
  else .ok ()

/-- A period label must keep 1 to 100 characters after trimming. -/
def validatePeriod (period : String) : Except DomainError Unit :=
  let trimmed := Text.trimBlank period
  if trimmed.isEmpty then .error (.invalidPeriod "Period cannot be empty")
  else if trimmed.length > maxPeriodLength then
    .error (.invalidPeriod ("Period cannot exceed " ++ toString maxPeriodLength ++ " characters"))
  else .ok ()

/-- The requested percent must fit on top of what is allocated. -/
def validateCapacity (distribution : Int) (allocated requested : Float) :
    Except DomainError Unit :=
  if allocated + requested > maxPercentage + ceilingEpsilon then
    .error (.overAllocation distribution allocated requested)
  else .ok ()

/-- A participant may hold only one row of a distribution. -/
def validateUnallocated (distribution participant : Int) (details : List Detail) :
    Except DomainError Unit :=
  if details.any (·.participant == participant) then
    .error (.duplicateParticipant distribution participant)
  else .ok ()

/-- The sum of the percentages of rows, from the left. -/
def totalPercentage (details : List Detail) : Float := sumFloats (details.map (·.percentage))

/-- Whether a sum of percentages is within tolerance of 100. -/
def isFullyAllocated (sum : Float) : Bool :=
  (sum - maxPercentage).abs ≤ percentageTolerance + ceilingEpsilon

end Payout
