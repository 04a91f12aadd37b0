import Payout.Decimal.Text

/-!
# Rule violations

Every way an input or a request can break a rule of profit sharing, grouped into the classes
of the taxonomy (`InvalidInputError`, `NoEligibleParticipantsError`, …), each with a message
that names the rule. Numbers in messages are written in their plain text: the shortest
digits, positional, without `.0`.
-/

namespace Payout

/-- The two states of a distribution: still open, or fully allocated. -/
inductive State where
  | pending
  | distributed
deriving DecidableEq, Inhabited

/-- The name of a state. -/
def State.name : State → String
  | .pending => "Pending"
  | .distributed => "Distributed"

/-- A broken rule. -/
inductive DomainError where
  /-- An investment total is negative or not finite. -/
  | invalidInvestment (value : Float)
  /-- A role importance is negative or not finite. -/
  | invalidImportance (value : Float)
  /-- A weight is negative or not finite. -/
  | invalidWeight (participant : Int) (value : Float)
  /-- A total profit is not positive (or, for an allocation, negative). -/
  | invalidTotalProfit (value : Int)
  /-- A percentage is outside `(0, 100]` or not finite. -/
  | invalidPercentage (value : Float)
  /-- A period label is blank or too long. -/
  | invalidPeriod (reason : String)
  /-- An amount does not fit the currency range. -/
  | amountOutOfRange (totalProfit : Int) (percentage : Float)
  /-- A state name is not known. -/
  | unknownState (text : String)
  /-- No participant has a positive weight. -/
  | noEligibleParticipants
  /-- The participant already holds a row in the distribution. -/
  | duplicateParticipant (distribution participant : Int)
  /-- The rows would pass 100%. -/
  | overAllocation (distribution : Int) (allocated requested : Float)
  /-- The distribution's state refuses the operation. -/
  | refused (distribution : Int) (state : State) (reason : String)
  /-- No such distribution. -/
  | distributionNotFound (id : Int)
  /-- No such detail row. -/
  | detailNotFound (id : Int)
  /-- No such participant. -/
  | participantNotFound (id : Int)
deriving Inhabited

namespace DomainError

/-- The class of the taxonomy a violation belongs to. -/
def kind : DomainError → String
  | .invalidInvestment _ | .invalidImportance _ | .invalidWeight _ _ | .invalidTotalProfit _
  | .invalidPercentage _ | .invalidPeriod _ | .amountOutOfRange _ _ | .unknownState _ =>
    "InvalidInputError"
  | .noEligibleParticipants => "NoEligibleParticipantsError"
  | .duplicateParticipant _ _ => "DuplicateParticipantError"
  | .overAllocation _ _ _ => "OverAllocationError"
  | .refused _ _ _ => "InvalidStateError"
  | .distributionNotFound _ | .detailNotFound _ | .participantNotFound _ => "NotFoundError"

/-- The message that names the broken rule. -/
def message : DomainError → String
  | .invalidInvestment v =>
    "Invalid investment total: " ++ Decimal.display v ++ ". Must be a finite, non-negative amount"
  | .invalidImportance v =>
    "Invalid role importance: " ++ Decimal.display v ++ ". Must be a finite, non-negative number"
  | .invalidWeight p v =>
    "Invalid weight " ++ Decimal.display v ++ " for participant " ++ toString p ++
      ". Must be finite and non-negative"
  | .invalidTotalProfit v =>
    "Invalid total profit: " ++ toString v ++ ". Total profit must be greater than zero"
  | .invalidPercentage v =>
    "Invalid percentage: " ++ Decimal.display v ++ ". Must be greater than 0 and at most 100"
  | .invalidPeriod reason => "Invalid period: " ++ reason
  | .amountOutOfRange t p =>
    "Amount for " ++ Decimal.display p ++ "% of " ++ toString t ++ " is out of range"
  | .unknownState s => "Invalid distribution state: '" ++ s ++ "'"
  | .noEligibleParticipants => "No participant has a positive weight; nothing can be allocated"
  | .duplicateParticipant d p =>
    "Participant " ++ toString p ++ " already has an allocation in distribution " ++ toString d
  | .overAllocation d a r =>
    "Distribution " ++ toString d ++ " already allocates " ++ Decimal.display a ++ "%; adding " ++
      Decimal.display r ++ "% would exceed 100%"
  | .refused d s reason =>
    "Distribution " ++ toString d ++ " in state " ++ s.name ++ " cannot be processed: " ++ reason
  | .distributionNotFound id => "Distribution " ++ toString id ++ " not found"
  | .detailNotFound id => "Distribution detail " ++ toString id ++ " not found"
  | .participantNotFound id => "Participant " ++ toString id ++ " not found"

end DomainError

/-- Reads a state from its name; any other text is refused. -/
def State.parse (s : String) : Except DomainError State :=
  if s == "Pending" then .ok .pending
  else if s == "Distributed" then .ok .distributed
  else .error (.unknownState s)

end Payout
