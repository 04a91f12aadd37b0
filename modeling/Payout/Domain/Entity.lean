import Payout.Calendar.Date
import Payout.Domain.Error
import Payout.Text.Blank

/-!
# Roles, participants, distributions and detail rows

The records of profit sharing. A record that has not been stored yet has no identifier.
A distribution built for storing trims its period label; one read back from storage keeps
the label as stored.
-/

namespace Payout

/-- A role and the importance bonus it gives, in percent. -/
structure Role where
  id : Option Int
  name : String
  importance : Float
deriving Inhabited

/-- A participant: accumulated investment, optional role, and whether active. -/
structure Participant where
  id : Option Int
  name : String
  investment : Float
  role : Option Int
  active : Bool
deriving Inhabited

/-- What allocation reads of a participant: investment and the importance of its role, if it
has one that exists. -/
structure Standing where
  participant : Int
  investment : Float
  importance : Option Float
  active : Bool
deriving Inhabited

/-- One period's profit to be shared. -/
structure Distribution where
  id : Option Int
  period : String
  date : Calendar.Date
  totalProfit : Int
  state : State
deriving Inhabited

/-- A new pending distribution; the period label is trimmed. -/
def Distribution.create (period : String) (date : Calendar.Date) (totalProfit : Int) :
    Distribution :=
  ⟨none, Text.trimBlank period, date, totalProfit, .pending⟩

/-- One participant's share of a distribution: percentage and whole-currency amount. -/
structure Detail where
  id : Option Int
  distribution : Int
  participant : Int
  percentage : Float
  amount : Int
deriving Inhabited

end Payout
