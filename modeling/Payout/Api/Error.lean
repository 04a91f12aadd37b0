import Payout.Store.Error

/-!
# Failures at the service boundary

What a caller of the service sees: bad input in a named field, a broken rule of the
taxonomy, a missing resource, or an internal failure. Each lower failure maps to one
of the four: input rules name the field they judge, missing records name their kind, the
four rules of allocation keep their class name, and everything the storage layer reports
is internal except a missing record.
-/

namespace Payout

/-- A failure as the caller sees it. -/
inductive ApiError where
  | invalidInput (field : String) (message : String)
  | ruleViolation (rule : String) (message : String)
  | notFound (resource : String) (message : String)
  | internal (message : String)
deriving Inhabited

namespace ApiError

/-- The text of a failure. -/
def text : ApiError → String
  | .invalidInput f m => "Invalid input for field '" ++ f ++ "': " ++ m
  | .ruleViolation r m => "Domain rule violation (" ++ r ++ "): " ++ m
  | .notFound t m => t ++ " not found: " ++ m
  | .internal m => "Internal error: " ++ m

/-- The inner message, without the kind of failure in front. -/
def detail : ApiError → String
  | .invalidInput _ m | .ruleViolation _ m | .notFound _ m | .internal m => m

/-- The failure a broken rule shows to a caller. -/
def ofDomain (e : DomainError) : ApiError :=
  match e with
  | .invalidInvestment _ => .invalidInput "investment_total" e.message
  | .invalidImportance _ => .invalidInput "importance" e.message
  | .invalidWeight _ _ => .invalidInput "weight" e.message
  | .invalidTotalProfit _ | .amountOutOfRange _ _ => .invalidInput "total_profit" e.message
  | .invalidPercentage _ => .invalidInput "percentage" e.message
  | .invalidPeriod _ => .invalidInput "period" e.message
  | .unknownState _ => .invalidInput "state" e.message
  | .distributionNotFound _ => .notFound "Distribution" e.message
  | .detailNotFound _ => .notFound "Distribution detail" e.message
  | .participantNotFound _ => .notFound "Participant" e.message
  | .noEligibleParticipants | .duplicateParticipant _ _ | .overAllocation _ _ _ | .refused _ _ _ =>
    .ruleViolation e.kind e.message

/-- The failure a lifecycle failure shows to a caller. -/
def ofCore : CoreError → ApiError
  | .violation e => ofDomain e
  | .store e => .internal e.message

/-- The failure a storage failure shows to a caller. -/
def ofPersistence : PersistenceError → ApiError
  | .core e => ofCore e
  | .distributionNotFound id => .notFound "Distribution" ("Distribution " ++ toString id ++ " not found")
  | .participantNotFound id => .notFound "Participant" ("Participant " ++ toString id ++ " not found")
  | .roleNotFound id => .notFound "Role" ("Role " ++ toString id ++ " not found")
  | .eventNotFound id => .notFound "Audit event" ("Audit event " ++ toString id ++ " not found")
  | e => .internal e.message

end ApiError

end Payout
