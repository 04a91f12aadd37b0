import Payout.Domain.Summary
import Payout.Audit.Event
import Payout.Json.Value

/-!
# Answers of the service

What the service answers, as JSON objects with the members in the order given here.
Identifiers and amounts are integers, percentages are doubles (a double that is not finite
is written `null`), dates are `YYYY-MM-DD` and states their names.
-/

namespace Payout.Api

/-- A distribution as answered. -/
def distributionJson (d : Distribution) : Json :=
  .obj [("distribution_id", Json.int (d.id.getD 0)), ("period", .str d.period),
    ("distribution_date", .str d.date.render), ("total_profit", Json.int d.totalProfit),
    ("state", .str d.state.name)]

/-- A detail row as answered. -/
def detailJson (d : Detail) : Json :=
  .obj [("detail_id", Json.int (d.id.getD 0)), ("distribution_id", Json.int d.distribution),
    ("participant_id", Json.int d.participant), ("percentage", Json.float d.percentage),
    ("amount", Json.int d.amount)]

/-- A distribution with its rows and totals. -/
def summaryJson (s : Summary) : Json :=
  .obj [("distribution", distributionJson s.distribution),
    ("details", .arr (s.details.map detailJson)),
    ("allocated_percentage", Json.float s.allocatedPercentage),
    ("allocated_amount", Json.int s.allocatedAmount), ("residual", Json.int s.residual)]

/-- An audit event as the trail answers it. -/
def eventJson (e : AuditEvent) : Json :=
  .obj [("event_id", Json.int (e.id.getD 0)), ("actor_id", .str e.actor.id),
    ("actor_type", .str e.actor.kind), ("cause_id", .str e.cause.id),
    ("cause_description", .str e.cause.description), ("action", .str e.action.name),
    ("details", match e.action.details with
      | some d => .str d
      | none => .null),
    ("before", .str e.before), ("after", .str e.after)]

/-- The answer to opening a distribution. -/
structure Created where
  distribution : Distribution
  eventId : Int
  duplicatePeriod : Bool

/-- The answer to opening a distribution, as JSON. -/
def Created.toJson (c : Created) : Json :=
  .obj [("distribution", distributionJson c.distribution), ("event_id", Json.int c.eventId),
    ("duplicate_period", .bool c.duplicatePeriod),
    ("message", .str ("Created distribution for period '" ++ c.distribution.period ++ "'"))]

/-- The answer to adding a row by hand. -/
structure Added where
  detail : Detail
  state : State
  eventId : Int
  percentage : Float
  participant : Int

/-- The answer to adding a row by hand, as JSON. -/
def Added.toJson (a : Added) : Json :=
  .obj [("detail", detailJson a.detail), ("distribution_state", .str a.state.name),
    ("event_id", Json.int a.eventId),
    ("message", .str ("Allocated " ++ Decimal.display a.percentage ++ "% to participant " ++
      toString a.participant))]

/-- The answer to an automatic allocation. -/
structure Allocated where
  distribution : Int
  summary : Summary
  eventId : Int

/-- The answer to an automatic allocation, as JSON. -/
def Allocated.toJson (a : Allocated) : Json :=
  .obj [("distribution_id", Json.int a.distribution),
    ("details", .arr (a.summary.details.map detailJson)),
    ("residual", Json.int a.summary.residual), ("event_id", Json.int a.eventId),
    ("message", .str ("Allocated distribution " ++ toString a.distribution ++ " across " ++
      toString a.summary.details.length ++ " participants"))]

/-- The answer to removing a row. -/
structure Removed where
  detail : Detail
  state : State
  eventId : Int
  requested : Int

/-- The answer to removing a row, as JSON. -/
def Removed.toJson (r : Removed) : Json :=
  .obj [("removed", detailJson r.detail), ("distribution_state", .str r.state.name),
    ("event_id", Json.int r.eventId),
    ("message", .str ("Removed detail " ++ toString r.requested))]

/-- The answer to changing the total profit. -/
structure Retotaled where
  summary : Summary
  eventId : Int
  distribution : Int
  total : Int

/-- The answer to changing the total profit, as JSON. -/
def Retotaled.toJson (r : Retotaled) : Json :=
  .obj [("summary", summaryJson r.summary), ("event_id", Json.int r.eventId),
    ("message", .str ("Total profit of distribution " ++ toString r.distribution ++ " is now " ++
      toString r.total))]

/-- The list of distributions, as JSON. -/
def distributionsJson (ds : List Distribution) : Json :=
  .obj [("distributions", .arr (ds.map distributionJson))]

/-- The audit trail of a distribution, as JSON. -/
def trailJson (distribution : Int) (events : List AuditEvent) : Json :=
  .obj [("distribution_id", Json.int distribution), ("events", .arr (events.map eventJson))]

end Payout.Api
