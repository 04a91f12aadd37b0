import Payout.Store.Records

/-!
# The ledger: reading and writing records

Every read and write of the store's records, each one statement (or a few) on the
connection.

A failed read is a *query* failure whose text names the read (`get_distribution: no such
table: distributions`), except for the audit trail, whose reads fail with the database's
message as a database failure; a failed write is a database failure. A list is read whole
before any of its distributions is rebuilt, so a bad cell anywhere wins over a bad date.
Writes that must touch a row (changing a participant, a distribution's state or total,
removing a distribution) fail with the missing record when no row matched.
-/

namespace Payout.Store

open Database

/-- Reads rows as a read of a name: a failure is a query failure that names it. -/
def readNamed {α : Type} (name : String) (q : Read) (decode : List Value → Except String α) :
    StoreM (List α) :=
  (Sql.readAs q.query decode).orFail fun m => .queryFailed (name ++ ": " ++ m)

/-- Runs a write; a failure is a database failure. -/
def write (s : Statement) : StoreM Nat := (Sql.run s).orFail .database

/-- Inserts one row of values and gives its identifier. -/
def insertValues (table : String) (cols : List String) (vals : List Value) : StoreM Int := do
  let _ ← write (insertStatement table cols vals)
  (Sql.lastRowid).orFail .database

/-- Rebuilds the distributions of rows, the first failure winning. -/
def rebuildAll (rows : List DistributionRow) : StoreM (List Distribution) :=
  StoreM.ofExcept (rows.mapM DistributionRow.toDistribution)

/-- Orders a read by the identifier column. -/
def orderedBy (name : String) (q : Read) : Read :=
  { q with order := some (column q.table name) }

/-! ### Reads -/

/-- The read of the distribution of an identifier. -/
def distributionById (id : Int) : Read :=
  { selectFrom "distributions" distributionColumns with
    condition := some (columnIs "distributions" "distribution_id" (.integer id)), limit := some 1 }

/-- The distribution of an identifier, if stored. -/
def getDistribution (id : Int) : StoreM (Option Distribution) := do
  let rows ← readNamed "get_distribution" (distributionById id) distributionRowOf
  match rows.head? with
  | some r => some <$> StoreM.ofExcept r.toDistribution
  | none => pure none

/-- Every distribution, by identifier. -/
def listDistributions : StoreM (List Distribution) := do
  let q := orderedBy "distribution_id" (selectFrom "distributions" distributionColumns)
  rebuildAll (← readNamed "list_distributions" q distributionRowOf)

/-- The distributions of a period label, by identifier; the label is trimmed first. -/
def findDistributionsByPeriod (period : String) : StoreM (List Distribution) := do
  let q := { orderedBy "distribution_id" (selectFrom "distributions" distributionColumns) with
    condition := some (columnIs "distributions" "period" (.text (Text.trimBlank period))) }
  rebuildAll (← readNamed "find_distributions_by_period" q distributionRowOf)

/-- The detail rows of a distribution, by identifier. -/
def listDetails (distribution : Int) : StoreM (List Detail) := do
  let q := { orderedBy "detail_id" (selectFrom "distribution_details" detailColumns) with
    condition := some (columnIs "distribution_details" "distribution_id" (.integer distribution)) }
  readNamed "list_distribution_details" q detailOfRow

/-- The detail row of an identifier, if stored. -/
def getDetail (id : Int) : StoreM (Option Detail) := do
  let q := { selectFrom "distribution_details" detailColumns with
    condition := some (columnIs "distribution_details" "detail_id" (.integer id)), limit := some 1 }
  pure (← readNamed "get_distribution_detail" q detailOfRow).head?

/-- The participant of an identifier, if stored. -/
def getParticipant (id : Int) : StoreM (Option Participant) := do
  let q := { selectFrom "participants" participantColumns with
    condition := some (columnIs "participants" "participant_id" (.integer id)), limit := some 1 }
  pure (← readNamed "get_participant" q participantOfRow).head?

/-- Every participant, by identifier. -/
def listParticipants : StoreM (List Participant) :=
  readNamed "list_participants"
    (orderedBy "participant_id" (selectFrom "participants" participantColumns)) participantOfRow

/-- The role of an identifier, if stored. -/
def getRole (id : Int) : StoreM (Option Role) := do
  let q := { selectFrom "roles" roleColumns with
    condition := some (columnIs "roles" "role_id" (.integer id)), limit := some 1 }
  pure (← readNamed "get_role" q roleOfRow).head?

/-- Every participant's standing, by identifier: its investment, activity and the
importance of its role, when the role exists. -/
def listStandings : StoreM (List Standing) :=
  let q : Read :=
    { items := [column "participants" "participant_id", column "participants" "investment_total",
        column "participants" "active", column "roles" "importance"]
      table := "participants"
      join := some ("roles", .binary .eq (column "participants" "role_id") (column "roles" "role_id"))
      order := some (column "participants" "participant_id") }
  readNamed "list_participants_with_roles" q standingOfRow

/-- The audit event of an identifier. -/
def getAuditEvent (id : Int) : StoreM AuditEvent := do
  let q := { selectFrom "audit_events" eventColumns with
    condition := some (columnIs "audit_events" "event_id" (.integer id)), limit := some 1 }
  let rows ← (Sql.readAs q.query eventRowOf).orFail .database
  match rows.head? with
  | some r => StoreM.ofExcept r.toEvent
  | none => throw (.eventNotFound id)

/-- The audit trail of a distribution, oldest first. -/
def eventsOf (distribution : Int) : StoreM (List AuditEvent) := do
  let q := { orderedBy "event_id" (selectFrom "audit_events" eventColumns) with
    condition := some (columnIs "audit_events" "distribution_id" (.integer distribution)) }
  let rows ← (Sql.readAs q.query eventRowOf).orFail .database
  StoreM.ofExcept (rows.mapM EventRow.toEvent)

/-! ### Writes -/

/-- Stores a new role and gives its identifier. -/
def insertRole (name : String) (importance : Float) : StoreM Int :=
  insertValues "roles" ["name", "importance"] [.text name, floatValue importance]

/-- Stores a new participant and gives its identifier. -/
def insertParticipant (name : String) (investment : Float) (role : Option Int) (active : Bool) :
    StoreM Int :=
  insertValues "participants" ["name", "investment_total", "role_id", "active"]
    [.text name, floatValue investment, optionalValue role, .integer (if active then 1 else 0)]

/-- Sets a column of the row of an identifier; gives how many rows changed. -/
def setColumn (table key : String) (id : Int) (name : String) (v : Value) : StoreM Nat :=
  write (updateStatement table [(name, v)] (some (columnIs table key (.integer id))))

/-- Sets a participant's investment; the participant must exist. -/
def updateInvestment (id : Int) (investment : Float) : StoreM Unit := do
  if (← setColumn "participants" "participant_id" id "investment_total" (floatValue investment)) == 0 then
    throw (.participantNotFound id)

/-- Marks a participant active or not; the participant must exist. -/
def setActive (id : Int) (active : Bool) : StoreM Unit := do
  if (← setColumn "participants" "participant_id" id "active" (.integer (if active then 1 else 0))) == 0 then
    throw (.participantNotFound id)

/-- Stores a new distribution; gives it with its identifier. -/
def insertDistribution (d : Distribution) : StoreM Distribution := do
  let id ← insertValues "distributions" ["period", "distribution_date", "total_profit", "state"]
    [.text d.period, .text d.date.render, .integer d.totalProfit, .text d.state.name]
  pure { d with id := some id }

/-- Stores a new detail row; gives it with its identifier. -/
def insertDetail (d : Detail) : StoreM Detail := do
  let id ← insertValues "distribution_details"
    ["distribution_id", "participant_id", "percentage", "amount"]
    [.integer d.distribution, .integer d.participant, floatValue d.percentage, .integer d.amount]
  pure { d with id := some id }

/-- Replaces the detail rows of a distribution, all or none. -/
def replaceDetails (distribution : Int) (rows : List Detail) : StoreM (List Detail) :=
  transaction do
    let _ ← write (deleteStatement "distribution_details"
      (some (columnIs "distribution_details" "distribution_id" (.integer distribution))))
    rows.mapM insertDetail

/-- Removes a detail row. -/
def deleteDetail (id : Int) : StoreM Unit := do
  let _ ← write (deleteStatement "distribution_details"
    (some (columnIs "distribution_details" "detail_id" (.integer id))))

/-- Sets a distribution's state; the distribution must exist. -/
def updateState (id : Int) (s : State) : StoreM Unit := do
  if (← setColumn "distributions" "distribution_id" id "state" (.text s.name)) == 0 then
    throw (.distributionNotFound id)

/-- Sets a distribution's total profit; the distribution must exist. -/
def updateTotalProfit (id : Int) (total : Int) : StoreM Unit := do
  if (← setColumn "distributions" "distribution_id" id "total_profit" (.integer total)) == 0 then
    throw (.distributionNotFound id)

/-- Sets the amount of each detail row of a pair. -/
def updateAmounts (amounts : List (Int × Int)) : StoreM Unit := do
  for (id, amount) in amounts do
    let _ ← setColumn "distribution_details" "detail_id" id "amount" (.integer amount)

/-- Removes a distribution; its rows go with it and its events forget it. -/
def deleteDistribution (id : Int) : StoreM Unit := do
  let n ← write (deleteStatement "distributions"
    (some (columnIs "distributions" "distribution_id" (.integer id))))
  if n == 0 then throw (.distributionNotFound id)

/-- Stores an audit event; gives its identifier. -/
def persistEvent (e : AuditEvent) : StoreM Int :=
  insertValues "audit_events"
    ["distribution_id", "actor_json", "cause_json", "action_json", "before_snapshot_json",
     "after_snapshot_json"]
    (optionalValue e.distribution :: (eventTexts e).map .text)

end Payout.Store

namespace Payout.Store

/-! ### Bookkeeping -/

/-- Stores a new role. -/
def createRole (name : String) (importance : Float) : StoreM Role := do
  let id ← insertRole name importance
  pure ⟨some id, name, importance⟩

/-- Stores a new participant; a role it names must exist. -/
def createParticipant (name : String) (investment : Float) (role : Option Int) (active : Bool) :
    StoreM Participant := do
  if let some r := role then
    if (← getRole r).isNone then throw (.roleNotFound r)
  let id ← insertParticipant name investment role active
  pure ⟨some id, name, investment, role, active⟩

/-- A stored distribution, which must exist. -/
def requireDistribution (id : Int) : StoreM Distribution := do
  match ← getDistribution id with
  | some d => pure d
  | none => throw (.distributionNotFound id)

end Payout.Store
