import Payout.Store.Basic
import Payout.Domain.Entity
import Payout.Audit.Event
import Payout.Calendar.Iso
import Payout.Json.Decode

/-!
# Records as rows

How each record is laid out in its table, and how a row read back becomes a record again.

A column read as a number or as text takes the stored value in the database's conversion
(text read as a number gives its leading number); a null where the record needs a value
fails with `Unexpected null for non-null column`. A distribution is rebuilt from its row
only if its stored date reads as an ISO 8601 date and its state is one of the two states;
otherwise it fails with a *reconstruction* failure that quotes the bad text.

An audit event keeps its actor, cause, action and the two snapshots as small JSON objects
in text columns. Reading them back refuses JSON that is not an object of the right fields
(or an array of them in order), with the reader's message as a *serialization* failure.
-/

namespace Payout.Store

open Database

/-- The failure of reading a null where a value must be. -/
def unexpectedNull : String := "Unexpected null for non-null column"

/-- A cell of a row; a row too short reads null. -/
def cell (row : List Value) (i : Nat) : Value := row.getD i .null

/-- An integer column. -/
def readInt (v : Value) : Except String Int :=
  if v.isNull then throw unexpectedNull else pure v.asInteger

/-- A 32-bit integer column. -/
def readInt32 (v : Value) : Except String Int :=
  if v.isNull then throw unexpectedNull else pure (low32 v.asInteger)

/-- A double column. -/
def readFloat (v : Value) : Except String Float :=
  if v.isNull then throw unexpectedNull else pure v.asReal

/-- A text column. -/
def readText (v : Value) : Except String String :=
  if v.isNull then throw unexpectedNull else pure v.asText

/-- An integer column that may be null. -/
def readOptInt (v : Value) : Option Int := if v.isNull then none else some v.asInteger

/-- A double column that may be null. -/
def readOptFloat (v : Value) : Option Float := if v.isNull then none else some v.asReal

/-! ### Roles, participants and standings -/

/-- The columns of a role. -/
def roleColumns : List String := ["role_id", "name", "importance"]

/-- A role from its row. -/
def roleOfRow (r : List Value) : Except String Role := do
  pure ⟨some (← readInt (cell r 0)), ← readText (cell r 1), ← readFloat (cell r 2)⟩

/-- The columns of a participant. -/
def participantColumns : List String :=
  ["participant_id", "name", "investment_total", "role_id", "active"]

/-- A participant from its row; any active flag but zero counts as active. -/
def participantOfRow (r : List Value) : Except String Participant := do
  let id ← readInt (cell r 0)
  let name ← readText (cell r 1)
  let investment ← readFloat (cell r 2)
  let role := readOptInt (cell r 3)
  let active ← readInt32 (cell r 4)
  pure ⟨some id, name, investment, role, active != 0⟩

/-- A standing from a participant's row joined with its role's importance. -/
def standingOfRow (r : List Value) : Except String Standing := do
  let id ← readInt (cell r 0)
  let investment ← readFloat (cell r 1)
  let active ← readInt32 (cell r 2)
  pure ⟨id, investment, readOptFloat (cell r 3), active != 0⟩

/-! ### Distributions and detail rows -/

/-- The columns of a distribution. -/
def distributionColumns : List String :=
  ["distribution_id", "period", "distribution_date", "total_profit", "state"]

/-- A distribution's row as stored, before its date and state are read. -/
structure DistributionRow where
  id : Int
  period : String
  date : String
  totalProfit : Int
  state : String
deriving Inhabited

/-- A distribution's row from its cells. -/
def distributionRowOf (r : List Value) : Except String DistributionRow := do
  pure ⟨← readInt (cell r 0), ← readText (cell r 1), ← readText (cell r 2),
    ← readInt (cell r 3), ← readText (cell r 4)⟩

/-- The distribution a stored row describes; a date or state that does not read back is a
reconstruction failure. -/
def DistributionRow.toDistribution (r : DistributionRow) : Except PersistenceError Distribution := do
  let date ← match Calendar.parseIsoDate r.date with
    | .ok d => pure d
    | .error e => throw (.reconstruction
        ("Failed to parse distribution_date '" ++ r.date ++ "': " ++ e.message))
  let state ← match State.parse r.state with
    | .ok s => pure s
    | .error e => throw (.reconstruction
        ("Distribution " ++ toString r.id ++ " has invalid state: " ++ e.message))
  pure ⟨some r.id, r.period, date, r.totalProfit, state⟩

/-- The columns of a detail row. -/
def detailColumns : List String :=
  ["detail_id", "distribution_id", "participant_id", "percentage", "amount"]

/-- A detail row from its cells. -/
def detailOfRow (r : List Value) : Except String Detail := do
  pure ⟨some (← readInt (cell r 0)), ← readInt (cell r 1), ← readInt (cell r 2),
    ← readFloat (cell r 3), ← readInt (cell r 4)⟩

/-! ### Audit events -/

/-- The columns of an audit event. -/
def eventColumns : List String :=
  ["event_id", "distribution_id", "actor_json", "cause_json", "action_json",
   "before_snapshot_json", "after_snapshot_json"]

/-- The JSON column texts of an event: actor, cause, action, before and after. -/
def eventTexts (e : AuditEvent) : List String :=
  [Json.render (.obj [("id", .str e.actor.id), ("actor_type", .str e.actor.kind)]),
   Json.render (.obj [("id", .str e.cause.id), ("description", .str e.cause.description)]),
   Json.render (.obj [("name", .str e.action.name),
     ("details", match e.action.details with
       | some d => .str d
       | none => .null)]),
   Json.render (.obj [("data", .str e.before)]),
   Json.render (.obj [("data", .str e.after)])]

/-- An audit event's row as stored, before its JSON columns are read. -/
structure EventRow where
  id : Int
  distribution : Option Int
  actor : String
  cause : String
  action : String
  before : String
  after : String
deriving Inhabited

/-- An event's row from its cells. -/
def eventRowOf (r : List Value) : Except String EventRow := do
  let id ← readInt (cell r 0)
  let dist := readOptInt (cell r 1)
  pure ⟨id, dist, ← readText (cell r 2), ← readText (cell r 3), ← readText (cell r 4),
    ← readText (cell r 5), ← readText (cell r 6)⟩

/-- Reads one JSON column as a record of string fields. -/
def readColumn (name : String) (fields : List FieldSpec) (text : String) :
    Except PersistenceError Record :=
  match Record.parse name fields text with
  | .ok r => pure r
  | .error e => throw (.serialization e.message)

/-- The event a stored row describes. -/
def EventRow.toEvent (r : EventRow) : Except PersistenceError AuditEvent := do
  let actor ← readColumn "ActorData" [⟨"id", .text⟩, ⟨"actor_type", .text⟩] r.actor
  let cause ← readColumn "CauseData" [⟨"id", .text⟩, ⟨"description", .text⟩] r.cause
  let action ← readColumn "ActionData" [⟨"name", .text⟩, ⟨"details", .optText⟩] r.action
  let before ← readColumn "StateSnapshotData" [⟨"data", .text⟩] r.before
  let after ← readColumn "StateSnapshotData" [⟨"data", .text⟩] r.after
  pure ⟨some r.id, ⟨actor.text "id", actor.text "actor_type"⟩,
    ⟨cause.text "id", cause.text "description"⟩,
    ⟨action.text "name", action.optText "details"⟩,
    before.text "data", after.text "data", r.distribution⟩

end Payout.Store
