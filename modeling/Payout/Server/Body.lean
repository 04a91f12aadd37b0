import Payout.Json.Decode
import Payout.Audit.Event

/-!
# Request bodies

The bodies the service's routes read, and how a body is refused.

Every changing request carries its attribution: who acts (`actor_id`, `actor_type`) and why
(`cause_id`, `cause_description`), all strings. A request with more fields holds them beside
the attribution in one object: its own fields are read first, the attribution's fields are
gathered from the remaining members and read once the object is complete, so a missing or
ill-typed own field is reported before anything about the attribution.

A body that is not JSON, or has anything after its value, is a *syntax* failure; JSON of the
wrong shape is a *shape* failure. A fault inside a member's value names the member (and
any index or member below it) in front of its message.
-/

namespace Payout.Server

/-- Why a body was refused. -/
inductive BodyRejection where
  /-- The body is not a JSON text. -/
  | notJson (message : String)
  /-- The JSON does not have the expected shape. -/
  | wrongShape (message : String)
deriving Inhabited

/-- The fields of an attribution. -/
def attributionFields : List FieldSpec :=
  [⟨"actor_id", .text⟩, ⟨"actor_type", .text⟩, ⟨"cause_id", .text⟩, ⟨"cause_description", .text⟩]

/-- The actor and cause of an attribution. -/
def attributionOf (r : Record) : Actor × Cause :=
  (⟨r.text "actor_id", r.text "actor_type"⟩, ⟨r.text "cause_id", r.text "cause_description"⟩)

/-- Reads a whole body with a reader that tracks paths; anything after the value is refused. -/
def readBody {α : Type} (text : String) (reader : Nat → JsonRead α) : Except BodyRejection α :=
  match JsonRead.runOn (fun fuel => do
      let r ← reader fuel
      JsonRead.finish
      pure r) text.toUTF8 with
  | .ok a => .ok a
  | .error e => .error (if e.fault.isData then .wrongShape e.withPath else .notJson e.withPath)

/-- A body that is an attribution alone. -/
def readAttribution (text : String) : Except BodyRejection (Actor × Cause) := do
  let r ← readBody text (JsonRead.record "Attribution" attributionFields true)
  pure (attributionOf r)

/-- A body with fields of its own beside the attribution. -/
def readAttributed (name : String) (own : List FieldSpec) (text : String) :
    Except BodyRejection (Record × Actor × Cause) := do
  let (r, a) ← readBody text (JsonRead.gathering name own attributionFields true)
  pure (r, attributionOf a)

/-- The body that opens a distribution. -/
def readCreate (text : String) : Except BodyRejection (Record × Actor × Cause) :=
  readAttributed "CreateDistributionApiRequest"
    [⟨"period", .text⟩, ⟨"distribution_date", .text⟩, ⟨"total_profit", .int64⟩] text

/-- The body that adds a row by hand. -/
def readDetail (text : String) : Except BodyRejection (Record × Actor × Cause) :=
  readAttributed "AddManualDetailApiRequest" [⟨"participant_id", .int64⟩, ⟨"percentage", .float⟩] text

/-- The body that changes the total profit. -/
def readTotal (text : String) : Except BodyRejection (Record × Actor × Cause) :=
  readAttributed "UpdateTotalProfitApiRequest" [⟨"total_profit", .int64⟩] text

end Payout.Server
