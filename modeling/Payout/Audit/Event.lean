/-!
# Audit events

Who did what, why, and how the distribution looked before and after. An event that has not
been stored yet has no identifier; an event outlives its distribution, which it then no
longer names.
-/

namespace Payout

/-- Who acted. -/
structure Actor where
  id : String
  kind : String
deriving Inhabited, DecidableEq

/-- Why it was done: the request and its description. -/
structure Cause where
  id : String
  description : String
deriving Inhabited, DecidableEq

/-- What was done, with an optional description of the change. -/
structure Action where
  name : String
  details : Option String
deriving Inhabited, DecidableEq

/-- A recorded change. -/
structure AuditEvent where
  id : Option Int
  actor : Actor
  cause : Cause
  action : Action
  before : String
  after : String
  distribution : Option Int
deriving Inhabited, DecidableEq

end Payout
