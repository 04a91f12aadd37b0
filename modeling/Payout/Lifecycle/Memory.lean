import Payout.Lifecycle.Basic

/-!
# A store in memory

`Books` keeps roles, participants, distributions and detail rows as lists in the order of
their identifiers, and one counter from which every new record of any kind takes the next
identifier. So a new row has a larger identifier than every row before it, and a
distribution's rows, listed by filtering, come in the order they were stored.

As a `DistributionStore` in `StateM Books` no read or write fails; a write to a record that
is not there changes nothing. This is the lifecycle without a database: what the operations
do to a distribution can be read off four lists.
-/

namespace Payout.Lifecycle

/-- Records in memory, each list in the order of identifiers, and the last identifier given. -/
structure Books where
  roles : List Role
  participants : List Participant
  distributions : List Distribution
  details : List Detail
  lastId : Int
deriving Inhabited

namespace Books

/-- No records, and no identifier given yet. -/
def empty : Books := ⟨[], [], [], [], 0⟩

/-- The next identifier, and the books that have given it. -/
def nextId (b : Books) : Int × Books := (b.lastId + 1, { b with lastId := b.lastId + 1 })

/-- The rows of a distribution, in the order they were stored. -/
def detailsOf (b : Books) (distribution : Int) : List Detail :=
  b.details.filter (·.distribution == distribution)

/-- The standing of a participant: its investment and the importance of its role, when the
role is stored. -/
def standingOf (b : Books) (p : Participant) : Standing :=
  ⟨p.id.getD 0, p.investment,
    (p.role.bind fun r => b.roles.find? (·.id == some r)).map (·.importance), p.active⟩

/-- Stores a new role; gives its identifier. -/
def addRole (name : String) (importance : Float) (b : Books) : Int × Books :=
  let (id, b) := b.nextId
  (id, { b with roles := b.roles ++ [⟨some id, name, importance⟩] })

/-- Stores a new participant; gives its identifier. -/
def addParticipant (name : String) (investment : Float) (role : Option Int) (active : Bool)
    (b : Books) : Int × Books :=
  let (id, b) := b.nextId
  (id, { b with participants := b.participants ++ [⟨some id, name, investment, role, active⟩] })

/-- Sets a participant's investment. -/
def setInvestment (participant : Int) (investment : Float) (b : Books) : Books :=
  { b with participants := b.participants.map fun p =>
      if p.id == some participant then { p with investment := investment } else p }

/-- Stores a row with the next identifier; gives the stored row. -/
def storeDetail (d : Detail) (b : Books) : Detail × Books :=
  let (id, b) := b.nextId
  let stored := { d with id := some id }
  (stored, { b with details := b.details ++ [stored] })

/-- Stores rows one after the other; gives the stored rows. -/
def storeDetails : List Detail → Books → List Detail × Books
  | [], b => ([], b)
  | d :: ds, b =>
    let (first, b) := storeDetail d b
    let (rest, b) := storeDetails ds b
    (first :: rest, b)

/-- Changes the distribution of an identifier. -/
def modifyDistribution (id : Int) (f : Distribution → Distribution) (b : Books) : Books :=
  { b with distributions := b.distributions.map fun d => if d.id == some id then f d else d }

/-- Sets the amount of the row of an identifier. -/
def setAmount (b : Books) (pair : Int × Int) : Books :=
  { b with details := b.details.map fun d =>
      if d.id == some pair.1 then { d with amount := pair.2 } else d }

end Books

/-- A step on the books that cannot fail. -/
def onBooks {α : Type} (f : Books → α × Books) : ExceptT StoreError (StateM Books) α :=
  ExceptT.lift (modifyGet f)

instance : DistributionStore (StateM Books) where
  getDistribution id := onBooks fun b => (b.distributions.find? (·.id == some id), b)
  listStandings := onBooks fun b => (b.participants.map b.standingOf, b)
  getParticipant id := onBooks fun b => (b.participants.find? (·.id == some id), b)
  listDetails id := onBooks fun b => (b.detailsOf id, b)
  getDetail id := onBooks fun b => (b.details.find? (·.id == some id), b)
  insertDistribution d := onBooks fun b =>
    let (id, b) := b.nextId
    let stored := { d with id := some id }
    (stored, { b with distributions := b.distributions ++ [stored] })
  insertDetail d := onBooks (Books.storeDetail d)
  replaceDetails id rows := onBooks fun b =>
    Books.storeDetails rows { b with details := b.details.filter (·.distribution != id) }
  deleteDetail id := onBooks fun b => ((), { b with details := b.details.filter (·.id != some id) })
  updateState id s := onBooks fun b => ((), b.modifyDistribution id fun d => { d with state := s })
  updateTotalProfit id total := onBooks fun b =>
    ((), b.modifyDistribution id fun d => { d with totalProfit := total })
  updateAmounts amounts := onBooks fun b => ((), amounts.foldl Books.setAmount b)

end Payout.Lifecycle
