import Payout.Proofs.Calendar.RoundTrip
import Payout.Store.Ledger

/-!
# Reading a stored distribution back from the database

The books in memory keep a distribution as the record they were given, so a stored
distribution always reads back as it was. The database keeps the cells of its row instead,
with the date as the text `Date.render` writes, and the store rebuilds the record from these
cells with the ISO 8601 reader. This is where the two stores part.

Work on the connection is followed through a run one step at a time: a step whose run is known
is replaced by its result (`run_bind_of_ok`), and the store's reads are the database's rows,
decoded (`run_readAs_of_read`), with their failures relabelled (`run_orFail_of_ok`). So when
the database answers a row, `getDistribution` gives what rebuilding that row gives
(`run_getDistribution_of_read`). When the row is the one the store wrote for a distribution,
the distribution comes back exactly when its date's year lies from 0 to 9999
(`getDistribution_written_iff`); for any other year the read fails with a reconstruction error
that shows the stored text (`getDistribution_written_of_year`).
-/

namespace Payout.Store

open Database Calendar

section Run

variable {ε α β : Type} {h h' : Handle}

/-- A step of work on the connection whose run succeeds hands its value and its handle to the
work after it. -/
theorem run_bind_of_ok {x : ExceptT ε (StateM Handle) α} {f : α → ExceptT ε (StateM Handle) β}
    {a : α} (hx : (ExceptT.run x).run h = (.ok a, h')) :
  (ExceptT.run (x >>= f)).run h = (ExceptT.run (f a)).run h'
  := by
  rw [ExceptT.run_bind, StateT.run_bind, hx]
  rfl

/-- Work that succeeds succeeds the same way whatever its failures would have become. -/
theorem run_orFail_of_ok {x : Sql α} {a : α} (w : String → PersistenceError)
    (hx : (ExceptT.run x).run h = (.ok a, h')) :
  (ExceptT.run (x.orFail w)).run h = (.ok a, h')
  := by
  rw [Sql.orFail, ExceptT.run_adapt, StateT.run_map, hx]
  rfl

/-- A read whose rows all decode gives the decoded rows. -/
theorem run_readAs_of_read {q : Select} {rows : List (List Value)}
    {decode : List Value → Except String α} {xs : List α}
    (hread : (ExceptT.run (Sql.read q)).run h = (.ok rows, h'))
    (hdecode : rows.mapM decode = .ok xs) :
  (ExceptT.run (Sql.readAs q decode)).run h = (.ok xs, h')
  := by
  rw [Sql.readAs, run_bind_of_ok hread, hdecode]
  rfl

end Run

/-- When the database answers one row for an identifier, the store's distribution of that
identifier is what rebuilding the row gives. -/
theorem run_getDistribution_of_read {h h' : Handle} {id : Int} {cells : List Value}
    {r : DistributionRow}
    (hread : (ExceptT.run (Sql.read (distributionById id).query)).run h = (.ok [cells], h'))
    (hrow : distributionRowOf cells = .ok r) :
  (ExceptT.run (getDistribution id)).run h = (r.toDistribution.map some, h')
  := by
  have hrows : [cells].mapM distributionRowOf = .ok [r] := by
    rw [List.mapM_cons, hrow]
    rfl
  rw [getDistribution, readNamed, run_bind_of_ok (run_orFail_of_ok _ (run_readAs_of_read hread hrows))]
  show (ExceptT.run (some <$> StoreM.ofExcept r.toDistribution)).run h' = _
  cases r.toDistribution <;> rfl

/-- A result given as an option is some value exactly when the result is that value. -/
theorem map_some_eq_ok {ε α : Type} {x : Except ε α} {a : α} :
  x.map some = .ok (some a) ↔ x = .ok a
  := by
  cases x <;> simp [Except.map]

/-- The cells the store writes for a distribution, with the date as its text, read as one
row. -/
theorem distributionRowOf_written (id : Int) (period date : String) (total : Int)
    (state : String) :
  distributionRowOf [.integer id, .text period, .text date, .integer total, .text state]
    = .ok ⟨id, period, date, total, state⟩
  := rfl

/-- When the database answers the row the store wrote for a distribution whose date the
reader produced, reading the distribution back gives it, under its identifier, exactly when
the date's year lies from 0 to 9999. The books give back every distribution they stored. -/
theorem getDistribution_written_iff {h h' : Handle} {s : String} {date : Date}
    (hdate : parseIsoDate s = .ok date) {id : Int} {period : String} {total : Int} {st : State}
    (hread : (ExceptT.run (Sql.read (distributionById id).query)).run h =
      (.ok [[.integer id, .text period, .text date.render, .integer total, .text st.name]], h')) :
  (ExceptT.run (getDistribution id)).run h = (.ok (some ⟨some id, period, date, total, st⟩), h')
    ↔ 0 ≤ date.year ∧ date.year ≤ 9999
  := by
  rw [run_getDistribution_of_read hread (distributionRowOf_written _ _ _ _ _), Prod.mk.injEq,
    map_some_eq_ok, and_iff_left rfl]
  exact toDistribution_written_iff hdate id period total st

/-- When the database answers the row the store wrote for a distribution whose date has a
year outside 0 to 9999, reading the distribution back fails with a reconstruction error that
shows the date's text, and changes nothing more than the read did. -/
theorem getDistribution_written_of_year {h h' : Handle} {s : String} {date : Date}
    (hdate : parseIsoDate s = .ok date) (hyear : ¬(0 ≤ date.year ∧ date.year ≤ 9999))
    {id : Int} {period : String} {total : Int} {st : State}
    (hread : (ExceptT.run (Sql.read (distributionById id).query)).run h =
      (.ok [[.integer id, .text period, .text date.render, .integer total, .text st.name]], h')) :
  ∃ m, (ExceptT.run (getDistribution id)).run h = (.error (.reconstruction
    ("Failed to parse distribution_date '" ++ date.render ++ "': " ++ m)), h')
  := by
  obtain ⟨m, hm⟩ := toDistribution_written_of_year hdate hyear id period total st
  refine ⟨m, ?_⟩
  rw [run_getDistribution_of_read hread (distributionRowOf_written _ _ _ _ _), hm]
  rfl

/-- The text `-000001-01-01` is read as the first of January of the year -1, which the store
writes `-0001-01-01`; the row of a distribution with that date is not rebuilt. -/
theorem toDistribution_written_yearMinusOne :
  parseIsoDate "-000001-01-01" = .ok ⟨-1, 1, 1⟩ ∧ Date.render ⟨-1, 1, 1⟩ = "-0001-01-01"
    ∧ ∃ m, DistributionRow.toDistribution ⟨1, "2026-Q2", Date.render ⟨-1, 1, 1⟩, 2500,
        State.pending.name⟩
      = .error (.reconstruction ("Failed to parse distribution_date '-0001-01-01': " ++ m))
  := by
  have hdate : parseIsoDate "-000001-01-01" = .ok ⟨-1, 1, 1⟩ := eq_ok_of_toOption (by decide)
  have hrender : Date.render ⟨-1, 1, 1⟩ = "-0001-01-01" := by decide
  obtain ⟨m, hm⟩ := toDistribution_written_of_year hdate (by decide) 1 "2026-Q2" 2500 .pending
  refine ⟨hdate, hrender, m, ?_⟩
  rw [hm, hrender]
  rfl

end Payout.Store
