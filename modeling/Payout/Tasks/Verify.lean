import Payout.Layout.Check
import Payout.Tasks.Log

/-!
# Verifying the migrations

The migrations are verified on a scratch database in memory, with foreign keys enforced:
they are applied, the layout they give is read and checked against the expected one, they
are reverted and no table may be left, and they are applied again and must give the same
layout. Each stage is logged; the first that fails stops the verification with its message.

A scratch database can also be set up by hand, migrated or not and then changed by
statements, and its layout read and checked; this is how the check is tried on altered
schemas.
-/

namespace Payout.Tasks

open Database Layout

/-- A fresh scratch database in memory, with foreign keys enforced. -/
def scratch : Handle := ((Handle.of Database.File.empty).batch "PRAGMA foreign_keys = ON").1

/-- Runs a migration step on a handle; a failure is named by what was being done. -/
def migrateWith (step : Store.StoreM Unit) (doing : String) (h : Handle) : Except String Handle :=
  match (step.run).run h with
  | (.ok (), h') => .ok h'
  | (.error e, _) => .error (doing ++ e.message)

/-- Lifts a failure into a logging chore. -/
def Chore.ofExcept {α : Type} : Except String α → Chore α
  | .ok a => pure a
  | .error m => throw m

/-- Reads the layout of a handle's database; a failure is its outermost message. -/
def readLayout (h : Handle) : Chore Layout :=
  Chore.ofExcept ((layoutOf h).mapError (·.message))

/-- Names as a list in a message: quoted, between brackets. -/
def nameListText (names : List String) : String :=
  "[" ++ ", ".intercalate (names.map debugQuote) ++ "]"

/-- Verifies the migrations, logging each stage. -/
def migrationCheck : Chore Unit := do
  say .info "Starting migration verification"
  let h ← Chore.ofExcept (migrateWith Store.migrate "Failed to apply migrations: " scratch)
  say .info "Migrations applied successfully"
  let applied ← readLayout h
  let notes ← Chore.ofExcept applied.check
  for n in notes do say .debug n.text
  say .info "Schema matches expected layout"
  let h ← Chore.ofExcept (migrateWith Store.revert "Failed to revert migrations: " h)
  let reverted ← readLayout h
  if !reverted.tables.isEmpty then
    throw (checkFailed ("tables left after revert: " ++ nameListText (reverted.tables.map (·.1))))
  say .info "Migrations reverted cleanly"
  let h ← Chore.ofExcept (migrateWith Store.migrate "Failed to re-apply migrations: " h)
  let reapplied ← readLayout h
  if reapplied != applied then throw (checkFailed "schema differs after revert and re-apply")
  say .info "✓ Migration verification passed"

/-- What setting up and reading a scratch database gave. -/
inductive Probe where
  /-- A setup statement failed. -/
  | setupFailed (message : String)
  /-- The layout could not be read. -/
  | unreadable (report : Report)
  /-- The layout, and the check's verdict on it. -/
  | read (layout : Layout) (verdict : Except String (List IndexNote))

/-- Runs setup statements in turn; a failure names the statement by its position from zero. -/
def setUp (h : Handle) (statements : List String) : Except String Handle :=
  (statements.zipIdx).foldlM (fun h (text, i) =>
    match h.batch text with
    | (h', none) => .ok h'
    | (_, some m) => .error ("statement " ++ toString i ++ ": " ++ m)) h

/-- Sets up a scratch database, migrated or not and then changed by statements, and reads
and checks its layout. -/
def probeScratch (migrated : Bool) (statements : List String) : Probe :=
  let start := if migrated then migrateWith Store.migrate "migrations: " scratch else .ok scratch
  match start >>= fun h => setUp h statements with
  | .error m => .setupFailed m
  | .ok h =>
    match layoutOf h with
    | .error r => .unreadable r
    | .ok l => .read l l.check

end Payout.Tasks
