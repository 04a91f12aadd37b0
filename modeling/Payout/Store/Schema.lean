import Payout.Store.Records

/-!
# The schema and its migration

The tables of the store, written as one script, and how a database is brought up to it.
A database records which schema scripts it has run in a bookkeeping table of versions,
created if missing. A script not recorded there runs in a transaction together with the
line that records it; when a statement of the script fails, nothing of it stays and the
migration fails with the script's name and the statement's message.
-/

namespace Payout.Store

open Database

/-- The lines of the schema script. -/
def schemaLines : List String := [
  "-- Roles are maintained by participant management; allocation only reads them.",
  "CREATE TABLE roles (",
  "    role_id INTEGER PRIMARY KEY AUTOINCREMENT,",
  "    name TEXT NOT NULL,",
  "    importance DOUBLE NOT NULL CHECK (importance >= 0)",
  ");",
  "",
  "CREATE TABLE participants (",
  "    participant_id INTEGER PRIMARY KEY AUTOINCREMENT,",
  "    name TEXT NOT NULL,",
  "    investment_total DOUBLE NOT NULL DEFAULT 0 CHECK (investment_total >= 0),",
  "    role_id INTEGER REFERENCES roles(role_id) ON DELETE SET NULL,",
  "    active INTEGER NOT NULL DEFAULT 1 CHECK (active IN (0, 1))",
  ");",
  "",
  "CREATE TABLE distributions (",
  "    distribution_id INTEGER PRIMARY KEY AUTOINCREMENT,",
  "    period TEXT NOT NULL,",
  "    distribution_date TEXT NOT NULL,",
  "    total_profit BIGINT NOT NULL,",
  "    state TEXT NOT NULL DEFAULT 'Pending' CHECK (state IN ('Pending', 'Distributed')),",
  "    created_at TEXT DEFAULT CURRENT_TIMESTAMP",
  ");",
  "",
  "CREATE INDEX idx_distributions_period ON distributions(period);",
  "",
  "CREATE TABLE distribution_details (",
  "    detail_id INTEGER PRIMARY KEY AUTOINCREMENT,",
  "    distribution_id INTEGER NOT NULL REFERENCES distributions(distribution_id) ON DELETE CASCADE,",
  "    participant_id INTEGER NOT NULL REFERENCES participants(participant_id),",
  "    percentage DOUBLE NOT NULL CHECK (percentage > 0 AND percentage <= 100),",
  "    amount BIGINT NOT NULL,",
  "    UNIQUE (distribution_id, participant_id)",
  ");",
  "",
  "CREATE INDEX idx_distribution_details_distribution ON distribution_details(distribution_id);",
  "",
  "CREATE TABLE audit_events (",
  "    event_id INTEGER PRIMARY KEY AUTOINCREMENT,",
  "    distribution_id INTEGER REFERENCES distributions(distribution_id) ON DELETE SET NULL,",
  "    actor_json TEXT NOT NULL,",
  "    cause_json TEXT NOT NULL,",
  "    action_json TEXT NOT NULL,",
  "    before_snapshot_json TEXT NOT NULL,",
  "    after_snapshot_json TEXT NOT NULL,",
  "    created_at TEXT DEFAULT CURRENT_TIMESTAMP",
  ");",
  "",
  "CREATE INDEX idx_audit_events_distribution ON audit_events(distribution_id);",
  ""
]

/-- The schema script: roles, participants, distributions, their detail rows and the audit
trail, with the indexes that reads by period, distribution and event use. -/
def schemaScript : String := "\n".intercalate schemaLines

/-- The name of the schema script, as a failure names it. -/
def migrationName : String := "2026-01-05-000000_create_profit_share_schema"

/-- The version the schema script is recorded under. -/
def migrationVersion : String := "20260105000000"

/-- The table of versions already run. -/
def versionTable : String := "__diesel_schema_migrations"

/-- The statement that creates the table of versions when it is missing. -/
def versionTableScript : String :=
  "CREATE TABLE IF NOT EXISTS " ++ versionTable ++ " (\n" ++
  "       version VARCHAR(50) PRIMARY KEY NOT NULL,\n" ++
  "       run_on TIMESTAMP NOT NULL DEFAULT CURRENT_TIMESTAMP\n" ++
  ")"

/-- Brings the database up to the schema: runs the schema script unless its version is
recorded, and records it. -/
def migrate : StoreM Unit := do
  (Sql.batch versionTableScript).orFail .migrationFailed
  let applied ← (Sql.readAs (selectFrom versionTable ["version"]).query fun r => readText (cell r 0)).orFail
    .migrationFailed
  if applied.contains migrationVersion then return
  transaction do
    (Sql.batch schemaScript).orFail fun m =>
      .migrationFailed ("Failed to run " ++ migrationName ++ " with: " ++ m)
    let _ ← (Sql.run (insertStatement versionTable ["version"] [.text migrationVersion])).orFail
      .migrationFailed

/-- The lines of the script that takes the schema down again, dropping every index and table
it made, children before parents. -/
def downLines : List String := [
  "DROP INDEX IF EXISTS idx_audit_events_distribution;",
  "DROP TABLE IF EXISTS audit_events;",
  "DROP INDEX IF EXISTS idx_distribution_details_distribution;",
  "DROP TABLE IF EXISTS distribution_details;",
  "DROP INDEX IF EXISTS idx_distributions_period;",
  "DROP TABLE IF EXISTS distributions;",
  "DROP TABLE IF EXISTS participants;",
  "DROP TABLE IF EXISTS roles;",
  ""
]

/-- The script that takes the schema down. -/
def downScript : String := "\n".intercalate downLines

/-- Takes the database back down: when the schema script is recorded, runs the script that
takes it down and forgets the record, in one transaction. -/
def revert : StoreM Unit := do
  let applied ← (Sql.readAs (selectFrom versionTable ["version"]).query fun r => readText (cell r 0)).orFail
    .migrationFailed
  if !applied.contains migrationVersion then return
  transaction do
    (Sql.batch downScript).orFail fun m =>
      .migrationFailed ("Failed to revert " ++ migrationName ++ " with: " ++ m)
    let _ ← (Sql.run (deleteStatement versionTable
      (some (columnIs versionTable "version" (.text migrationVersion))))).orFail .migrationFailed

end Payout.Store
