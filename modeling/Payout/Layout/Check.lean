import Payout.Layout.Inspect
import Payout.Text.Quoted

/-!
# The expected layout

The tables the distribution engine relies on, and the check of a layout against them. The
check stops at the first difference, in this order: the set of table names; then, table by
table in the order below, the number of columns, each column (in order of name) against the
expected one of its name, and the primary key, which is the first expected column alone;
then a single-column index on each looked-up column; then each foreign key; and last the
uniqueness of one row per participant in a distribution.

A passing check notes, for each looked-up column, the first index (in order of name) that
serves it.
-/

namespace Payout.Layout

/-- An expected column: name, kind and whether it takes null. -/
structure ExpectedColumn where
  name : String
  kind : String
  nullable : Bool

/-- The expected tables and their columns, the primary key first. -/
def expectedTables : List (String × List ExpectedColumn) :=
  [("roles", [⟨"role_id", "integer", true⟩, ⟨"name", "text", false⟩, ⟨"importance", "real", false⟩]),
   ("participants", [⟨"participant_id", "integer", true⟩, ⟨"name", "text", false⟩,
     ⟨"investment_total", "real", false⟩, ⟨"role_id", "integer", true⟩,
     ⟨"active", "integer", false⟩]),
   ("distributions", [⟨"distribution_id", "integer", true⟩, ⟨"period", "text", false⟩,
     ⟨"distribution_date", "text", false⟩, ⟨"total_profit", "integer", false⟩,
     ⟨"state", "text", false⟩, ⟨"created_at", "text", true⟩]),
   ("distribution_details", [⟨"detail_id", "integer", true⟩,
     ⟨"distribution_id", "integer", false⟩, ⟨"participant_id", "integer", false⟩,
     ⟨"percentage", "real", false⟩, ⟨"amount", "integer", false⟩]),
   ("audit_events", [⟨"event_id", "integer", true⟩, ⟨"distribution_id", "integer", true⟩,
     ⟨"actor_json", "text", false⟩, ⟨"cause_json", "text", false⟩,
     ⟨"action_json", "text", false⟩, ⟨"before_snapshot_json", "text", false⟩,
     ⟨"after_snapshot_json", "text", false⟩, ⟨"created_at", "text", true⟩])]

/-- The expected foreign keys, with their child tables. -/
def expectedKeys : List (String × KeyLink) :=
  [("participants", ⟨"role_id", "roles", "role_id"⟩),
   ("distribution_details", ⟨"distribution_id", "distributions", "distribution_id"⟩),
   ("distribution_details", ⟨"participant_id", "participants", "participant_id"⟩),
   ("audit_events", ⟨"distribution_id", "distributions", "distribution_id"⟩)]

/-- The columns that reads look rows up by, each of which needs an index of its own. -/
def expectedIndexes : List (String × String) :=
  [("distributions", "period"), ("distribution_details", "distribution_id"),
   ("audit_events", "distribution_id")]

/-- The columns that make a participant's row in a distribution unique. -/
def onePerParticipant : List String := ["distribution_id", "participant_id"]

/-- An index found for a looked-up column. -/
structure IndexNote where
  index : String
  table : String
  column : String

/-- The note of a found index, as logged. -/
def IndexNote.text (n : IndexNote) : String :=
  "found index " ++ n.index ++ " on " ++ n.table ++ "." ++ n.column

/-- A set of names as written in a check message: quoted, between braces. -/
def nameSetText (names : List String) : String :=
  "\x7b" ++ ", ".intercalate (names.map debugQuote) ++ "\x7d"

/-- A foreign key as written in a check message. -/
def KeyLink.text (k : KeyLink) : String :=
  "ForeignKey \x7b from_column: " ++ debugQuote k.fromColumn ++ ", to_table: " ++
    debugQuote k.toTable ++ ", to_column: " ++ debugQuote k.toColumn ++ " \x7d"

/-- A failed check's message. -/
def checkFailed (what : String) : String := "❌ Migration verification FAILED: " ++ what

/-- Checks one expected table's columns and primary key. -/
def checkTable (name : String) (expected : List ExpectedColumn) (t : TableShape) :
    Except String Unit := do
  if t.columns.length != expected.length then
    throw (checkFailed ("table '" ++ name ++ "' has " ++ toString t.columns.length ++
      " columns, expected " ++ toString expected.length))
  for c in t.columns do
    match expected.find? (·.name == c.name) with
    | none => throw (checkFailed ("unexpected column '" ++ c.name ++ "' in table '" ++ name ++ "'"))
    | some e =>
      if c.kind != e.kind || c.nullable != e.nullable then
        throw (checkFailed ("column '" ++ name ++ "." ++ c.name ++ "' is " ++ c.kind ++
          " (nullable: " ++ toString c.nullable ++ "), expected " ++ e.kind ++ " (nullable: " ++
          toString e.nullable ++ ")"))
  if t.primaryKeys != (expected.head?.map (·.name)).toList then
    throw (checkFailed ("Primary key mismatch in table '" ++ name ++ "': " ++ nameSetText t.primaryKeys))

/-- Checks a layout against the expected one; gives the indexes found for the looked-up
columns. -/
def check (l : Layout) : Except String (List IndexNote) := do
  let expectedNames := (expectedTables.map (·.1)).foldr (insertSorted nameLt) []
  let actualNames := l.tables.map (·.1)
  if expectedNames != actualNames then
    throw (checkFailed ("Table mismatch\n  expected: " ++ nameSetText expectedNames ++
      "\n  actual: " ++ nameSetText actualNames))
  let tableOf := fun (n : String) => (l.table? n).getD TableShape.empty
  for (n, cols) in expectedTables do
    checkTable n cols (tableOf n)
  let notes ← expectedIndexes.mapM fun (n, c) =>
    match (tableOf n).indexes.find? (·.columns == [c]) with
    | some i => pure ⟨i.name, n, c⟩
    | none => throw (checkFailed ("Missing index on '" ++ n ++ "." ++ c ++ "'"))
  for (n, k) in expectedKeys do
    if !(tableOf n).foreignKeys.contains k then
      throw (checkFailed ("Missing foreign key on '" ++ n ++ "': " ++ k.text))
  if !(tableOf "distribution_details").uniques.contains onePerParticipant then
    throw (checkFailed "distribution_details lacks UNIQUE(distribution_id, participant_id)")
  pure notes

end Payout.Layout
