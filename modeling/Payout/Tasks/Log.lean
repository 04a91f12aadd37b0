/-!
# Task logs

The developer tasks report what they do as log lines, each with a level. Levels go from the
most to the least severe: error, warn, info, debug, trace. A threshold shows the lines at
its level and the more severe ones; the threshold `off` shows none.

A line is written as its level in capitals, right-aligned to five places, the name of the
program, a colon, and the message.
-/

namespace Payout.Tasks

/-- The level of a log line. -/
inductive Level where
  | error | warn | info | debug | trace
deriving DecidableEq, Inhabited

/-- The rank of a level: the more severe, the smaller. -/
def Level.rank : Level → Nat
  | .error => 0
  | .warn => 1
  | .info => 2
  | .debug => 3
  | .trace => 4

/-- The name of a level in capitals. -/
def Level.label : Level → String
  | .error => "ERROR"
  | .warn => "WARN"
  | .info => "INFO"
  | .debug => "DEBUG"
  | .trace => "TRACE"

/-- A threshold: no line at all, or the lines up to a level. -/
inductive Threshold where
  | off
  | upTo (level : Level)
deriving DecidableEq, Inhabited

/-- The name of a threshold. -/
def Threshold.name : Threshold → String
  | .off => "off"
  | .upTo .error => "error"
  | .upTo .warn => "warn"
  | .upTo .info => "info"
  | .upTo .debug => "debug"
  | .upTo .trace => "trace"

/-- Whether a threshold shows a level. -/
def Threshold.shows (t : Threshold) (l : Level) : Bool :=
  match t with
  | .off => false
  | .upTo m => l.rank ≤ m.rank

/-- A log line. -/
structure Entry where
  level : Level
  message : String
deriving Inhabited

/-- A log line as written by a program. -/
def Entry.render (program : String) (e : Entry) : String :=
  let label := e.level.label
  String.ofList (List.replicate (5 - label.length) ' ') ++ label ++ " " ++ program ++ ": " ++
    e.message ++ "\n"

/-- The lines a threshold shows, written by a program. -/
def renderLog (program : String) (t : Threshold) (log : List Entry) : String :=
  String.join ((log.filter (t.shows ·.level)).map (Entry.render program))

/-- Work that logs lines and may fail with a message. -/
abbrev Chore := ExceptT String (StateM (List Entry))

/-- Logs a line. -/
def say (l : Level) (m : String) : Chore Unit := modify (· ++ [⟨l, m⟩])

end Payout.Tasks
