import Payout.Tasks.Run

/-!
# The developer-task program

Runs the developer tasks from the command line: `cargo xtask <task> [-v|-q]...`. The
program writes what the run shows on its two streams and exits with the run's code.
-/

open Payout.Tasks

/-- Runs the developer tasks on the process's arguments. -/
def main (args : List String) : IO UInt32 := do
  let o := runTasks args
  IO.print o.stdout
  IO.eprint o.stderr
  pure o.exitCode.toUInt32
