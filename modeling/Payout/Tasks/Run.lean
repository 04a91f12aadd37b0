import Payout.Tasks.Command
import Payout.Tasks.Verify

/-!
# Running the developer tasks

Most tasks start external tools (cargo, typos, markdownlint, cargo-machete). Each start is
logged with the command it runs; here no tool is installed, so every start fails with the
system's "No such file or directory", which is logged again with the command and ends the
task. The documentation lint asks cargo for the workspace's metadata first, which fails the
same way and is reported as the metadata failing. Composite tasks run their steps in order
and stop at the first failure; the markdown lint inside `lint` may fail without failing it.
The migration check needs no tool.

A run of the program parses its command line, runs the task, and writes the log at the
threshold the command line chose; a failed task writes its failure as a last error line and
exits with 1. A refused command line writes its text instead: help on standard output with
exit code 0, errors on standard error with exit code 2.
-/

namespace Payout.Tasks

/-- A command to start: a program with its arguments, possibly with an environment variable
set or removed around it. -/
inductive Invocation where
  | program (words : List String)
  | withVar (name value : String) (inner : Invocation)
  | withoutVar (name : String) (inner : Invocation)
deriving Inhabited

/-- A command as the log describes it. -/
def Invocation.describe : Invocation → String
  | .program ws => "Cmd([" ++ ", ".intercalate (ws.map debugQuote) ++ "])"
  | .withVar n v i => "Io(Env(" ++ debugQuote n ++ ", " ++ debugQuote v ++ "), " ++ i.describe ++ ")"
  | .withoutVar n i => "Io(EnvRemove(" ++ debugQuote n ++ "), " ++ i.describe ++ ")"

/-- A cargo command. -/
def cargo (args : List String) : Invocation := .program ("cargo" :: args)

/-- A cargo command on the nightly toolchain, outside the calling cargo. -/
def nightlyCargo (args : List String) : Invocation :=
  .withVar "RUSTUP_TOOLCHAIN" "nightly" (.withoutVar "CARGO" (cargo args))

/-- The failure of starting a tool that is not installed. -/
def missingTool : String := "No such file or directory (os error 2)"

/-- Starts a command: logs it, and since its tool cannot be found, logs the failure and
fails. -/
def start (i : Invocation) : Chore Unit := do
  say .info ("running command: " ++ i.describe)
  say .error ("failed to run command: " ++ i.describe)
  throw missingTool

/-- The documentation lint: needs the workspace's metadata from cargo, which cannot be
started. -/
def docsLint : Chore Unit := throw "failed to get cargo metadata"

/-- The lint of markdown files. -/
def markdownLint : Chore Unit := start (.program ["markdownlint-cli2", "**/*.md", "!target", "!**/target"])

/-- All lints: clippy, documentation, formatting, typos, and markdown, whose failure is only
a warning. -/
def lintAll : Chore Unit := do
  start (cargo ["clippy", "--all-targets", "--all-features", "--", "-D", "warnings"])
  docsLint
  start (nightlyCargo ["fmt", "--all", "--check"])
  start (.program ["typos"])
  tryCatch markdownLint fun e =>
    say .warn ("known issue: markdownlint is currently noisy and can be ignored: " ++ e)

/-- The tests: library tests, then documentation tests. -/
def testAll : Chore Unit := do
  start (cargo ["test", "--all-targets", "--all-features"])
  start (cargo ["test", "--doc", "--all-features"])

/-- Builds everything. -/
def buildAll : Chore Unit := start (cargo ["build", "--all-targets", "--all-features"])

/-- Runs a task. -/
def Task.perform : Task → Chore Unit
  | .ci => do
    lintAll
    start (cargo ["deny", "check"])
    start (.program ["cargo-machete"])
    buildAll
    testAll
    migrationCheck
  | .build => buildAll
  | .check => start (cargo ["check", "--all-targets", "--all-features"])
  | .coverage =>
    start (cargo ["llvm-cov", "--lcov", "--output-path", "target/lcov.info", "--all-features"])
  | .deny => start (cargo ["deny", "check"])
  | .machete => start (.program ["cargo-machete"])
  | .lint => lintAll
  | .lintClippy => start (cargo ["clippy", "--all-targets", "--all-features", "--", "-D", "warnings"])
  | .lintDocs => docsLint
  | .lintFormatting => start (nightlyCargo ["fmt", "--all", "--check"])
  | .lintMarkdown => markdownLint
  | .lintTypos => start (.program ["typos"])
  | .fixClippy => start (cargo ["clippy", "--all-targets", "--all-features", "--fix",
      "--allow-dirty", "--allow-staged", "--", "-D", "warnings"])
  | .fixFormatting => start (nightlyCargo ["fmt", "--all"])
  | .fixTypos => start (.program ["typos", "-w"])
  | .test => testAll
  | .testDocs => start (cargo ["test", "--doc", "--all-features"])
  | .testLibs => start (cargo ["test", "--all-targets", "--all-features"])
  | .verifyMigrations => migrationCheck

/-- What a run of a program shows: its exit code and its two output streams. -/
structure Outcome where
  exitCode : Nat
  stdout : String
  stderr : String
deriving Inhabited

/-- Runs a task and gives its log, ending with its failure if it failed. -/
def Task.logOf (t : Task) : List Entry × Bool :=
  match (t.perform.run).run [] with
  | (.ok (), log) => (log, true)
  | (.error m, log) => (log ++ [⟨.error, m⟩], false)

/-- Runs the developer-task program on a command line. -/
def runTasks (args : List String) : Outcome :=
  match parseTaskArgs args with
  | .error f => if f.toOutput then ⟨f.exitCode, f.message, ""⟩ else ⟨f.exitCode, "", f.message⟩
  | .ok a =>
    let (log, ok) := a.task.logOf
    ⟨if ok then 0 else 1, renderLog "xtask" a.threshold log, ""⟩

end Payout.Tasks
