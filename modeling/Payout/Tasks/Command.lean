import Payout.Cli.Parse
import Payout.Tasks.Log

/-!
# The developer tasks and their command line

The project's developer tasks, run as `cargo xtask <task>`: checks, builds, tests, linters,
fixers, and the verification of the database migrations. Each task has a command name, most
have a short alias, and all but one say what they do.

Two global flags set how much is logged: `-v, --verbose` and `-q, --quiet`, which cannot be
used together. Logging starts at `info`; each `-v` raises the threshold one step towards
`trace` and each `-q` lowers it one step towards `off`. The step count is kept in a signed
byte, so counts beyond 127 wrap around.
-/

namespace Payout.Tasks

/-- A developer task. -/
inductive Task where
  | ci | build | check | coverage | deny | machete | lint | lintClippy | lintDocs
  | lintFormatting | lintMarkdown | lintTypos | fixClippy | fixFormatting | fixTypos | test
  | testDocs | testLibs | verifyMigrations
deriving DecidableEq, Inhabited

/-- Every task, in the order the help lists them. -/
def Task.all : List Task :=
  [.ci, .build, .check, .coverage, .deny, .machete, .lint, .lintClippy, .lintDocs,
   .lintFormatting, .lintMarkdown, .lintTypos, .fixClippy, .fixFormatting, .fixTypos, .test,
   .testDocs, .testLibs, .verifyMigrations]

/-- The command name of a task. -/
def Task.name : Task → String
  | .ci => "ci"
  | .build => "build"
  | .check => "check"
  | .coverage => "coverage"
  | .deny => "deny"
  | .machete => "machete"
  | .lint => "lint"
  | .lintClippy => "lint-clippy"
  | .lintDocs => "lint-docs"
  | .lintFormatting => "lint-formatting"
  | .lintMarkdown => "lint-markdown"
  | .lintTypos => "lint-typos"
  | .fixClippy => "fix-clippy"
  | .fixFormatting => "fix-formatting"
  | .fixTypos => "fix-typos"
  | .test => "test"
  | .testDocs => "test-docs"
  | .testLibs => "test-libs"
  | .verifyMigrations => "verify-migrations"

/-- The title of a task, as a parsed command line shows it. -/
def Task.title : Task → String
  | .ci => "CI"
  | .build => "Build"
  | .check => "Check"
  | .coverage => "Coverage"
  | .deny => "Deny"
  | .machete => "Machete"
  | .lint => "Lint"
  | .lintClippy => "LintClippy"
  | .lintDocs => "LintDocs"
  | .lintFormatting => "LintFormatting"
  | .lintMarkdown => "LintMarkdown"
  | .lintTypos => "LintTypos"
  | .fixClippy => "FixClippy"
  | .fixFormatting => "FixFormatting"
  | .fixTypos => "FixTypos"
  | .test => "Test"
  | .testDocs => "TestDocs"
  | .testLibs => "TestLibs"
  | .verifyMigrations => "VerifyMigrations"

/-- The short alias of a task. -/
def Task.shortName : Task → Option String
  | .ci => none
  | .build => some "b"
  | .check => some "c"
  | .coverage => some "cov"
  | .deny => some "cd"
  | .machete => some "m"
  | .lint => some "l"
  | .lintClippy => some "cl"
  | .lintDocs => some "d"
  | .lintFormatting => some "lf"
  | .lintMarkdown => some "md"
  | .lintTypos => some "lt"
  | .fixClippy => some "fc"
  | .fixFormatting => some "fmt"
  | .fixTypos => some "typos"
  | .test => some "t"
  | .testDocs => some "td"
  | .testLibs => some "tl"
  | .verifyMigrations => some "vm"

/-- What a task does, as the help says it. -/
def Task.about : Task → Option String
  | .ci => some "Run CI checks (lint, build, test)"
  | .build => some "Build the project"
  | .check => some "Run cargo check"
  | .coverage => some "Generate code coverage report"
  | .deny => some "Check dependencies"
  | .machete => none
  | .lint => some "Lint formatting, typos, clippy, and docs"
  | .lintClippy => some "Run clippy on the project"
  | .lintDocs => some "Check documentation for errors and warnings"
  | .lintFormatting => some "Check for formatting issues in the project"
  | .lintMarkdown => some "Lint markdown files"
  | .lintTypos => some "Check for typos in the project"
  | .fixClippy => some "Fix clippy warnings in the project"
  | .fixFormatting => some "Fix formatting issues in the project"
  | .fixTypos => some "Fix typos in the project"
  | .test => some "Run tests"
  | .testDocs => some "Run doc tests"
  | .testLibs => some "Run lib tests"
  | .verifyMigrations =>
    some "Verify the `SQLite` migrations produce the expected schema and revert cleanly"

/-- The task of a command name. -/
def Task.ofName? (name : String) : Option Task := Task.all.find? (·.name == name)

/-- The flags that set how much is logged. -/
def verbosityFlags : List Cli.Flag :=
  [⟨"verbose", some 'v', some "verbose", "Increase logging verbosity", .count, true, []⟩,
   ⟨"quiet", some 'q', some "quiet", "Decrease logging verbosity", .count, true, ["verbose"]⟩]

/-- The command line of the developer tasks. -/
def taskProgram : Cli.Program where
  name := "cargo xtask"
  about := none
  version := none
  flags := verbosityFlags
  commands := Task.all.map fun t => ⟨t.name, t.shortName.toList, t.about⟩
  commandRequired := true
  helpWhenEmpty := true

/-- A parsed command line: the task, and how often each verbosity flag was given. -/
structure TaskArgs where
  task : Task
  verbose : Nat
  quiet : Nat
deriving Inhabited

/-- The log threshold of a command line: `info` moved up by the `-v` count and down by the
`-q` count, each taken as a signed byte. -/
def TaskArgs.threshold (a : TaskArgs) : Threshold :=
  let step : Int8 := 2 - (a.quiet.toUInt8).toInt8 + (a.verbose.toUInt8).toInt8
  match step.toInt with
  | 0 => .upTo .error
  | 1 => .upTo .warn
  | 2 => .upTo .info
  | 3 => .upTo .debug
  | n => if n < 0 then .off else .upTo .trace

/-- Parses the command line of the developer tasks. -/
def parseTaskArgs (args : List String) : Except Cli.Failure TaskArgs := do
  let m ← taskProgram.parse args
  let some task := m.command.bind Task.ofName? | throw (Cli.missingCommand taskProgram.top)
  pure ⟨task, m.count "verbose", m.count "quiet"⟩

end Payout.Tasks
