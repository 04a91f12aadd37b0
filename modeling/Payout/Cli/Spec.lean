/-!
# Command lines

A command-line program is described by its name, what it is about, its version (if it has
one), its flags and its subcommands. A flag has a short form (`-v`), a long form
(`--verbose`) or both, a line of help, and an action: it counts its occurrences, it takes
one value (read by a rule, with an optional default), or it asks for help or for the
version. A flag marked global is also a flag of every subcommand.

Every level of a program (the program itself or one of its subcommands) has the flag
`-h, --help`; the program has `-V, --version` when it has a version. A program with
subcommands also has the subcommand `help`, which shows the help of the subcommands named
after it.

A value read as an integer is read as a signed 64-bit integer (an optional sign, then
decimal digits, read left to right) and must then lie in the rule's bounds.
-/

namespace Payout.Cli

/-- How the value given to a flag is read. -/
inductive ValueRule where
  /-- Any text. -/
  | text
  /-- An integer between two bounds, both included. -/
  | integer (lo hi : Int)
deriving Inhabited

/-- What an occurrence of a flag does. -/
inductive Action where
  /-- Counts the occurrences. -/
  | count
  /-- Takes one value, shown in help and usage by its name. -/
  | set (valueName : String) (rule : ValueRule) (default : Option String)
  /-- Asks for help. -/
  | help
  /-- Asks for the version. -/
  | version
deriving Inhabited

/-- A flag. `conflicts` names the flags it cannot be given with. -/
structure Flag where
  id : String
  short : Option Char
  long : Option String
  help : String
  action : Action
  global : Bool
  conflicts : List String
deriving Inhabited

/-- A subcommand: its name, the other names it answers to, and what it is about. -/
structure Subcommand where
  name : String
  aliases : List String
  about : Option String
deriving Inhabited

/-- A program. `commandRequired` says a subcommand must be given; `helpWhenEmpty` says
that a command line with nothing on it shows the help. -/
structure Program where
  name : String
  about : Option String
  version : Option String
  flags : List Flag
  commands : List Subcommand
  commandRequired : Bool
  helpWhenEmpty : Bool
deriving Inhabited

/-- A value a flag was given. -/
inductive Given where
  | count (n : Nat)
  | text (s : String)
  | number (n : Int)
deriving DecidableEq, Inhabited

/-! ### Levels -/

/-- One level of a program, as it is parsed and shown: the program or a subcommand. `path`
names it in usage lines; `arguments` lists the positional arguments it shows in help, with
their help. -/
structure Level where
  path : String
  about : Option String
  version : Option String
  flags : List Flag
  commands : List Subcommand
  commandRequired : Bool
  helpWhenEmpty : Bool
  arguments : List (String × String)
deriving Inhabited

/-- The flag that asks for help. -/
def helpFlag : Flag := ⟨"help", some 'h', some "help", "Print help", .help, false, []⟩

/-- The flag that asks for the version. -/
def versionFlag : Flag := ⟨"version", some 'V', some "version", "Print version", .version, false, []⟩

/-- The subcommand that shows help. -/
def helpCommand : Subcommand :=
  ⟨"help", [], some "Print this message or the help of the given subcommand(s)"⟩

/-- The program itself as a level. -/
def Program.top (p : Program) : Level where
  path := p.name
  about := p.about
  version := p.version
  flags := p.flags ++ [helpFlag] ++ (if p.version.isSome then [versionFlag] else [])
  commands := if p.commands.isEmpty then [] else p.commands ++ [helpCommand]
  commandRequired := p.commandRequired
  helpWhenEmpty := p.helpWhenEmpty
  arguments := []

/-- A subcommand as a level: it has the program's global flags and its own help flag; the
subcommand `help` has no flags at all, and takes the names of subcommands. -/
def Program.levelOf (p : Program) (c : Subcommand) : Level where
  path := p.name ++ " " ++ c.name
  about := c.about
  version := none
  flags := if c.name == helpCommand.name then [] else p.flags.filter (·.global) ++ [helpFlag]
  commands := []
  commandRequired := false
  helpWhenEmpty := false
  arguments := if c.name == helpCommand.name then [("[COMMAND]...", "Print help for the subcommand(s)")] else []

/-- The subcommand a name or alias stands for. -/
def Level.findCommand (l : Level) (name : String) : Option Subcommand :=
  l.commands.find? fun c => c.name == name || c.aliases.contains name

/-- Every name and alias of the subcommands, in order. -/
def Level.commandNames (l : Level) : List String :=
  l.commands.flatMap fun c => c.name :: c.aliases

/-- The flag of an identifier. -/
def Level.flag? (l : Level) (id : String) : Option Flag :=
  l.flags.find? (·.id == id)

/-! ### Showing flags -/

/-- What follows a flag's name where it is shown: its value's name, or `...` for a flag
that counts. -/
def Flag.suffix (f : Flag) : String :=
  match f.action with
  | .set v _ _ => " <" ++ v ++ ">"
  | .count => "..."
  | _ => ""

/-- A flag as messages and usage lines name it: its long form if it has one, else its short
form, and its suffix. -/
def Flag.display (f : Flag) : String :=
  (match f.long, f.short with
    | some l, _ => "--" ++ l
    | none, some c => "-" ++ String.singleton c
    | none, none => f.id) ++ f.suffix

/-- Whether a flag takes a value. -/
def Flag.takesValue (f : Flag) : Bool :=
  match f.action with
  | .set .. => true
  | _ => false

/-- The default of a flag that takes a value. -/
def Flag.default? (f : Flag) : Option String :=
  match f.action with
  | .set _ _ d => d
  | _ => none

/-! ### Reading values -/

/-- Reads a signed 64-bit integer in decimal. The digits are read left to right; a
character that is no digit is refused as soon as it is reached, and so is a value that
leaves the range. -/
def readWord (s : String) : Except String Int :=
  let lo : Int := -(Int.pow 2 63)
  let hi : Int := Int.pow 2 63 - 1
  let (negative, digits) := match s.toList with
    | '-' :: r => (true, r)
    | '+' :: r => (false, r)
    | r => (false, r)
  let rec go (acc : Int) : List Char → Except String Int
    | [] => .ok acc
    | c :: cs =>
      if !c.isDigit then .error "invalid digit found in string"
      else
        let d : Int := c.toNat - '0'.toNat
        let next := if negative then acc * 10 - d else acc * 10 + d
        if next < lo then .error "number too small to fit in target type"
        else if next > hi then .error "number too large to fit in target type"
        else go next cs
  if s.isEmpty then .error "cannot parse integer from empty string"
  else if digits.isEmpty then .error "invalid digit found in string"
  else go 0 digits

/-- Reads a value by a rule. -/
def ValueRule.read : ValueRule → String → Except String Given
  | .text, s => .ok (.text s)
  | .integer lo hi, s => do
    let n ← readWord s
    if lo ≤ n && n ≤ hi then pure (.number n)
    else throw (toString n ++ " is not in " ++ toString lo ++ "..=" ++ toString hi)

end Payout.Cli
