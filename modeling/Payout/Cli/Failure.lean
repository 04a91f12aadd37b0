import Payout.Cli.Help
import Payout.Cli.Similar

/-!
# Refused command lines

Why a command line was not taken, and what the program says about it. Asking for help or for
the version also ends the parse this way: the help or version is shown on standard output and
the program exits with 0. Everything else is an error, shown on standard error with exit
code 2: `error: ` and the reason, then any tips (each on a line of its own after a blank
line), then the usage line if the error carries one, and last a pointer to `--help` when the
level has a help flag to point to. A
command line with nothing on it, for a program that shows its help then, shows the help on
standard error with exit code 2.
-/

namespace Payout.Cli

/-- The kind of a refusal. -/
inductive FailureKind where
  | displayHelp
  | displayVersion
  | displayHelpOnMissing
  | missingSubcommand
  | argumentConflict
  | unknownArgument
  | invalidSubcommand
  | invalidValue
  | valueValidation
  | tooManyValues
deriving DecidableEq, Inhabited

/-- The name of a kind of refusal. -/
def FailureKind.name : FailureKind → String
  | .displayHelp => "DisplayHelp"
  | .displayVersion => "DisplayVersion"
  | .displayHelpOnMissing => "DisplayHelpOnMissingArgumentOrSubcommand"
  | .missingSubcommand => "MissingSubcommand"
  | .argumentConflict => "ArgumentConflict"
  | .unknownArgument => "UnknownArgument"
  | .invalidSubcommand => "InvalidSubcommand"
  | .invalidValue => "InvalidValue"
  | .valueValidation => "ValueValidation"
  | .tooManyValues => "TooManyValues"

/-- A refused command line: the kind and the full text shown. -/
structure Failure where
  kind : FailureKind
  message : String
deriving Inhabited

/-- Whether the text goes to standard output: help and version requests. -/
def Failure.toOutput (f : Failure) : Bool :=
  f.kind == .displayHelp || f.kind == .displayVersion

/-- The exit code of a refusal. -/
def Failure.exitCode (f : Failure) : Nat := if f.toOutput then 0 else 2

/-- The text of an error: the reason, the tips, the usage line and, if `pointer`, the
pointer to help. -/
def errorText (reason : String) (tips : List String) (usage : Option String) (pointer : Bool) :
    String :=
  "error: " ++ reason ++
    (if tips.isEmpty then "" else "\n" ++ String.join (tips.map ("\n  tip: " ++ ·))) ++
    (match usage with
      | some u => "\n\nUsage: " ++ u
      | none => "") ++
    (if pointer then "\n\nFor more information, try '--help'.\n" else "\n")

/-- An error with its reason, tips and usage line, pointing to help. -/
def Failure.error (kind : FailureKind) (reason : String) (tips : List String)
    (usage : Option String) : Failure :=
  ⟨kind, errorText reason tips usage true⟩

/-- Whether a level has the flag that asks for help. -/
def Level.hasHelpFlag (l : Level) : Bool :=
  l.flags.any fun f => match f.action with
    | .help => true
    | _ => false

/-- A tip naming similar things. -/
def similarTip (what : String) (names : List String) : String :=
  (if names.length == 1 then "a similar " ++ what ++ " exists: "
   else "some similar " ++ what ++ "s exist: ") ++
    ", ".intercalate (names.map fun n => "'" ++ n ++ "'")

/-- An argument that fits nowhere. -/
def unknownArgument (l : Level) (arg : String) (tips : List String) (given : List Flag) : Failure :=
  .error .unknownArgument ("unexpected argument '" ++ arg ++ "' found") tips (some (l.usageWith given))

/-- A name that is no subcommand, with the similar ones. -/
def unknownCommand (l : Level) (name : String) (similar : List String) : Failure :=
  ⟨.invalidSubcommand, errorText ("unrecognized subcommand '" ++ name ++ "'")
    (if similar.isEmpty then [] else [similarTip "subcommand" similar]) (some l.usage) l.hasHelpFlag⟩

/-- A flag given with flags it cannot be given with (or given twice). -/
def conflict (l : Level) (flag : Flag) (others : List Flag) (given : List Flag) : Failure :=
  let reason := match others with
    | [o] =>
      if o.id == flag.id then "the argument '" ++ flag.display ++ "' cannot be used multiple times"
      else "the argument '" ++ flag.display ++ "' cannot be used with '" ++ o.display ++ "'"
    | os => "the argument '" ++ flag.display ++ "' cannot be used with:" ++
      String.join (os.map fun o => "\n  " ++ o.display)
  .error .argumentConflict reason [] (some (l.usageWith given))

/-- A flag that needs a value and was given none. -/
def missingValue (flag : Flag) : Failure :=
  .error .invalidValue ("a value is required for '" ++ flag.display ++ "' but none was supplied") [] none

/-- A value its rule refuses. -/
def badValue (flag : Flag) (value reason : String) : Failure :=
  .error .valueValidation ("invalid value '" ++ value ++ "' for '" ++ flag.display ++ "': " ++ reason) [] none

/-- A value given to a flag that takes none. -/
def extraValue (l : Level) (flag : Flag) (value : String) (given : List Flag) : Failure :=
  .error .tooManyValues ("unexpected value '" ++ value ++ "' for '" ++ flag.display ++
    "' found; no more were expected") [] (some (l.usageWith given))

/-- A level that needs a subcommand and was given none. -/
def missingCommand (l : Level) : Failure :=
  .error .missingSubcommand ("'" ++ l.path ++ "' requires a subcommand but one was not provided" ++
    "\n  [subcommands: " ++ ", ".intercalate l.commandNames ++ "]") [] (some l.usage)

end Payout.Cli
