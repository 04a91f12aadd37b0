import Payout.Cli.Spec

/-!
# Help and usage

The help of a level is what it is about (if anything), its usage line, and then its
sections, each a heading and one line per entry: `Commands` (the subcommands with what they
are about and their other names), `Arguments` and `Options` (the flags, with their help and
default). Entries are aligned in a column two places after the widest entry of their
section; a flag with a short form is written `-v, --verbose`, and one with only a long form
leaves room for the short form. Lines are never wrapped.

A usage line names the level, then `[OPTIONS]` if it has flags beyond help and version, its
positional arguments, and `<COMMAND>` (or `[COMMAND]` when optional) if it has subcommands.
A usage line written for an error names, instead, the flags that were given, and
`<COMMAND>` when a subcommand is required.
-/

namespace Payout.Cli

/-- Spaces. -/
def spaces (n : Nat) : String := String.ofList (List.replicate n ' ')

/-- Whether a level has flags beyond help and version. -/
def Level.hasOptions (l : Level) : Bool :=
  l.flags.any fun f => match f.action with
    | .count | .set .. => true
    | _ => false

/-- The usage line of a level, as its help shows it. -/
def Level.usage (l : Level) : String :=
  l.path ++ (if l.hasOptions then " [OPTIONS]" else "") ++
    String.join (l.arguments.map (" " ++ ·.1)) ++
    (if l.commands.isEmpty then "" else if l.commandRequired then " <COMMAND>" else " [COMMAND]")

/-- The usage line of a level for an error, naming the flags that were given; with none
given it is the usage line of the help. -/
def Level.usageWith (l : Level) (given : List Flag) : String :=
  if given.isEmpty then l.usage
  else l.path ++ String.join (given.map (" " ++ ·.display)) ++
    (if l.commandRequired then " <COMMAND>" else "")

/-- The help line of a subcommand. -/
def commandLine (width : Nat) (c : Subcommand) : String :=
  let about := c.about.getD ""
  let names := match c.aliases with
    | [] => ""
    | [a] => "[alias: " ++ a ++ "]"
    | as => "[aliases: " ++ ", ".intercalate as ++ "]"
  let text := if about.isEmpty then names else if names.isEmpty then about else about ++ " " ++ names
  "  " ++ c.name ++ spaces (width + 2 - c.name.length) ++ text

/-- The width a flag's entry is aligned by: its display, when it has a long form or takes a
value or has no short form. -/
def Flag.alignWidth (f : Flag) : Nat :=
  if f.takesValue || f.long.isSome || f.short.isNone then f.display.length else 0

/-- The help line of a flag. -/
def flagLine (width : Nat) (f : Flag) : String :=
  let shortPart := match f.short, f.long with
    | some c, some _ => "-" ++ String.singleton c ++ ", "
    | some c, none => "-" ++ String.singleton c
    | none, some _ => "    "
    | none, none => ""
  let longPart := match f.long with
    | some l => "--" ++ l
    | none => ""
  let pad := if f.long.isSome then width + 2 - f.display.length else width + 6 - f.display.length
  let text := match f.default? with
    | some d => if f.help.isEmpty then "[default: " ++ d ++ "]" else f.help ++ " [default: " ++ d ++ "]"
    | none => f.help
  "  " ++ shortPart ++ longPart ++ f.suffix ++ spaces pad ++ text

/-- The help line of a positional argument. -/
def argumentLine (width : Nat) (a : String × String) : String :=
  "  " ++ a.1 ++ spaces (width + 2 - a.1.length) ++ a.2

/-- The help of a level. -/
def Level.help (l : Level) : String :=
  let head := match l.about with
    | some a => a ++ "\n\n"
    | none => ""
  let commands :=
    if l.commands.isEmpty then []
    else
      let w := l.commands.foldl (fun m c => max m c.name.length) 2
      ["Commands:\n" ++ "\n".intercalate (l.commands.map (commandLine w))]
  let arguments :=
    if l.arguments.isEmpty then []
    else
      let w := l.arguments.foldl (fun m a => max m a.1.length) 0
      ["Arguments:\n" ++ "\n".intercalate (l.arguments.map (argumentLine w))]
  let options :=
    if l.flags.isEmpty then []
    else
      let w := l.flags.foldl (fun m f => max m f.alignWidth) 0
      ["Options:\n" ++ "\n".intercalate (l.flags.map (flagLine w))]
  head ++ "Usage: " ++ l.usage ++ String.join ((commands ++ arguments ++ options).map ("\n\n" ++ ·)) ++ "\n"

end Payout.Cli
