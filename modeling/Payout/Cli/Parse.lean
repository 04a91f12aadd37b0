import Payout.Cli.Failure

/-!
# Parsing a command line

The arguments are read left to right by the level they belong to, starting with the
program's:

* an argument that names a subcommand (or one of its aliases) hands the rest of the line to
  that subcommand's level; the subcommand `help` instead shows the help of the subcommands
  named after it;
* `--` makes every later argument a plain one;
* `--name` or `--name=value` is a long flag, `-abc` a cluster of short flags, where a flag
  that takes a value takes the rest of the cluster (after an optional `=`) or, when nothing
  is left, the next argument;
* anything else is the value of a flag still waiting for one, or else a stray argument. A
  stray argument is refused; at a level with subcommands it is an unknown subcommand, for
  which similar names are suggested.

A counting flag counts up (to 255). A flag that takes a value takes it once: a second
occurrence is refused, as is a value its rule refuses or a missing value. Asking for help
or the version ends the parse at once.

When a level's arguments are done (after its subcommand's level is done, if it had one),
it is checked: with nothing given and no subcommand it shows its help if it does so; it
must have a subcommand if it needs one; and no two given flags may conflict. A flag given to
a subcommand's level overrides the same global flag given to the program.
-/

namespace Payout.Cli

/-- What one level has been given: explicit values in the order they were last changed,
the flag waiting for its value with the values it already has, and whether the next
argument is that value. -/
structure Tally where
  given : List (String × Given)
  pending : Option (Flag × List String)
  awaiting : Bool
deriving Inhabited

/-- A level that has been given nothing. -/
def Tally.empty : Tally := ⟨[], none, false⟩

/-- Whether a flag has been given. -/
def Tally.has (t : Tally) (id : String) : Bool := t.given.any (·.1 == id)

/-- The flags a level has been given, in order. -/
def Level.givenFlags (l : Level) (t : Tally) : List Flag := t.given.filterMap (l.flag? ·.1)

/-- The version text of a level. -/
def Level.versionText (l : Level) : String :=
  l.path ++ " " ++ l.version.getD "" ++ "\n"

/-- Gives a flag its values. -/
def Level.apply (l : Level) (t : Tally) (f : Flag) (vals : List String) : Except Failure Tally :=
  match f.action with
  | .help => .error ⟨.displayHelp, l.help⟩
  | .version => .error ⟨.displayVersion, l.versionText⟩
  | .count =>
    let n := match t.given.lookup f.id with
      | some (.count k) => k
      | _ => 0
    .ok { t with given := t.given.filter (·.1 != f.id) ++ [(f.id, .count (min 255 (n + 1)))],
                 awaiting := false }
  | .set _ rule _ =>
    match vals with
    | [] => .error (missingValue f)
    | v :: _ =>
      if t.has f.id then .error (conflict l f [f] [])
      else match rule.read v with
        | .ok g => .ok { t with given := t.given ++ [(f.id, g)], awaiting := false }
        | .error r => .error (badValue f v r)

/-- Gives the waiting flag the values it has. -/
def Level.resolve (l : Level) (t : Tally) : Except Failure Tally :=
  match t.pending with
  | none => .ok t
  | some (f, vals) => l.apply { t with pending := none } f vals

/-- Gives the waiting flag its values when a refusal is already under way: a refused value
still counts the flag as given, a repeated flag no longer does. -/
def Level.settle (l : Level) (t : Tally) : Tally :=
  match l.resolve t with
  | .ok t' => t'
  | .error _ =>
    match t.pending with
    | some (f, v :: _) =>
      if t.has f.id then { t with pending := none, given := t.given.filter (·.1 != f.id) }
      else { t with pending := none, given := t.given ++ [(f.id, .text v)] }
    | _ => { t with pending := none }

/-- Resolves the waiting flag, then gives a flag its values. -/
def Level.react (l : Level) (t : Tally) (f : Flag) (vals : List String) : Except Failure Tally := do
  l.apply (← l.resolve t) f vals

/-- Makes a flag wait for its value in the next argument. -/
def Level.await (l : Level) (t : Tally) (f : Flag) : Except Failure Tally := do
  let t ← l.resolve t
  pure { t with pending := some (f, []), awaiting := true }

/-- Reads a long flag, `name` or `name=value`. -/
def Level.long (l : Level) (t : Tally) (body : String) : Except Failure Tally :=
  let (name, value) := match body.splitOn "=" with
    | n :: v :: vs => (n, some ("=".intercalate (v :: vs)))
    | _ => (body, none)
  match l.flags.find? (·.long == some name) with
  | none =>
    let t := l.settle t
    let offered := l.flags.filterMap (·.long)
    match (similarNames name offered).getLast? >>= fun s => l.flags.find? (·.long == some s) with
    | some s =>
      let given := l.givenFlags t ++ (if t.has s.id then [] else [s])
      .error (unknownArgument l ("--" ++ name) [similarTip "argument" ["--" ++ (s.long.getD "")]] given)
    | none => .error (unknownArgument l ("--" ++ name) [] (l.givenFlags t))
  | some f =>
    if f.takesValue then
      match value with
      | some v => l.react t f [v]
      | none => l.await t f
    else
      match value with
      | some v => .error (extraValue l f v (l.givenFlags t ++ (if t.has f.id then [] else [f])))
      | none => l.react t f []

/-- Reads a cluster of short flags. -/
def Level.short (l : Level) (t : Tally) : List Char → Except Failure Tally
  | [] => .ok t
  | c :: cs =>
    match l.flags.find? (·.short == some c) with
    | none => .error (unknownArgument l ("-" ++ String.singleton c) [] [])
    | some f =>
      if f.takesValue then
        match cs with
        | [] => l.await t f
        | '=' :: r => l.react t f [String.ofList r]
        | r => l.react t f [String.ofList r]
      else do
        let t ← l.react t f []
        l.short t cs

/-- The refusal of an argument that fits nowhere; `plain` says it came after `--`. -/
def Level.stray (l : Level) (arg : String) (plain : Bool) : Failure :=
  if plain && (l.findCommand arg).isSome then
    .error .unknownArgument ("unexpected argument '" ++ arg ++ "' found")
      ["subcommand '" ++ arg ++ "' exists; to use it, remove the '--' before it"] (some l.usage)
  else if !l.commands.isEmpty then unknownCommand l arg (similarNames arg l.commandNames)
  else unknownArgument l arg [] []

/-- Reads a level's arguments up to the end or to a subcommand, which is returned with the
arguments after it. -/
def Level.scan (l : Level) (t : Tally) (plain : Bool) :
    List String → Except Failure (Tally × Option (Subcommand × List String))
  | [] => .ok (t, none)
  | a :: rest =>
    if plain then .error (l.stray a true)
    else match l.findCommand a with
      | some c => .ok (t, some (c, rest))
      | none =>
        if a == "--" then l.scan t true rest
        else if a.startsWith "--" then do l.scan (← l.long t (String.ofList (a.toList.drop 2))) false rest
        else if a.startsWith "-" && a.length > 1 then do l.scan (← l.short t (a.toList.drop 1)) false rest
        else if t.awaiting then
          l.scan { t with pending := t.pending.map (fun (f, vs) => (f, vs ++ [a])), awaiting := false }
            false rest
        else .error (l.stray a false)

/-- The flags given to a level that conflict with one of them. -/
def Level.conflictsWith (l : Level) (t : Tally) (f : Flag) : List Flag :=
  t.given.filterMap fun (o, _) =>
    if o == f.id then none
    else (l.flag? o).filter fun g => f.conflicts.contains o || g.conflicts.contains f.id

/-- Checks a level once its arguments are read. -/
def Level.finish (l : Level) (t : Tally) (hasCommand : Bool) : Except Failure Tally := do
  let t ← l.resolve t
  if !hasCommand && l.helpWhenEmpty && t.given.isEmpty then throw ⟨.displayHelpOnMissing, l.help⟩
  if !hasCommand && l.commandRequired then throw (missingCommand l)
  for f in l.givenFlags t do
    let others := l.conflictsWith t f
    if !others.isEmpty then
      let rest := (l.givenFlags t).filter fun g => !others.any (·.id == g.id)
      throw (conflict l f others rest)
  pure t

/-- What a command line gave: the subcommand, if any, and the explicit values. -/
structure Matches where
  command : Option String
  given : List (String × Given)
deriving Inhabited

/-- The help of the subcommands named in turn, or the refusal of a name that is none. -/
def Program.helpFor (p : Program) (names : List String) : Failure :=
  go p.top names
where
  /-- Walks down from a level. -/
  go (l : Level) : List String → Failure
    | [] => ⟨.displayHelp, l.help⟩
    | n :: ns =>
      match l.findCommand n with
      | some c => go (p.levelOf c) ns
      | none => unknownCommand l n []

/-- Parses a command line. -/
def Program.parse (p : Program) (args : List String) : Except Failure Matches := do
  let top := p.top
  let (t, next) ← top.scan .empty false args
  match next with
  | none =>
    let t ← top.finish t false
    pure ⟨none, t.given⟩
  | some (c, rest) =>
    if c.name == helpCommand.name then throw (p.helpFor rest)
    let sub := p.levelOf c
    let (st, _) ← sub.scan .empty false rest
    let st ← sub.finish st false
    let t ← top.finish t true
    pure ⟨some c.name, st.given ++ t.given.filter fun (id, _) => !st.has id⟩

/-- The count a counting flag reached. -/
def Matches.count (m : Matches) (id : String) : Nat :=
  match m.given.lookup id with
  | some (.count n) => n
  | _ => 0

/-- The value of a flag: the one given, else its default read by its rule. -/
def Program.value? (p : Program) (m : Matches) (id : String) : Option Given :=
  match m.given.lookup id with
  | some g => some g
  | none =>
    match (p.flags.find? (·.id == id)).map Flag.action with
    | some (Action.set _ rule (some d)) => (rule.read d).toOption
    | _ => none

end Payout.Cli
