import Payout.Database.Syntax

/-!
# Reading statements: the reader

Statements are read by recursive descent over the tokens of the text. The reader fails at the
first token that cannot continue what came before it, and names that token:
`near "x": syntax error`; when the text ends before the statement does, the error is
`incomplete input`; an illegal token is named as `unrecognized token: "x"`. Some rules of the
grammar fail with a message of their own (an unknown table option, a qualified name inside a
trigger).

Many keywords may also serve as names: a keyword that has no meaning where it stands is read
as a name. The keywords that never name anything are *reserved*; `JOIN` words name columns
and tables but are no type names or implicit aliases.
-/

namespace Payout.Database

/-- Why a statement could not be read. -/
inductive ParseError where
  /-- The token that cannot come here, or `none` at the end of the text. -/
  | unexpectedToken (tok : Option Token)
  /-- A rule of the grammar that failed with its own message. -/
  | message (text : String)
deriving Inhabited

/-- The text of a reading failure. -/
def ParseError.text : ParseError → String
  | .unexpectedToken none => "incomplete input"
  | .unexpectedToken (some t) =>
    if t.kind == .illegal then "unrecognized token: \"" ++ t.text ++ "\""
    else "near \"" ++ t.text ++ "\": syntax error"
  | .message m => m

/-- What the reader reads: the characters of the text and its tokens, and the check a new
table's name must pass as soon as it is read (whether its schema is known and whether the
name is free), given whether the table is temporary, its schema, its name and whether
`IF NOT EXISTS` was written. -/
structure Source where
  chars : Array Char
  tokens : Array Token
  checkNewTable : Bool → Option Ident → Ident → Bool → Option String := fun _ _ _ _ => none
deriving Inhabited

/-- The reader: over the source, from a position among the tokens. -/
abbrev Parser := ReaderT Source (StateT Nat (Except ParseError))

/-- The keywords that may serve as names where they mean nothing else. -/
def fallbackKeywords : List String :=
  ["ABORT", "ACTION", "AFTER", "ANALYZE", "ASC", "ATTACH", "BEFORE", "BEGIN", "BY", "CASCADE",
   "CAST", "COLUMN", "CONFLICT", "DATABASE", "DEFERRED", "DESC", "DETACH", "DO", "EACH", "END",
   "EXCLUSIVE", "EXPLAIN", "FAIL", "FOR", "IGNORE", "IMMEDIATE", "INITIALLY", "INSTEAD",
   "LIKE", "GLOB", "REGEXP", "MATCH", "NO", "PLAN", "QUERY", "KEY", "OF", "OFFSET", "PRAGMA",
   "RAISE", "RECURSIVE", "RELEASE", "REPLACE", "RESTRICT", "ROW", "ROWS", "ROLLBACK",
   "SAVEPOINT", "TEMP", "TEMPORARY", "TRIGGER", "VACUUM", "VIEW", "VIRTUAL", "WITH", "WITHOUT",
   "NULLS", "FIRST", "LAST", "CURRENT", "FOLLOWING", "PARTITION", "PRECEDING", "RANGE",
   "UNBOUNDED", "EXCLUDE", "GROUPS", "OTHERS", "TIES", "GENERATED", "ALWAYS", "MATERIALIZED",
   "REINDEX", "RENAME", "CURRENT_DATE", "CURRENT_TIME", "CURRENT_TIMESTAMP", "IF",
   "WINDOW", "OVER", "FILTER"]

/-- The keywords that join tables; they name columns and tables but are no type names. -/
def joinKeywords : List String := ["CROSS", "FULL", "INNER", "LEFT", "NATURAL", "OUTER", "RIGHT"]

/-- Whether a token is a keyword. -/
def Token.isKw (t : Token) (w : String) : Bool := t.kind == .keyword w

/-- Whether a token is a punctuation mark. -/
def Token.isP (t : Token) (s : String) : Bool := t.kind == .punct s

namespace Parser

/-- The token at an offset from the current one. -/
def peekAt (k : Nat) : Parser (Option Token) := do
  let src ← read
  pure src.tokens[(← get) + k]?

/-- The current token. -/
def peek : Parser (Option Token) := peekAt 0

/-- The token after the current one. -/
def peek2 : Parser (Option Token) := peekAt 1

/-- Takes the current token. -/
def bump : Parser Unit := modify (· + 1)

/-- Takes the current token and gives it. -/
def take : Parser (Option Token) := do
  let t ← peek
  bump
  pure t

/-- Fails at the current token. -/
def unexpected {α : Type} : Parser α := do throw (.unexpectedToken (← peek))

/-- Fails with a message. -/
def failWith {α : Type} (m : String) : Parser α := throw (.message m)

/-- Whether the current token is the keyword. -/
def atKw (w : String) : Parser Bool := do
  pure (((← peek).map (Token.isKw · w)).getD false)

/-- Whether the token after the current one is the keyword. -/
def atKw2 (w : String) : Parser Bool := do
  pure (((← peek2).map (Token.isKw · w)).getD false)

/-- Whether the current token is the punctuation. -/
def atP (s : String) : Parser Bool := do
  pure (((← peek).map (Token.isP · s)).getD false)

/-- Whether the token after the current one is the punctuation. -/
def atP2 (s : String) : Parser Bool := do
  pure (((← peek2).map (Token.isP · s)).getD false)

/-- Takes the keyword, or fails. -/
def kw (w : String) : Parser Unit := do
  if ← atKw w then bump else unexpected

/-- Takes the punctuation, or fails. -/
def p (s : String) : Parser Unit := do
  if ← atP s then bump else unexpected

/-- Takes the keyword if it is current. -/
def optKw (w : String) : Parser Bool := do
  if ← atKw w then bump; pure true else pure false

/-- Takes the punctuation if it is current. -/
def optP (s : String) : Parser Bool := do
  if ← atP s then bump; pure true else pure false

/-- Whether the current token ends the statement: `;` or the end of the text. -/
def atEnd : Parser Bool := do
  match ← peek with
  | none => pure true
  | some t => pure (t.isP ";")

/-- The characters of the text between two positions. -/
def textBetween (start stop : Nat) : Parser String := do
  let src ← read
  pure (String.ofList ((src.chars.extract start stop).toList))

/-- The position where the current token starts, or the end of the text. -/
def here : Parser Nat := do
  match ← peek with
  | some t => pure t.start
  | none => pure (← read).chars.size

/-- The position after the token before the current one. -/
def lastStop : Parser Nat := do
  let i ← get
  if i == 0 then pure 0
  else
    match (← read).tokens[i - 1]? with
    | some t => pure t.stop
    | none => pure 0

/-! ### Names -/

/-- The name a token gives, with its place. -/
def identOf (t : Token) : Ident :=
  ⟨unquote t.text, t.text, t.start, t.stop, t.text.startsWith "\""⟩

/-- Whether a token may stand as an `id`: a name, a fallback keyword, or `INDEXED`. -/
def isIdToken (t : Token) : Bool :=
  match t.kind with
  | .ident | .quoted => true
  | .keyword w => fallbackKeywords.contains w || w == "INDEXED"
  | _ => false

/-- Whether a token may stand as a name (`nm`): an `id`, a string, or a join keyword. -/
def isNameToken (t : Token) : Bool :=
  isIdToken t || t.kind == .string ||
    (match t.kind with
     | .keyword w => joinKeywords.contains w
     | _ => false)

/-- Whether a token may stand in a type name or as an implicit alias (`ids`): an `id` other
than `INDEXED`, or a string. -/
def isIdsToken (t : Token) : Bool :=
  (isIdToken t && !t.isKw "INDEXED") || t.kind == .string

/-- Reads a name (`nm`). -/
def name : Parser Ident := do
  match ← peek with
  | some t => if isNameToken t then bump; pure (identOf t) else unexpected
  | none => unexpected

/-- Whether the current token can be a name. -/
def atName : Parser Bool := do
  pure (((← peek).map isNameToken).getD false)

/-- Reads a name with an optional schema in front: `[schema.]name`. -/
def qualifiedName : Parser (Option Ident × Ident) := do
  let first ← name
  if ← optP "." then
    let second ← name
    pure (some first, second)
  else pure (none, first)

/-- Reads a parenthesized list of names, with at least one. -/
def nameList : Parser (List Ident) := do
  p "("
  let first ← name
  let rec more (fuel : Nat) (acc : List Ident) : Parser (List Ident) := do
    match fuel with
    | 0 => pure acc.reverse
    | fuel + 1 =>
      if ← optP "," then
        let n ← name
        more fuel (n :: acc)
      else pure acc.reverse
  let names ← more (← read).tokens.size [first]
  p ")"
  pure names

end Parser

end Payout.Database
