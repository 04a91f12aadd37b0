import Payout.Text.Lower

/-!
# Tokens of statement text

Statement text splits into tokens: names (bare or quoted with `"`, a backtick or brackets),
keywords, string literals, numbers, blob literals, parameters and punctuation. Blanks and
comments (`-- …` to the end of the line, `/* … */`, which may run to the end of the text)
separate tokens and are dropped.

A bare name that spells a keyword (in any case) is that keyword. A number runs over digits,
one point, an exponent and `_` separators between digits; a number directly followed by a
letter, a hexadecimal number run into a letter, an unterminated quote or blob, a blob with
an odd number of digits or a stray character is *illegal*: reading stops there with
`unrecognized token: "…"`.

Every token keeps its text as written and the positions (in characters) of its first
character and of the character after it, so that a name can be edited in place and a
constraint named by the text it was written with.
-/

namespace Payout.Database

/-- The kinds of token. -/
inductive TokenKind where
  /-- A bare name that is no keyword. -/
  | ident
  /-- A name in double quotes, backticks or brackets. -/
  | quoted
  /-- A string literal in single quotes. -/
  | string
  /-- A whole number, decimal or hexadecimal. -/
  | integer
  /-- A number with a point or an exponent. -/
  | float
  /-- A number written with `_` separators. -/
  | separated
  /-- A blob literal `x'…'`. -/
  | blob
  /-- A parameter: `?`, `?7`, `:name`, `@name`, `$name`. -/
  | variable
  /-- A keyword, by its upper-case spelling. -/
  | keyword (word : String)
  /-- Punctuation or an operator. -/
  | punct (symbol : String)
  /-- Text that starts no token. -/
  | illegal
deriving DecidableEq, Inhabited

/-- A token: its kind, its text as written, and the positions of its first character and of
the character after it. -/
structure Token where
  kind : TokenKind
  text : String
  start : Nat
  stop : Nat
deriving Inhabited

/-- The keywords, in upper case. -/
def keywords : List String :=
  ["ABORT", "ACTION", "ADD", "AFTER", "ALL", "ALTER", "ALWAYS", "ANALYZE", "AND", "AS", "ASC",
   "ATTACH", "AUTOINCREMENT", "BEFORE", "BEGIN", "BETWEEN", "BY", "CASCADE", "CASE", "CAST",
   "CHECK", "COLLATE", "COLUMN", "COMMIT", "CONFLICT", "CONSTRAINT", "CREATE", "CROSS",
   "CURRENT", "CURRENT_DATE", "CURRENT_TIME", "CURRENT_TIMESTAMP", "DATABASE", "DEFAULT",
   "DEFERRABLE", "DEFERRED", "DELETE", "DESC", "DETACH", "DISTINCT", "DO", "DROP", "EACH",
   "ELSE", "END", "ESCAPE", "EXCEPT", "EXCLUDE", "EXCLUSIVE", "EXISTS", "EXPLAIN", "FAIL",
   "FILTER", "FIRST", "FOLLOWING", "FOR", "FOREIGN", "FROM", "FULL", "GENERATED", "GLOB",
   "GROUP", "GROUPS", "HAVING", "IF", "IGNORE", "IMMEDIATE", "IN", "INDEX", "INDEXED",
   "INITIALLY", "INNER", "INSERT", "INSTEAD", "INTERSECT", "INTO", "IS", "ISNULL", "JOIN",
   "KEY", "LAST", "LEFT", "LIKE", "LIMIT", "MATCH", "MATERIALIZED", "NATURAL", "NO", "NOT",
   "NOTHING", "NOTNULL", "NULL", "NULLS", "OF", "OFFSET", "ON", "OR", "ORDER", "OTHERS",
   "OUTER", "OVER", "PARTITION", "PLAN", "PRAGMA", "PRECEDING", "PRIMARY", "QUERY", "RAISE",
   "RANGE", "RECURSIVE", "REFERENCES", "REGEXP", "REINDEX", "RELEASE", "RENAME", "REPLACE",
   "RESTRICT", "RETURNING", "RIGHT", "ROLLBACK", "ROW", "ROWS", "SAVEPOINT", "SELECT", "SET",
   "TABLE", "TEMP", "TEMPORARY", "THEN", "TIES", "TO", "TRANSACTION", "TRIGGER", "UNBOUNDED",
   "UNION", "UNIQUE", "UPDATE", "USING", "VACUUM", "VALUES", "VIEW", "VIRTUAL", "WHEN",
   "WHERE", "WINDOW", "WITH", "WITHOUT"]

/-- ASCII upper case; other characters are left alone. -/
def upperAscii (s : String) : String := s.map Char.toUpper

/-- ASCII lower case; other characters are left alone. The capitals' bytes are made small
(`Text.lowerBytes`), which is the lower case of each character (`lowerAscii_eq_map`). -/
def lowerAscii (s : String) : String :=
  String.fromUTF8 (Text.lowerBytes s.toByteArray) (Text.isValidUTF8_lowerBytes s)

theorem lowerAscii_eq_map (s : String) :
  lowerAscii s = s.map Char.toLower
  := by
  rw [String.map_eq_internal, ← String.toByteArray_inj, String.toByteArray_ofList,
    ← Text.lowerBytes_utf8Encode, String.utf8Encode_toList]
  rfl

/-- Whether a character may stand inside a name: ASCII letters and digits, `_`, `$` and
every character beyond ASCII. -/
def isIdChar (c : Char) : Bool :=
  (c.isAlphanum) || c == '_' || c == '$' || c.toNat ≥ 128

/-- Whether a character is a blank between tokens. -/
def isBlankChar (c : Char) : Bool :=
  c == ' ' || c == '\t' || c == '\n' || c == '\x0c' || c == '\r'

/-- Whether a character is one of the quotes that may open a quoted name or string. -/
def isQuoteChar (c : Char) : Bool := c == '"' || c == '\'' || c == '`' || c == '['

/-- Reads up to the quote that closes one opened by `delim` (a doubled `delim` stands for
one); gives how many characters were taken including the closing quote, and whether it was
found. -/
def quotedLength (delim : Char) : List Char → Nat × Bool
  | [] => (0, false)
  | c :: rest =>
    if c == delim then
      match rest with
      | d :: rest' =>
        if d == delim then
          let (n, ok) := quotedLength delim rest'
          (n + 2, ok)
        else (1, true)
      | [] => (1, true)
    else
      let (n, ok) := quotedLength delim rest
      (n + 1, ok)

/-- The length of a block comment's body and close, `*/` included when present. -/
def blockCommentLength : List Char → Nat
  | '*' :: '/' :: _ => 2
  | _ :: rest => blockCommentLength rest + 1
  | [] => 0

/-- The characters of a run of digits (or of `_` separators), and whether a separator was
among them. -/
def digitRun (hex : Bool) (cs : List Char) : Nat × Bool :=
  let isD := fun (c : Char) => if hex then c.isHexDigit else c.isDigit
  let run := cs.takeWhile fun c => isD c || c == '_'
  (run.length, run.contains '_')

/-- The length and kind of the number at the start of the characters (which start with a
digit, or with a point and a digit). -/
def numberToken (cs : List Char) : Nat × TokenKind :=
  match cs with
  | '0' :: x :: h :: _ =>
    if (x == 'x' || x == 'X') && h.isHexDigit then
      let (n, sep) := digitRun true (cs.drop 2)
      finish (2 + n) (if sep then .separated else .integer)
    else decimal
  | _ => decimal
where
  /-- A decimal number: digits, a fraction, an exponent. -/
  decimal : Nat × TokenKind :=
    let (w, sep1) := digitRun false cs
    let rest := cs.drop w
    let (f, sep2, point) := match rest with
      | '.' :: r => let (n, s) := digitRun false r; (n + 1, s, true)
      | _ => (0, false, false)
    let rest := cs.drop (w + f)
    let (e, sep3, expo) := match rest with
      | c :: d :: r =>
        if (c == 'e' || c == 'E') && d.isDigit then
          let (n, s) := digitRun false (d :: r); (n + 1, s, true)
        else if (c == 'e' || c == 'E') && (d == '+' || d == '-') then
          match r with
          | g :: _ =>
            if g.isDigit then let (n, s) := digitRun false r; (n + 2, s, true) else (0, false, false)
          | [] => (0, false, false)
        else (0, false, false)
      | _ => (0, false, false)
    let kind : TokenKind :=
      if sep1 || sep2 || sep3 then .separated else if point || expo then .float else .integer
    finish (w + f + e) kind
  /-- A number run into name characters is illegal up to the end of the run. -/
  finish (n : Nat) (kind : TokenKind) : Nat × TokenKind :=
    let tail := (cs.drop n).takeWhile isIdChar
    if tail.isEmpty then (n, kind) else (n + tail.length, .illegal)

/-- The length and kind of a parameter starting with `:`, `@`, `$` or `#`: name characters
(and `::` pairs), optionally followed by a parenthesized suffix; without any name character
it is illegal. -/
def namedVariable (cs : List Char) : Nat × TokenKind :=
  go cs.tail 1 0 (cs.length + 1)
where
  /-- Reads on; `n` counts the name characters seen. -/
  go : List Char → Nat → Nat → Nat → Nat × TokenKind
    | _, i, n, 0 => (i, if n == 0 then .illegal else .variable)
    | [], i, n, _ + 1 => (i, if n == 0 then .illegal else .variable)
    | c :: rest, i, n, fuel + 1 =>
      if isIdChar c then go rest (i + 1) (n + 1) fuel
      else if c == '(' && n > 0 then
        let body := rest.takeWhile fun d => !isBlankChar d && d != ')'
        match rest.drop body.length with
        | ')' :: _ => (i + body.length + 2, .variable)
        | _ => (i + body.length + 1, .illegal)
      else if c == ':' && rest.head? == some ':' then go rest.tail (i + 2) n fuel
      else (i, if n == 0 then .illegal else .variable)

/-- The punctuation and operators, longest first among those sharing a start. -/
def punctuation : List String :=
  ["->>", "->", "||", "<=", ">=", "==", "!=", "<>", "<<", ">>",
   "(", ")", ",", ";", ".", "+", "-", "*", "/", "%", "=", "<", ">", "&", "|", "~"]

/-- The length and kind of the token at the start of non-empty text that starts no blank or
comment. -/
def nextToken (cs : List Char) : Nat × TokenKind :=
  match cs with
  | [] => (0, .illegal)
  | c :: rest =>
    if c == '\'' then
      let (n, ok) := quotedLength '\'' rest
      if ok then (n + 1, .string) else (n + 1, .illegal)
    else if c == '"' || c == '`' then
      let (n, ok) := quotedLength c rest
      if ok then (n + 1, .quoted) else (n + 1, .illegal)
    else if c == '[' then
      let body := rest.takeWhile (· != ']')
      if body.length == rest.length then (body.length + 1, .illegal) else (body.length + 2, .quoted)
    else if c.isDigit || (c == '.' && (rest.head?.map Char.isDigit).getD false) then
      numberToken cs
    else if (c == 'x' || c == 'X') && rest.head? == some '\'' then
      let body := (rest.drop 1).takeWhile Char.isHexDigit
      let after := (rest.drop 1).drop body.length
      match after with
      | '\'' :: _ =>
        if body.length % 2 == 0 then (body.length + 3, .blob)
        else (body.length + 3, .illegal)
      | _ =>
        let more := after.takeWhile (· != '\'')
        let closed := after.length > more.length
        (2 + body.length + more.length + (if closed then 1 else 0), .illegal)
    else if c == '?' then (1 + (rest.takeWhile Char.isDigit).length, .variable)
    else if c == ':' || c == '@' || c == '$' || c == '#' then namedVariable cs
    else if isIdChar c then
      let n := (cs.takeWhile isIdChar).length
      let word := upperAscii (String.ofList (cs.take n))
      if keywords.contains word then (n, .keyword word) else (n, .ident)
    else if c == '!' && rest.head? != some '=' then (1, .illegal)
    else
      match punctuation.find? (fun s => cs.take s.length == s.toList) with
      | some s => (s.length, .punct s)
      | none => (1, .illegal)

/-- The length of the blank or comment at the start of the text, or zero when a token
starts there. -/
def gapLength (cs : List Char) : Nat :=
  match cs with
  | c :: rest =>
    if isBlankChar c then 1
    else if c == '-' && rest.head? == some '-' then (cs.takeWhile (· != '\n')).length
    else if c == '/' && rest.head? == some '*' then 2 + blockCommentLength (rest.drop 1)
    else 0
  | [] => 0

/-- Splits text into tokens, dropping blanks and comments; the list ends after the first
illegal token. -/
def tokenize (input : String) : Array Token :=
  go input.toList 0 (input.length + 1) #[]
where
  /-- Reads tokens from position `pos`; each step takes at least one character. -/
  go (cs : List Char) (pos : Nat) : Nat → Array Token → Array Token
    | 0, acc => acc
    | fuel + 1, acc =>
      match cs with
      | [] => acc
      | _ =>
        let g := gapLength cs
        if g > 0 then go (cs.drop g) (pos + g) fuel acc
        else
          let (n, kind) := nextToken cs
          let n := max n 1
          let tok : Token := ⟨kind, String.ofList (cs.take n), pos, pos + n⟩
          if kind == .illegal then acc.push tok
          else go (cs.drop n) (pos + n) fuel (acc.push tok)

/-- The value of a quoted name or string token: the quotes taken off and doubled quotes
made single; any other text is its own value. -/
def unquote (text : String) : String :=
  match text.toList with
  | '[' :: rest => String.ofList (rest.take (rest.length - 1))
  | q :: rest =>
    if q == '"' || q == '\'' || q == '`' then String.ofList (undouble q (rest.take (rest.length - 1)))
    else text
  | [] => text
where
  /-- Makes each doubled quote single. -/
  undouble (q : Char) : List Char → List Char
    | a :: b :: r => if a == q && b == q then q :: undouble q r else a :: undouble q (b :: r)
    | r => r

/-- The leading quoted run of a text, as a name or type read from text is taken: when the
text starts with a quote, what stands up to the matching close quote (doubled quotes made
single); otherwise the text itself. -/
def dequoteLeading (text : String) : String :=
  match text.toList with
  | q :: rest =>
    if q == '"' || q == '\'' || q == '`' || q == '[' then
      let close := if q == '[' then ']' else q
      String.ofList (go close rest)
    else text
  | [] => text
where
  /-- Copies up to the close quote. -/
  go (close : Char) : List Char → List Char
    | [] => []
    | c :: r =>
      if c == close then
        match r with
        | d :: r' => if d == close && close != ']' then close :: go close r' else []
        | [] => []
      else c :: go close r

end Payout.Database
