import Payout.Database.Parse.Basic

/-!
# Reading expressions and queries

Expressions are read by precedence climbing over these levels, from the loosest: `OR`;
`AND`; prefix `NOT`; the equality level (`=`, `<>`, `IS`, `IN`, `LIKE`, `BETWEEN`, `ISNULL`,
`NOTNULL`, `NOT NULL`); the comparisons `<`, `<=`, `>`, `>=`; `ESCAPE`; the bit operators
`&`, `|`, `<<`, `>>`; `+` and `-`; `*`, `/` and `%`; `||`, `->` and `->>`; `COLLATE`; and
last the prefix `-`, `+` and `~`. Binary operators group to the left. The middle operand of
`BETWEEN` may hold anything that binds more strongly than `AND`.

Queries are a `WITH` clause, simple selects joined by compound operators, and one ordering
and limit, which belong to the last simple select as written: an ordering or limit written
on an earlier one is an error once the whole query has been read.

Every reader takes a fuel argument that bounds the depth of nesting; the statement reader
gives fuel enough for any nesting its text can hold.
-/

namespace Payout.Database

namespace Parser

/-- The failure when nesting runs deeper than the fuel allows. -/
def tooDeep {α : Type} : Parser α := failWith "parser stack overflow"

/-- The simple binary operator a token spells, with how strongly it binds. -/
def binaryOf (t : Token) : Option (BinaryOp × Nat) :=
  match t.kind with
  | .punct s =>
    if s == "||" then some (.concat, 10)
    else if s == "->" then some (.extract false, 10)
    else if s == "->>" then some (.extract true, 10)
    else if s == "*" then some (.mul, 9)
    else if s == "/" then some (.div, 9)
    else if s == "%" then some (.rem, 9)
    else if s == "+" then some (.add, 8)
    else if s == "-" then some (.sub, 8)
    else if s == "&" then some (.bitAnd, 7)
    else if s == "|" then some (.bitOr, 7)
    else if s == "<<" then some (.shl, 7)
    else if s == ">>" then some (.shr, 7)
    else if s == "<" then some (.lt, 5)
    else if s == "<=" then some (.le, 5)
    else if s == ">" then some (.gt, 5)
    else if s == ">=" then some (.ge, 5)
    else if s == "=" || s == "==" then some (.eq, 4)
    else if s == "!=" || s == "<>" then some (.ne, 4)
    else none
  | .keyword w =>
    if w == "AND" then some (.and, 2)
    else if w == "OR" then some (.or, 1)
    else none
  | _ => none

/-- The pattern operator a token spells. -/
def likeOpOf (t : Token) : Option LikeOp :=
  match t.kind with
  | .keyword w =>
    if w == "LIKE" then some .like
    else if w == "GLOB" then some .glob
    else if w == "REGEXP" then some .regexp
    else if w == "MATCH" then some .matchOp
    else none
  | _ => none

/-- Whether the current token starts a query. -/
def atQuery : Parser Bool := do
  pure ((← atKw "SELECT") || (← atKw "VALUES") || (← atKw "WITH"))

/-- Whether the blank characters of text edges: space, tab, line feed, vertical tab, form
feed, carriage return. -/
def isSpanBlank (c : Char) : Bool :=
  c == ' ' || c == '\t' || c == '\n' || c == '\x0b' || c == '\x0c' || c == '\r'

/-- Text with the blanks at both ends taken off. -/
def trimSpan (s : String) : String :=
  String.ofList ((s.toList.dropWhile isSpanBlank).reverse.dropWhile isSpanBlank).reverse

/-- The value of a number written with `_` separators: each separator must stand between
two digits, else the token is unrecognized. -/
def separatedNumber (t : Token) : Parser Expr := do
  let cs := t.text.toList
  let hex := cs.take 2 == ['0', 'x'] || cs.take 2 == ['0', 'X']
  let isD := fun (c : Char) => if hex then c.isHexDigit else c.isDigit
  let arr := cs.toArray
  let ok := (List.range arr.size).all fun i =>
    arr[i]! != '_' ||
      (i > 0 && isD arr[i-1]! && i + 1 < arr.size && isD arr[i+1]!)
  if !ok then throw (.message ("unrecognized token: \"" ++ t.text ++ "\""))
  let clean := String.ofList (cs.filter (· != '_'))
  let isFloat := !hex && (clean.contains '.' || clean.contains 'e' || clean.contains 'E')
  pure (.number clean isFloat)

/-- Reads a collation name (`ids`). -/
def collationName : Parser String := do
  match ← peek with
  | some t => if isIdsToken t then bump; pure (unquote t.text) else unexpected
  | none => unexpected

/-- Reads a signed number of a type's size. -/
def signedNumber : Parser Unit := do
  if !(← optP "+") then
    let _ ← optP "-"
  match ← peek with
  | some t => if t.kind == .integer || t.kind == .float then bump else unexpected
  | none => unexpected

/-- Reads a type name as written, with its size in parentheses, and gives its text, or
`none` when no type is written. -/
def typeName : Parser (Option String) := do
  match ← peek with
  | some t =>
    if !isIdsToken t then return none
    bump
    let rec more (fuel : Nat) : Parser Unit := do
      match fuel with
      | 0 => pure ()
      | fuel + 1 =>
        match ← peek with
        | some u => if isIdsToken u then bump; more fuel else pure ()
        | none => pure ()
    more (← read).tokens.size
    if ← optP "(" then
      signedNumber
      if ← optP "," then signedNumber
      p ")"
    let stop ← lastStop
    some <$> textBetween t.start stop
  | none => pure none

/-- Reads `ASC` or `DESC`; gives whether it was descending. -/
def sortOrder : Parser Bool := do
  if ← optKw "ASC" then pure false
  else if ← optKw "DESC" then pure true
  else pure false

/-- Reads `NULLS FIRST` or `NULLS LAST`. -/
def nullsOrder : Parser (Option Bool) := do
  if ← atKw "NULLS" then
    bump
    if ← optKw "FIRST" then pure (some true)
    else kw "LAST"; pure (some false)
  else pure none

/-- Reads an optional alias: `AS name`, or a bare name or string that means nothing else
here. -/
def aliasOpt : Parser (Option Ident) := do
  if ← optKw "AS" then return some (← name)
  match ← peek with
  | some t =>
    if !isIdsToken t then return none
    -- `WINDOW name AS` starts a window clause
    if t.isKw "WINDOW" then
      if (((← peek2).map isNameToken).getD false) &&
          (((← peekAt 2).map (Token.isKw · "AS")).getD false) then
        return none
    bump
    pure (some (identOf t))
  | none => pure none

/-- Whether the current token is `FILTER` followed by `(`. -/
def atFilter : Parser Bool := do pure ((← atKw "FILTER") && (← atP2 "("))

/-- The compound operator at the current token, taken when present. -/
def compoundOp : Parser (Option CompoundOp) := do
  if ← optKw "UNION" then
    if ← optKw "ALL" then pure (some .unionAll) else pure (some .union)
  else if ← optKw "INTERSECT" then pure (some .intersect)
  else if ← optKw "EXCEPT" then pure (some .except)
  else pure none

/-- Reads the words of a join operator after the first one, up to `JOIN`, and gives the
kind of join they spell. -/
def joinKind (words : List Token) : Parser JoinKind := do
  let ws := words.map fun t => upperAscii (unquote t.text)
  let natural := ws.contains "NATURAL"
  let left := ws.contains "LEFT" || ws.contains "FULL"
  let right := ws.contains "RIGHT" || ws.contains "FULL"
  let outer := ws.contains "OUTER"
  let inner := ws.contains "INNER"
  let cross := ws.contains "CROSS"
  let known := ws.all fun w =>
    w == "NATURAL" || w == "LEFT" || w == "RIGHT" || w == "FULL" || w == "OUTER" ||
      w == "INNER" || w == "CROSS"
  let bad := !known || (outer && !left && !right) || (inner && (left || right || outer)) ||
    (cross && (natural || left || right || outer || inner))
  if bad then
    failWith ("unknown join type: " ++ " ".intercalate (words.map (·.text)))
  pure ⟨natural, left, right, inner, cross⟩

/-- Reads a column named with its table, or its schema and table. -/
def columnRef : Parser Expr := do
  let a ← name
  p "."
  let b ← name
  if ← optP "." then
    let c ← name
    pure (.column (some a) (some b) c)
  else pure (.column none (some a) b)

/-- Reads the words of a join operator up to `JOIN`; at most two follow the first. -/
def joinWords : Nat → List Token → Parser (List Token)
  | 0, acc => do kw "JOIN"; pure acc.reverse
  | n + 1, acc => do
    if ← optKw "JOIN" then pure acc.reverse
    else
      match ← peek with
      | some u =>
        if isNameToken u then
          bump
          joinWords n (u :: acc)
        else unexpected
      | none => unexpected

/-- The bytes a blob literal `x'…'` spells. -/
def hexBytes (text : String) : List UInt8 :=
  let digits := ((text.toList.drop 2).takeWhile (· != '\'')).map hexValue
  pairs digits
where
  /-- The value of a hexadecimal digit. -/
  hexValue (c : Char) : Nat :=
    if c.isDigit then c.toNat - '0'.toNat
    else if 'a' ≤ c && c ≤ 'f' then c.toNat - 'a'.toNat + 10
    else c.toNat - 'A'.toNat + 10
  /-- Bytes of the digits taken two at a time. -/
  pairs : List Nat → List UInt8
    | a :: b :: rest => (a * 16 + b).toUInt8 :: pairs rest
    | _ => []

mutual

/-- Reads an expression whose operators bind at least at level `minPrec`. -/
def exprAt (fuel : Nat) (minPrec : Nat) : Parser Expr := do
  match fuel with
  | 0 => tooDeep
  | f + 1 =>
    let left ← unary f
    infixLoop f minPrec left

/-- Reads the operators that follow an operand, at level `minPrec` or tighter. -/
def infixLoop (fuel : Nat) (minPrec : Nat) (left : Expr) : Parser Expr := do
  match fuel with
  | 0 => tooDeep
  | f + 1 =>
    let some t ← peek | pure left
    match binaryOf t with
    | some (op, prec) =>
      if prec < minPrec then pure left
      else
        bump
        let right ← exprAt f (prec + 1)
        infixLoop f minPrec (.binary op left right)
    | none =>
      if t.isKw "COLLATE" then
        if 11 < minPrec then pure left
        else
          bump
          let c ← collationName
          infixLoop f minPrec (.collate left c)
      else if 4 < minPrec then pure left
      else if t.isKw "ISNULL" then
        bump
        infixLoop f minPrec (.isNull left false)
      else if t.isKw "NOTNULL" then
        bump
        infixLoop f minPrec (.isNull left true)
      else if t.isKw "IS" then
        bump
        let neg ← optKw "NOT"
        if ← optKw "DISTINCT" then
          kw "FROM"
          let right ← exprAt f 5
          infixLoop f minPrec (.binary (if neg then .is else .isNot) left right)
        else
          let right ← exprAt f 5
          infixLoop f minPrec (.binary (if neg then .isNot else .is) left right)
      else if t.isKw "NOT" then
        bump
        let some u ← peek | unexpected
        if u.isKw "NULL" then
          bump
          infixLoop f minPrec (.isNull left true)
        else
          match likeOpOf u with
          | some lop =>
            bump
            let e ← likeRest f lop true left
            infixLoop f minPrec e
          | none =>
            if u.isKw "BETWEEN" then
              bump
              let e ← betweenRest f true left
              infixLoop f minPrec e
            else if u.isKw "IN" then
              bump
              let e ← inRest f true left
              infixLoop f minPrec e
            else unexpected
      else
        match likeOpOf t with
        | some lop =>
          bump
          let e ← likeRest f lop false left
          infixLoop f minPrec e
        | none =>
          if t.isKw "BETWEEN" then
            bump
            let e ← betweenRest f false left
            infixLoop f minPrec e
          else if t.isKw "IN" then
            bump
            let e ← inRest f false left
            infixLoop f minPrec e
          else pure left

/-- Reads the pattern and escape of a pattern match. -/
def likeRest (fuel : Nat) (op : LikeOp) (negated : Bool) (left : Expr) : Parser Expr := do
  match fuel with
  | 0 => tooDeep
  | f + 1 =>
    let pattern ← exprAt f 5
    if ← optKw "ESCAPE" then
      let esc ← exprAt f 5
      pure (.like op negated left pattern (some esc))
    else pure (.like op negated left pattern none)

/-- Reads the two ends of a `BETWEEN`. -/
def betweenRest (fuel : Nat) (negated : Bool) (left : Expr) : Parser Expr := do
  match fuel with
  | 0 => tooDeep
  | f + 1 =>
    let lo ← exprAt f 3
    kw "AND"
    let hi ← exprAt f 5
    pure (.between left lo hi negated)

/-- Reads what an `IN` tests against: a list, a query, or a table. -/
def inRest (fuel : Nat) (negated : Bool) (left : Expr) : Parser Expr := do
  match fuel with
  | 0 => tooDeep
  | f + 1 =>
    if ← optP "(" then
      if ← atQuery then
        let q ← select f
        p ")"
        pure (.inSelect left q negated)
      else if ← optP ")" then pure (.inList left [] negated)
      else
        let items ← exprList f
        p ")"
        pure (.inList left items negated)
    else
      let (schema, table) ← qualifiedName
      if ← optP "(" then
        if !(← atP ")") then
          let _ ← exprList f
        p ")"
      pure (.inTable left schema table negated)

/-- Reads a prefix operator and its operand, or an operand. -/
def unary (fuel : Nat) : Parser Expr := do
  match fuel with
  | 0 => tooDeep
  | f + 1 =>
    let some t ← peek | unexpected
    if t.isKw "NOT" then
      bump
      let e ← exprAt f 3
      pure (.unary .not e)
    else if t.isP "-" then
      bump
      let e ← exprAt f 12
      pure (.unary .neg e)
    else if t.isP "+" then
      bump
      let e ← exprAt f 12
      pure (.unary .pos e)
    else if t.isP "~" then
      bump
      let e ← exprAt f 12
      pure (.unary .bitNot e)
    else primary f

/-- Reads an operand: a literal, a parameter, a name, a call, a parenthesized expression,
row or query, or a `CAST`, `CASE`, `EXISTS` or `RAISE` form. -/
def primary (fuel : Nat) : Parser Expr := do
  match fuel with
  | 0 => tooDeep
  | f + 1 =>
    let some t ← peek | unexpected
    match t.kind with
    | .integer => bump; pure (.number t.text false)
    | .float => bump; pure (.number t.text true)
    | .separated => bump; separatedNumber t
    | .blob => bump; pure (.lit (.blob (hexBytes t.text)))
    | .variable => bump; pure (.variable t.text)
    | .string =>
      if ← atP2 "." then columnRef
      else bump; pure (.lit (.text (unquote t.text)))
    | .punct s =>
      if s == "(" then
        bump
        if ← atQuery then
          let q ← select f
          p ")"
          pure (.subquery q)
        else
          let first ← exprAt f 0
          if ← optP "," then
            let rest ← exprList f
            p ")"
            pure (.vector (first :: rest))
          else
            p ")"
            pure first
      else unexpected
    | .keyword w =>
      if w == "NULL" then bump; pure (.lit .null)
      else if w == "CURRENT_DATE" then bump; pure (.now .date)
      else if w == "CURRENT_TIME" then bump; pure (.now .time)
      else if w == "CURRENT_TIMESTAMP" then bump; pure (.now .timestamp)
      else if w == "CAST" then
        bump
        p "("
        let e ← exprAt f 0
        kw "AS"
        let ty ← typeName
        p ")"
        pure (.cast e (ty.getD ""))
      else if w == "CASE" then
        bump
        let operand ← if ← atKw "WHEN" then pure none else some <$> exprAt f 0
        let arms ← caseArms f []
        let otherwise ← if ← optKw "ELSE" then some <$> exprAt f 0 else pure none
        kw "END"
        pure (.case operand arms otherwise)
      else if w == "EXISTS" then
        bump
        p "("
        let q ← select f
        p ")"
        pure (.exists q)
      else if w == "RAISE" then
        bump
        p "("
        if ← optKw "IGNORE" then
          p ")"
          pure (.raise .ignore none)
        else
          let kind ← if ← optKw "ROLLBACK" then pure RaiseKind.rollback
            else if ← optKw "ABORT" then pure RaiseKind.abort
            else if ← optKw "FAIL" then pure RaiseKind.fail
            else unexpected
          p ","
          let msg ← exprAt f 0
          p ")"
          pure (.raise kind (some msg))
      else if isNameToken t then
        if ← atP2 "(" then
          bump
          bump
          callRest f (identOf t)
        else if ← atP2 "." then columnRef
        else
          bump
          pure (.column none none (identOf t))
      else unexpected
    | .ident | .quoted =>
      if ← atP2 "(" then
        bump
        bump
        callRest f (identOf t)
      else if ← atP2 "." then columnRef
      else
        bump
        pure (.column none none (identOf t))
    | .illegal => unexpected

/-- Reads the arms of a `CASE`. -/
def caseArms (fuel : Nat) (acc : List (Expr × Expr)) : Parser (List (Expr × Expr)) := do
  match fuel with
  | 0 => tooDeep
  | f + 1 =>
    if ← optKw "WHEN" then
      let c ← exprAt f 0
      kw "THEN"
      let r ← exprAt f 0
      caseArms f ((c, r) :: acc)
    else if acc.isEmpty then unexpected
    else pure acc.reverse

/-- Reads the rest of a function call after its `(`: the arguments, an ordering, and a
`FILTER` and `OVER` clause. -/
def callRest (fuel : Nat) (fn : Ident) : Parser Expr := do
  match fuel with
  | 0 => tooDeep
  | f + 1 =>
    let (star, distinct, args) ← do
      if ← optP "*" then pure (true, false, [])
      else
        let distinct ← if ← optKw "DISTINCT" then pure true
          else if ← optKw "ALL" then pure false else pure false
        let args ← if ← atP ")" then pure [] else exprList f
        if ← atKw "ORDER" then
          bump
          kw "BY"
          let _ ← orderList f
        pure (false, distinct, args)
    p ")"
    let filter ← do
      if ← atFilter then
        bump
        p "("
        kw "WHERE"
        let c ← exprAt f 0
        p ")"
        pure (some c)
      else pure none
    let overClause ← do
      if ← atKw "OVER" then
        if ← atP2 "(" then
          bump
          bump
          let w ← window f
          p ")"
          pure (some w)
        else
          match ← peek2 with
          | some u =>
            if isNameToken u then
              bump
              let n ← name
              pure (some (Window.named n.name))
            else pure none
          | none => pure none
      else pure none
    pure (.call fn distinct star args filter overClause)

/-- Reads a window definition inside its parentheses. -/
def window (fuel : Nat) : Parser Window := do
  match fuel with
  | 0 => tooDeep
  | f + 1 =>
    let base ← do
      match ← peek with
      | some t =>
        if t.isKw "PARTITION" || t.isKw "ORDER" || t.isKw "RANGE" || t.isKw "ROWS" ||
            t.isKw "GROUPS" || t.isP ")" then pure none
        else some <$> (·.name) <$> name
      | none => unexpected
    let partition ← do
      if ← atKw "PARTITION" then
        bump
        kw "BY"
        exprList f
      else pure []
    let order ← do
      if ← atKw "ORDER" then
        bump
        kw "BY"
        orderList f
      else pure []
    let frame ← frameOpt f
    pure (.mk base partition order frame)

/-- Reads an optional window frame. -/
def frameOpt (fuel : Nat) : Parser (Option Frame) := do
  match fuel with
  | 0 => tooDeep
  | f + 1 =>
    let unit ← if ← optKw "ROWS" then pure (some FrameUnit.rows)
      else if ← optKw "RANGE" then pure (some FrameUnit.range)
      else if ← optKw "GROUPS" then pure (some FrameUnit.groups)
      else pure none
    match unit with
    | none => pure none
    | some u =>
      let (start, finish) ← do
        if ← optKw "BETWEEN" then
          let s ← frameBound f
          kw "AND"
          let e ← frameBound f
          pure (s, e)
        else
          let s ← frameBound f
          pure (s, FrameBound.currentRow)
      let exclude ← do
        if ← optKw "EXCLUDE" then
          if ← optKw "NO" then kw "OTHERS"; pure FrameExclude.noOthers
          else if ← optKw "CURRENT" then kw "ROW"; pure FrameExclude.currentRow
          else if ← optKw "GROUP" then pure FrameExclude.group
          else kw "TIES"; pure FrameExclude.ties
        else pure FrameExclude.noOthers
      pure (some (.mk u start finish exclude))

/-- Reads an edge of a window frame. -/
def frameBound (fuel : Nat) : Parser FrameBound := do
  match fuel with
  | 0 => tooDeep
  | f + 1 =>
    if (← atKw "UNBOUNDED") then
      bump
      if ← optKw "PRECEDING" then pure .unboundedPreceding
      else kw "FOLLOWING"; pure .unboundedFollowing
    else if (← atKw "CURRENT") && (← atKw2 "ROW") then
      bump
      bump
      pure .currentRow
    else
      let e ← exprAt f 0
      if ← optKw "PRECEDING" then pure (.preceding e)
      else kw "FOLLOWING"; pure (.following e)

/-- Reads a list of expressions separated by commas, with at least one. -/
def exprList (fuel : Nat) : Parser (List Expr) := do
  match fuel with
  | 0 => tooDeep
  | f + 1 =>
    let e ← exprAt f 0
    if ← optP "," then
      let rest ← exprList f
      pure (e :: rest)
    else pure [e]

/-- Reads the terms of an ordering, with at least one. -/
def orderList (fuel : Nat) : Parser (List OrderTerm) := do
  match fuel with
  | 0 => tooDeep
  | f + 1 =>
    let e ← exprAt f 0
    let desc ← sortOrder
    let nulls ← nullsOrder
    if ← optP "," then
      let rest ← orderList f
      pure (.mk e desc nulls :: rest)
    else pure [.mk e desc nulls]

/-- Reads a query. -/
def select (fuel : Nat) : Parser Select := do
  match fuel with
  | 0 => tooDeep
  | f + 1 =>
    let (ctes, recursive) ← do
      if ← optKw "WITH" then
        let r ← optKw "RECURSIVE"
        let cs ← cteList f
        pure (cs, r)
      else pure ([], false)
    let first ← core f
    let (order, limit, offset) ← orderLimit f first
    let (body, order, limit, offset, misplaced) ← compoundRest f (.core first) order limit offset none
    if let some m := misplaced then failWith m
    pure (.mk ctes recursive body order limit offset)

/-- Reads the simple selects joined to a compound so far. An ordering or limit written on
a select that another follows is remembered as an error, the one nearest the end winning. -/
def compoundRest (fuel : Nat) (body : SelectBody) (order : List OrderTerm) (limit offset : Option Expr)
    (misplaced : Option String) :
    Parser (SelectBody × List OrderTerm × Option Expr × Option Expr × Option String) := do
  match fuel with
  | 0 => tooDeep
  | f + 1 =>
    match ← compoundOp with
    | none => pure (body, order, limit, offset, misplaced)
    | some op =>
      let misplaced :=
        if !order.isEmpty then some ("ORDER BY clause should come after " ++ op.word ++ " not before")
        else if limit.isSome then some ("LIMIT clause should come after " ++ op.word ++ " not before")
        else misplaced
      let next ← core f
      let (order', limit', offset') ← orderLimit f next
      compoundRest f (.compound op body next) order' limit' offset' misplaced

/-- Reads an ordering and a limit after a simple select; a `VALUES` list takes neither. -/
def orderLimit (fuel : Nat) (c : SelectCore) :
    Parser (List OrderTerm × Option Expr × Option Expr) := do
  match fuel with
  | 0 => tooDeep
  | f + 1 =>
    match c with
    | .values _ => pure ([], none, none)
    | .select .. =>
      let order ← do
        if ← atKw "ORDER" then
          bump
          kw "BY"
          orderList f
        else pure []
      if ← optKw "LIMIT" then
        let a ← exprAt f 0
        if ← optKw "OFFSET" then
          let b ← exprAt f 0
          pure (order, some a, some b)
        else if ← optP "," then
          let b ← exprAt f 0
          pure (order, some b, some a)
        else pure (order, some a, none)
      else pure (order, none, none)

/-- Reads the common table expressions of a `WITH` clause. -/
def cteList (fuel : Nat) : Parser (List Cte) := do
  match fuel with
  | 0 => tooDeep
  | f + 1 =>
    let n ← name
    let cols ← if ← atP "(" then eidList f else pure []
    kw "AS"
    if ← optKw "NOT" then kw "MATERIALIZED"
    else let _ ← optKw "MATERIALIZED"
    p "("
    let q ← select f
    p ")"
    let c := Cte.mk n cols q
    if ← optP "," then
      let rest ← cteList f
      pure (c :: rest)
    else pure [c]

/-- Reads a parenthesized list of names, each with an optional collation and direction. -/
def eidList (fuel : Nat) : Parser (List Ident) := do
  match fuel with
  | 0 => tooDeep
  | f + 1 =>
    p "("
    let names ← eidItems f
    p ")"
    pure names

/-- Reads the names of a list of names with collations and directions. -/
def eidItems (fuel : Nat) : Parser (List Ident) := do
  match fuel with
  | 0 => tooDeep
  | f + 1 =>
    let n ← name
    if ← optKw "COLLATE" then let _ ← collationName
    let _ ← sortOrder
    if ← optP "," then
      let rest ← eidItems f
      pure (n :: rest)
    else pure [n]

/-- Reads a simple select or a `VALUES` list. -/
def core (fuel : Nat) : Parser SelectCore := do
  match fuel with
  | 0 => tooDeep
  | f + 1 =>
    if ← optKw "VALUES" then
      let rows ← valuesRows f
      pure (.values rows)
    else
      kw "SELECT"
      let distinct ← if ← optKw "DISTINCT" then pure true
        else if ← optKw "ALL" then pure false else pure false
      let cols ← resultColumns f
      let source ← if ← optKw "FROM" then some <$> fromClause f else pure none
      let condition ← if ← optKw "WHERE" then some <$> exprAt f 0 else pure none
      let groupBy ← do
        if ← atKw "GROUP" then
          bump
          kw "BY"
          exprList f
        else pure []
      let having ← if ← optKw "HAVING" then some <$> exprAt f 0 else pure none
      let windows ← do
        if (← atKw "WINDOW") && ((← peek2).map isNameToken).getD false then
          bump
          windowDefs f
        else pure []
      pure (.select distinct cols source condition groupBy having windows)

/-- Reads the rows of a `VALUES` list. -/
def valuesRows (fuel : Nat) : Parser (List (List Expr)) := do
  match fuel with
  | 0 => tooDeep
  | f + 1 =>
    p "("
    let row ← exprList f
    p ")"
    if ← optP "," then
      let rest ← valuesRows f
      pure (row :: rest)
    else pure [row]

/-- Reads named windows of a `WINDOW` clause. -/
def windowDefs (fuel : Nat) : Parser (List (String × Window)) := do
  match fuel with
  | 0 => tooDeep
  | f + 1 =>
    let n ← name
    kw "AS"
    p "("
    let w ← window f
    p ")"
    if ← optP "," then
      let rest ← windowDefs f
      pure ((n.name, w) :: rest)
    else pure [(n.name, w)]

/-- Reads the result columns of a select. -/
def resultColumns (fuel : Nat) : Parser (List ResultColumn) := do
  match fuel with
  | 0 => tooDeep
  | f + 1 =>
    let c ← resultColumn f
    if ← optP "," then
      let rest ← resultColumns f
      pure (c :: rest)
    else pure [c]

/-- Reads a result column: `*`, `table.*`, or an expression with an optional alias, keeping
the text the expression was written with. -/
def resultColumn (fuel : Nat) : Parser ResultColumn := do
  match fuel with
  | 0 => tooDeep
  | f + 1 =>
    if ← optP "*" then return .star
    if (← atName) && (← atP2 ".") && (((← peekAt 2).map (Token.isP · "*")).getD false) then
      let t ← name
      bump
      bump
      return .tableStar t
    let start ← here
    let e ← exprAt f 0
    let stop ← here
    let text := trimSpan (← textBetween start stop)
    let al ← aliasOpt
    pure (.expr e al text)

/-- Reads a `FROM` clause: terms joined left to right. -/
def fromClause (fuel : Nat) : Parser FromClause := do
  match fuel with
  | 0 => tooDeep
  | f + 1 =>
    let first ← fromItem f
    if (← atKw "ON") || (← atKw "USING") then
      failWith ("a JOIN clause is required before " ++ (if ← atKw "ON" then "ON" else "USING"))
    let joins ← joinList f
    pure (.mk first joins)

/-- Reads a term of a `FROM` clause. -/
def fromItem (fuel : Nat) : Parser FromItem := do
  match fuel with
  | 0 => tooDeep
  | f + 1 =>
    if ← optP "(" then
      if ← atQuery then
        let q ← select f
        p ")"
        let al ← aliasOpt
        pure (.subquery q al)
      else
        let inner ← fromClause f
        p ")"
        let al ← aliasOpt
        pure (.nested inner al)
    else
      let (schema, n) ← qualifiedName
      if ← optP "(" then
        let args ← if ← atP ")" then pure [] else exprList f
        p ")"
        let al ← aliasOpt
        pure (.function n args al)
      else
        let al ← aliasOpt
        if ← atKw "INDEXED" then
          bump
          kw "BY"
          let _ ← name
        else if (← atKw "NOT") && (← atKw2 "INDEXED") then
          bump
          bump
        pure (.table schema n al)

/-- Reads the joined terms of a `FROM` clause. -/
def joinList (fuel : Nat) : Parser (List JoinTerm) := do
  match fuel with
  | 0 => tooDeep
  | f + 1 =>
    let kind? ← do
      if ← optP "," then pure (some JoinKind.plain)
      else if ← optKw "JOIN" then pure (some JoinKind.plain)
      else
        match ← peek with
        | some t =>
          if joinKeywords.any (t.isKw ·) then
            bump
            let ws ← joinWords 3 [t]
            some <$> joinKind ws
          else pure none
        | none => pure none
    match kind? with
    | none => pure []
    | some kind =>
      let item ← fromItem f
      let (on, usingCols) ← do
        if ← optKw "ON" then
          let c ← exprAt f 0
          pure (some c, [])
        else if ← optKw "USING" then
          let names ← nameList
          pure (none, names)
        else pure (none, [])
      let rest ← joinList f
      pure (.mk kind item on usingCols :: rest)

end

end Parser

end Payout.Database
