import Payout.Database.Function.Text

/-!
# JSON functions

JSON text is read into a tree that keeps each number as it was written, and written back
without blanks. A path picks a node: `$` is the whole document, `.key` (or `."key"`) a
member of an object, `[N]` an element of an array, `[#-N]` the element `N` from its end and
`[#]` the place after its last element.

A value handed to a JSON function becomes a node: text becomes a string, unless it is the
result of another JSON function, in which case it is read as JSON; numbers stay numbers and
null is `null`. A node handed back becomes a value: strings their text, numbers integers or
doubles, `true` and `false` one and zero, `null` null, and arrays and objects their JSON
text.
-/

namespace Payout.Database

/-- A JSON node. Numbers keep the text they were written with. -/
inductive JNode where
  | null
  | bool (b : Bool)
  | number (text : String)
  | str (s : String)
  | array (items : List JNode)
  | object (members : List (String × JNode))
deriving Inhabited

/-! ### Reading -/

/-- Whether a character is JSON white space. -/
def isJsonSpace (c : Char) : Bool := c == ' ' || c == '\t' || c == '\n' || c == '\r'

/-- Skips white space. -/
def skipJsonSpace (cs : List Char) : List Char := cs.dropWhile isJsonSpace

/-- Reads four hexadecimal digits. -/
def hex4 (cs : List Char) : Option (Nat × List Char) :=
  match cs with
  | a :: b :: c :: d :: rest => do
    let va ← hexValue a
    let vb ← hexValue b
    let vc ← hexValue c
    let vd ← hexValue d
    some (((va * 16 + vb) * 16 + vc) * 16 + vd, rest)
  | _ => none

/-- Reads the rest of a string after its opening quote. -/
def readJsonString : Nat → List Char → List Char → Option (String × List Char)
  | 0, _, _ => none
  | _, [], _ => none
  | fuel + 1, c :: rest, acc =>
    if c == '"' then some (String.ofList acc.reverse, rest)
    else if c.toNat < 0x20 then none
    else if c == '\\' then
      match rest with
      | e :: rest' =>
        if e == 'n' then readJsonString fuel rest' ('\n' :: acc)
        else if e == 't' then readJsonString fuel rest' ('\t' :: acc)
        else if e == 'r' then readJsonString fuel rest' ('\r' :: acc)
        else if e == 'b' then readJsonString fuel rest' ('\x08' :: acc)
        else if e == 'f' then readJsonString fuel rest' ('\x0C' :: acc)
        else if e == '/' || e == '\\' || e == '"' then readJsonString fuel rest' (e :: acc)
        else if e == 'u' then
          match hex4 rest' with
          | some (hi, rest'') =>
            if 0xD800 ≤ hi && hi < 0xDC00 then
              match rest'' with
              | '\\' :: 'u' :: more =>
                match hex4 more with
                | some (lo, more') =>
                  if 0xDC00 ≤ lo && lo < 0xE000 then
                    let cp := 0x10000 + (hi - 0xD800) * 0x400 + (lo - 0xDC00)
                    readJsonString fuel more' (Char.ofNat cp :: acc)
                  else readJsonString fuel rest'' ('�' :: acc)
                | none => none
              | _ => readJsonString fuel rest'' ('�' :: acc)
            else if 0xDC00 ≤ hi && hi < 0xE000 then readJsonString fuel rest'' ('�' :: acc)
            else readJsonString fuel rest'' (Char.ofNat hi :: acc)
          | none => none
        else none
      | [] => none
    else readJsonString fuel rest (c :: acc)

/-- Reads a number: `-`, digits without a leading zero, an optional fraction and exponent. -/
def readJsonNumber (cs : List Char) : Option (String × List Char) :=
  let (sign, rest) := match cs with
    | '-' :: r => (['-'], r)
    | r => ([], r)
  let whole := rest.takeWhile Char.isDigit
  if whole.isEmpty || (whole.length > 1 && whole.head? == some '0') then none
  else
    let rest := rest.drop whole.length
    let (frac, rest) := match rest with
      | '.' :: r =>
        let ds := r.takeWhile Char.isDigit
        if ds.isEmpty then (none, rest) else (some ('.' :: ds), r.drop ds.length)
      | _ => (some [], rest)
    match frac with
    | none => none
    | some frac =>
      let (expo, rest) := match rest with
        | e :: r =>
          if e == 'e' || e == 'E' then
            let (s, r') := match r with
              | '+' :: x => (['+'], x)
              | '-' :: x => (['-'], x)
              | x => ([], x)
            let ds := r'.takeWhile Char.isDigit
            if ds.isEmpty then (none, rest) else (some (e :: s ++ ds), r'.drop ds.length)
          else (some [], rest)
        | [] => (some [], rest)
      match expo with
      | none => none
      | some expo => some (String.ofList (sign ++ whole ++ frac ++ expo), rest)

mutual

/-- Reads a JSON value. -/
def readJsonValue : Nat → List Char → Option (JNode × List Char)
  | 0, _ => none
  | fuel + 1, cs =>
    match skipJsonSpace cs with
    | '{' :: rest => readJsonMembers fuel (skipJsonSpace rest) []
    | '[' :: rest => readJsonItems fuel (skipJsonSpace rest) []
    | '"' :: rest => (readJsonString (rest.length + 1) rest []).map fun (s, r) => (.str s, r)
    | 'n' :: 'u' :: 'l' :: 'l' :: rest => some (.null, rest)
    | 't' :: 'r' :: 'u' :: 'e' :: rest => some (.bool true, rest)
    | 'f' :: 'a' :: 'l' :: 's' :: 'e' :: rest => some (.bool false, rest)
    | other => (readJsonNumber other).map fun (t, r) => (.number t, r)

/-- Reads the members of an object after `{`. -/
def readJsonMembers : Nat → List Char → List (String × JNode) → Option (JNode × List Char)
  | 0, _, _ => none
  | fuel + 1, cs, acc =>
    match cs with
    | '}' :: rest => if acc.isEmpty then some (.object [], rest) else none
    | '"' :: rest => do
      let (key, rest) ← readJsonString (rest.length + 1) rest []
      let rest ← match skipJsonSpace rest with
        | ':' :: r => some r
        | _ => none
      let (v, rest) ← readJsonValue fuel rest
      let acc := acc ++ [(key, v)]
      match skipJsonSpace rest with
      | ',' :: r => readJsonMembers fuel (skipJsonSpace r) acc
      | '}' :: r => some (.object acc, r)
      | _ => none
    | _ => none

/-- Reads the items of an array after `[`. -/
def readJsonItems : Nat → List Char → List JNode → Option (JNode × List Char)
  | 0, _, _ => none
  | fuel + 1, cs, acc =>
    match cs with
    | ']' :: rest => if acc.isEmpty then some (.array [], rest) else none
    | _ => do
      let (v, rest) ← readJsonValue fuel cs
      let acc := acc ++ [v]
      match skipJsonSpace rest with
      | ',' :: r => readJsonItems fuel (skipJsonSpace r) acc
      | ']' :: r => some (.array acc, r)
      | _ => none

end

/-- Reads JSON text; none when it is not well formed. -/
def parseJson (s : String) : Option JNode :=
  let cs := s.toList
  match readJsonValue (2 * cs.length + 2) cs with
  | some (v, rest) => if (skipJsonSpace rest).isEmpty then some v else none
  | none => none

/-! ### Writing -/

/-- A string as JSON text, with quotes, backslashes and control characters escaped. -/
def jsonQuote (s : String) : String :=
  "\"" ++ String.ofList (s.toList.flatMap fun c =>
    if c == '"' then ['\\', '"']
    else if c == '\\' then ['\\', '\\']
    else if c == '\n' then ['\\', 'n']
    else if c == '\t' then ['\\', 't']
    else if c == '\r' then ['\\', 'r']
    else if c == '\x08' then ['\\', 'b']
    else if c == '\x0C' then ['\\', 'f']
    else if c.toNat < 0x20 then
      ['\\', 'u', '0', '0', hexDigit (c.toNat / 16) |>.toLower, hexDigit (c.toNat % 16) |>.toLower]
    else [c]) ++ "\""

/-- A node as JSON text without blanks. -/
def JNode.render : Nat → JNode → String
  | 0, _ => "null"
  | _, .null => "null"
  | _, .bool b => if b then "true" else "false"
  | _, .number t => t
  | _, .str s => jsonQuote s
  | fuel + 1, .array items => "[" ++ ",".intercalate (items.map (JNode.render fuel)) ++ "]"
  | fuel + 1, .object ms =>
    "\x7b" ++ ",".intercalate (ms.map fun (k, v) => jsonQuote k ++ ":" ++ JNode.render fuel v) ++ "\x7d"

/-- The depth any JSON document stays under. -/
def jsonFuel : Nat := 100000

/-- A node as JSON text. -/
def JNode.text (n : JNode) : String := n.render jsonFuel

/-! ### Values and nodes -/

/-- A value handed to a JSON function, with whether it is JSON made by another JSON function. -/
structure JsonArg where
  value : Value
  isJson : Bool
deriving Inhabited

/-- The node a value stands for as a member or element. -/
def JsonArg.node (a : JsonArg) : Except String JNode :=
  match a.value with
  | .null => .ok .null
  | .integer i => .ok (.number (toString i))
  | .real x =>
    if x.isNaN then .ok .null
    else if x.isInf then .ok (.number (if x < 0.0 then "-9e999" else "9e999"))
    else .ok (.number (realText x))
  | .text s =>
    if a.isJson then
      match parseJson s with
      | some n => .ok n
      | none => .error "malformed JSON"
    else .ok (.str s)
  | .blob _ => .error "JSON cannot hold BLOB values"

/-- The value a node hands back: strings their text, numbers integers or doubles, `true`
one, `false` zero, arrays and objects their text. -/
def JNode.toValue : JNode → Value
  | .null => .null
  | .bool b => .integer (if b then 1 else 0)
  | .number t =>
    if t.any (fun c => c == '.' || c == 'e' || c == 'E') then .real (readReal t).1
    else
      let (i, verdict) := readInteger t
      if verdict == .fits then .integer i else .real (readReal t).1
  | .str s => .text s
  | n => .text n.text

/-- The type name `json_type` gives a node. -/
def JNode.typeName : JNode → String
  | .null => "null"
  | .bool b => if b then "true" else "false"
  | .number t => if t.any (fun c => c == '.' || c == 'e' || c == 'E') then "real" else "integer"
  | .str _ => "text"
  | .array _ => "array"
  | .object _ => "object"

/-- Reads the JSON document a value holds. -/
def documentOf (v : Value) : Except String JNode :=
  match parseJson v.asText with
  | some n => .ok n
  | none => .error "malformed JSON"

/-! ### Paths -/

/-- A step of a path. -/
inductive PathStep where
  | key (k : String)
  | index (i : Nat)
  /-- An element counted from the end: `#-N`, or the place after the end for `#`. -/
  | fromEnd (n : Nat)
deriving Inhabited

/-- Reads a path; none when it is malformed. -/
def parsePath (p : String) : Option (List PathStep) :=
  match p.toList with
  | '$' :: rest => go rest.length rest
  | _ => none
where
  /-- Reads the steps. -/
  go : Nat → List Char → Option (List PathStep)
    | _, [] => some []
    | 0, _ => none
    | fuel + 1, '.' :: '"' :: rest =>
      let key := rest.takeWhile (· != '"')
      match rest.drop key.length with
      | '"' :: more => (go fuel more).map (PathStep.key (String.ofList key) :: ·)
      | _ => none
    | fuel + 1, '.' :: rest =>
      let key := rest.takeWhile fun c => c != '.' && c != '['
      if key.isEmpty then none
      else (go fuel (rest.drop key.length)).map (PathStep.key (String.ofList key) :: ·)
    | fuel + 1, '[' :: '#' :: rest =>
      match rest with
      | ']' :: more => (go fuel more).map (PathStep.fromEnd 0 :: ·)
      | '-' :: more =>
        let ds := more.takeWhile Char.isDigit
        match more.drop ds.length with
        | ']' :: more' =>
          if ds.isEmpty then none
          else (go fuel more').map (PathStep.fromEnd (String.ofList ds).toNat! :: ·)
        | _ => none
      | _ => none
    | fuel + 1, '[' :: rest =>
      let ds := rest.takeWhile Char.isDigit
      match rest.drop ds.length with
      | ']' :: more =>
        if ds.isEmpty then none else (go fuel more).map (PathStep.index (String.ofList ds).toNat! :: ·)
      | _ => none
    | _, _ => none

/-- The message for a malformed path. -/
def badPath (p : String) : String := "bad JSON path: '" ++ p ++ "'"

/-- Reads a path argument. -/
def pathOf (v : Value) : Except String (List PathStep) :=
  let p := v.asText
  match parsePath p with
  | some steps => .ok steps
  | none => .error (badPath p)

/-- The node at a path. -/
def JNode.get? : JNode → List PathStep → Option JNode
  | n, [] => some n
  | .object ms, .key k :: rest => (ms.find? (·.1 == k)) >>= fun (_, v) => JNode.get? v rest
  | .array items, .index i :: rest => items[i]? >>= fun v => JNode.get? v rest
  | .array items, .fromEnd n :: rest =>
    if n == 0 || n > items.length then none else items[items.length - n]? >>= fun v => JNode.get? v rest
  | _, _ => none

/-- How an edit treats a path: set it whether or not it exists, insert it only where it does
not, replace it only where it does. -/
inductive EditMode where
  | set | insert | replace
deriving DecidableEq, Inhabited

/-- Edits the node at a path; a path through a missing member is created when inserting or
setting. -/
def JNode.edit (mode : EditMode) (v : JNode) : JNode → List PathStep → JNode
  | _, [] => if mode == .insert then v else v
  | .object ms, .key k :: rest =>
    match ms.find? (·.1 == k) with
    | some (_, old) =>
      if rest.isEmpty && mode == .insert then .object ms
      else .object (ms.map fun (k', x) => if k' == k then (k', JNode.edit mode v old rest) else (k', x))
    | none =>
      if mode == .replace then .object ms
      else
        match build rest with
        | some n => .object (ms ++ [(k, n)])
        | none => .object ms
  | .array items, .index i :: rest =>
    if i < items.length then
      if rest.isEmpty && mode == .insert then .array items
      else .array (items.set i (JNode.edit mode v (items.getD i .null) rest))
    else if i == items.length && mode != .replace then
      match build rest with
      | some n => .array (items ++ [n])
      | none => .array items
    else .array items
  | .array items, .fromEnd n :: rest =>
    if n == 0 then
      if mode == .replace then .array items
      else
        match build rest with
        | some x => .array (items ++ [x])
        | none => .array items
    else if n ≤ items.length then
      let i := items.length - n
      if rest.isEmpty && mode == .insert then .array items
      else .array (items.set i (JNode.edit mode v (items.getD i .null) rest))
    else .array items
  | n, _ => n
where
  /-- The node a missing path creates: objects along its keys, ending in the value. -/
  build : List PathStep → Option JNode
    | [] => some v
    | .key k :: rest => (build rest).map fun n => .object [(k, n)]
    | _ => none

/-- Removes the node at a path. -/
def JNode.remove : JNode → List PathStep → JNode
  | n, [] => n
  | .object ms, [.key k] => .object (ms.filter (·.1 != k))
  | .object ms, .key k :: rest => .object (ms.map fun (k', x) => if k' == k then (k', x.remove rest) else (k', x))
  | .array items, [.index i] => .array (items.eraseIdx i)
  | .array items, .index i :: rest =>
    .array (items.set i ((items.getD i .null).remove rest))
  | .array items, [.fromEnd n] => if n == 0 || n > items.length then .array items
    else .array (items.eraseIdx (items.length - n))
  | .array items, .fromEnd n :: rest =>
    if n == 0 || n > items.length then .array items
    else .array (items.set (items.length - n) ((items.getD (items.length - n) .null).remove rest))
  | n, _ => n

/-- Merges a patch into a node, as JSON merge patches do: members of an object patch
replace, a null member removes, anything else replaces the whole. -/
def JNode.patch : Nat → JNode → JNode → JNode
  | 0, _, p => p
  | fuel + 1, target, .object pms =>
    let tms := match target with
      | .object ms => ms
      | _ => []
    let merged := pms.foldl (fun acc (k, pv) =>
      match pv with
      | .null => acc.filter (·.1 != k)
      | _ =>
        match acc.find? (·.1 == k) with
        | some (_, tv) => acc.map fun (k', x) => if k' == k then (k', JNode.patch fuel tv pv) else (k', x)
        | none => acc ++ [(k, JNode.patch fuel .null pv)]) tms
    .object merged
  | _, _, p => p

/-! ### The functions -/

/-- `json(X)`: the JSON text without blanks. -/
def jsonOf (x : JsonArg) : Except String Value :=
  match x.value with
  | .null => .ok .null
  | v => do
    let n ← documentOf v
    pure (.text n.text)

/-- `json_valid(X)`: whether the text is well-formed JSON. -/
def jsonValidOf (x : Value) : Value :=
  match x with
  | .null => .null
  | v => .integer (if (parseJson v.asText).isSome then 1 else 0)

/-- `json_quote(X)`: the value as JSON. -/
def jsonQuoteOf (x : JsonArg) : Except String Value := do
  let n ← x.node
  pure (.text n.text)

/-- `json_array(…)`. -/
def jsonArrayOf (args : List JsonArg) : Except String Value := do
  let items ← args.mapM JsonArg.node
  pure (.text (JNode.array items).text)

/-- `json_object(K, V, …)`: keys must be text. -/
def jsonObjectOf (args : List JsonArg) : Except String Value := do
  if args.length % 2 != 0 then throw "json_object() requires an even number of arguments"
  let rec pairs : List JsonArg → Except String (List (String × JNode))
    | k :: v :: rest => do
      match k.value with
      | .text s =>
        let n ← v.node
        let more ← pairs rest
        pure ((s, n) :: more)
      | _ => throw "json_object() labels must be TEXT"
    | _ => pure []
  let ms ← pairs args
  pure (.text (JNode.object ms).text)

/-- `json_extract(X, P, …)`: one path gives the node's value; several give a JSON array of
the nodes. -/
def jsonExtractOf (x : Value) (paths : List Value) : Except String Value := do
  match x with
  | .null => pure .null
  | _ =>
    let doc ← documentOf x
    match paths with
    | [p] =>
      if p.isNull then pure .null
      else
        let steps ← pathOf p
        pure ((doc.get? steps).map JNode.toValue |>.getD .null)
    | _ =>
      let nodes ← paths.mapM fun p => do
        let steps ← pathOf p
        pure ((doc.get? steps).getD .null)
      pure (.text (JNode.array nodes).text)

/-- The `->` operator: the node at a path as JSON text. -/
def jsonArrowOf (x p : Value) : Except String Value := do
  match x, p with
  | .null, _ | _, .null => pure .null
  | _, _ =>
    let doc ← documentOf x
    let path := p.asText
    let steps ← match p with
      | .integer i => pure [if i ≥ 0 then PathStep.index i.toNat else PathStep.fromEnd i.natAbs]
      | _ =>
        if path.startsWith "$" then pathOf p
        else pure [PathStep.key path]
    pure ((doc.get? steps).map (fun n => Value.text n.text) |>.getD .null)

/-- The `->>` operator: the node at a path as a value. -/
def jsonArrow2Of (x p : Value) : Except String Value := do
  match x, p with
  | .null, _ | _, .null => pure .null
  | _, _ =>
    let doc ← documentOf x
    let path := p.asText
    let steps ← match p with
      | .integer i => pure [if i ≥ 0 then PathStep.index i.toNat else PathStep.fromEnd i.natAbs]
      | _ =>
        if path.startsWith "$" then pathOf p
        else pure [PathStep.key path]
    pure ((doc.get? steps).map JNode.toValue |>.getD .null)

/-- `json_set`, `json_insert` and `json_replace`: edits at each path in turn. -/
def jsonEditOf (mode : EditMode) (name : String) (args : List JsonArg) : Except String Value := do
  match args with
  | [] => pure .null
  | x :: rest =>
    if rest.length % 2 != 0 then
      throw ("json_" ++ name ++ "() needs an odd number of arguments")
    match x.value with
    | .null => pure .null
    | _ =>
      let doc ← documentOf x.value
      let rec go : JNode → List JsonArg → Except String (Option JNode)
        | d, p :: v :: more => do
          if p.value.isNull then pure none
          else
            let steps ← pathOf p.value
            let n ← v.node
            go (JNode.edit mode n d steps) more
        | d, _ => pure (some d)
      match ← go doc rest with
      | some d => pure (.text d.text)
      | none => pure .null

/-- `json_remove(X, P, …)`. -/
def jsonRemoveOf (x : Value) (paths : List Value) : Except String Value := do
  match x with
  | .null => pure .null
  | _ =>
    let doc ← documentOf x
    let rec go : JNode → List Value → Except String (Option JNode)
      | d, p :: more => do
        if p.isNull then pure none
        else
          let steps ← pathOf p
          if steps.isEmpty then pure none else go (d.remove steps) more
      | d, [] => pure (some d)
    match ← go doc paths with
    | some d => pure (.text d.text)
    | none => pure .null

/-- `json_type(X[, P])`. -/
def jsonTypeOf (x : Value) (path : Option Value) : Except String Value := do
  match x with
  | .null => pure .null
  | _ =>
    let doc ← documentOf x
    let node ← match path with
      | some .null => pure none
      | some p => do
        let steps ← pathOf p
        pure (doc.get? steps)
      | none => pure (some doc)
    pure ((node.map fun n => Value.text n.typeName).getD .null)

/-- `json_array_length(X[, P])`: elements of an array, zero for anything else. -/
def jsonArrayLengthOf (x : Value) (path : Option Value) : Except String Value := do
  match x with
  | .null => pure .null
  | _ =>
    let doc ← documentOf x
    let node ← match path with
      | some p => do
        let steps ← pathOf p
        pure (doc.get? steps)
      | none => pure (some doc)
    pure (match node with
      | some (.array items) => .integer items.length
      | some _ => .integer 0
      | none => .null)

/-- `json_patch(T, P)`. -/
def jsonPatchOf (t p : JsonArg) : Except String Value := do
  match t.value, p.value with
  | .null, _ | _, .null => pure .null
  | tv, pv =>
    let target ← documentOf tv
    let patch ← documentOf pv
    pure (.text (JNode.patch jsonFuel target patch).text)

end Payout.Database
