import Payout.Decimal.Text

/-!
# JSON values

A JSON document as a tree. Numbers keep the three shapes a reader tells apart: a
non-negative integer below `2^64`, a negative integer down to `-2^63`, and a double for
everything else (anything written with a point or an exponent, and integers out of those
ranges). Objects keep their members in order; a lookup finds the last member of a name, as a
reader that overwrites repeated names would.

The compact printer writes no blanks, escapes quotes, backslashes and control characters,
writes a double in its shortest form (`100.0`, `1e21`) and a NaN or infinity as `null`.
-/

namespace Payout

/-- A JSON number. -/
inductive JsonNumber where
  | nat (n : Nat)
  | neg (i : Int)
  | float (x : Float)
deriving Inhabited

/-- A JSON value. -/
inductive Json where
  | null
  | bool (b : Bool)
  | num (n : JsonNumber)
  | str (s : String)
  | arr (items : List Json)
  | obj (members : List (String × Json))
deriving Inhabited

/-- The text of a number. -/
def JsonNumber.render : JsonNumber → String
  | .nat n => toString n
  | .neg i => toString i
  | .float x =>
    match Decimal.read x with
    | .finite _ => Decimal.number x
    | _ => "null"

namespace Json

/-- An integer as a JSON number of the right shape. -/
def int (i : Int) : Json := if i ≥ 0 then .num (.nat i.toNat) else .num (.neg i)

/-- A double as a JSON number. -/
def float (x : Float) : Json := .num (.float x)

/-- The last member of an object with a name. -/
def get? (j : Json) (key : String) : Option Json :=
  match j with
  | .obj members => (members.reverse.find? (·.1 == key)).map (·.2)
  | _ => none

/-- Whether an object has a member of a name. -/
def has (j : Json) (key : String) : Bool := (j.get? key).isSome

/-- Four lowercase hex digits of a code below `0x10000`. -/
def hex4 (n : Nat) : String :=
  let d := fun (k : Nat) => "0123456789abcdef".toList.getD (n / Nat.pow 16 k % 16) '0'
  String.ofList [d 3, d 2, d 1, d 0]

/-- A character as it stands inside a written string. -/
def escapeChar (c : Char) : String :=
  match c with
  | '"' => "\\\""
  | '\\' => "\\\\"
  | '\n' => "\\n"
  | '\r' => "\\r"
  | '\t' => "\\t"
  | c =>
    if c.toNat == 8 then "\\b"
    else if c.toNat == 12 then "\\f"
    else if c.toNat < 0x20 then "\\u" ++ hex4 c.toNat
    else String.singleton c

/-- A string written with quotes and escapes. -/
def quote (s : String) : String :=
  "\"" ++ String.join (s.toList.map escapeChar) ++ "\""

mutual

/-- The compact text of a value. -/
def render : Json → String
  | .null => "null"
  | .bool b => if b then "true" else "false"
  | .num n => n.render
  | .str s => quote s
  | .arr items => "[" ++ renderItems items ++ "]"
  | .obj members => "\x7b" ++ renderMembers members ++ "\x7d"

/-- The compact text of array items, separated by commas. -/
def renderItems : List Json → String
  | [] => ""
  | [x] => render x
  | x :: rest => render x ++ "," ++ renderItems rest

/-- The compact text of object members, separated by commas. -/
def renderMembers : List (String × Json) → String
  | [] => ""
  | [(k, v)] => quote k ++ ":" ++ render v
  | (k, v) :: rest => quote k ++ ":" ++ render v ++ "," ++ renderMembers rest

end

/-- Inserts a member into members sorted by name, replacing one of the same name. -/
def insertSorted (k : String) (v : Json) : List (String × Json) → List (String × Json)
  | [] => [(k, v)]
  | (k', v') :: rest =>
    if k == k' then (k, v) :: rest
    else if k < k' then (k, v) :: (k', v') :: rest
    else (k', v') :: insertSorted k v rest

mutual

/-- The value with the members of every object sorted by name and a repeated name keeping its
last value, as a map ordered by keys holds it. -/
def canonical : Json → Json
  | .arr items => .arr (canonicalItems items)
  | .obj members => .obj ((canonicalMembers members).foldl (fun acc (k, v) => insertSorted k v acc) [])
  | j => j

/-- `canonical` on each item. -/
def canonicalItems : List Json → List Json
  | [] => []
  | x :: rest => canonical x :: canonicalItems rest

/-- `canonical` on each member's value. -/
def canonicalMembers : List (String × Json) → List (String × Json)
  | [] => []
  | (k, v) :: rest => (k, canonical v) :: canonicalMembers rest

end

end Json

end Payout
