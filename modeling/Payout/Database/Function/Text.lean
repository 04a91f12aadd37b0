import Payout.Database.Value

/-!
# Functions on text and bytes

The scalar functions that read their arguments as text or bytes: lengths, cuts, searches,
case, trimming, replacing, quoting, hexadecimal, code points, and the pattern matching of
`LIKE` and `GLOB`.

Text counts in characters and stops at a NUL character where the database's text functions
stop at one; blobs count in bytes. Case is folded for ASCII letters only.

A pattern is matched character by character: `%` (`*` for `GLOB`) matches any run of
characters, `_` (`?`) any one character; `LIKE` ignores the case of ASCII letters and may
name an escape character, and `GLOB` reads `[…]` as a set of characters, with ranges and
`^` for its complement.
-/

namespace Payout.Database

/-- The characters of text up to its first NUL. -/
def charsToNul (s : String) : List Char := s.toList.takeWhile (· != '\x00')

/-- The value's text, or none for null. -/
def Value.text? : Value → Option String
  | .null => none
  | v => some v.asText

/-- `length(X)`: characters of text (to the first NUL), bytes of a blob, characters of a
number's text. -/
def lengthOf : Value → Value
  | .null => .null
  | .blob bs => .integer bs.length
  | v => .integer (charsToNul v.asText).length

/-- `octet_length(X)`: the bytes of the value's text, or of a blob. -/
def octetLength : Value → Value
  | .null => .null
  | .blob bs => .integer bs.length
  | v => .integer (utf8Bytes v.asText).length

/-- Text with its ASCII letters in lower case. -/
def lowerText : Value → Value
  | .null => .null
  | v => .text (lowerAscii v.asText)

/-- Text with its ASCII letters in upper case. -/
def upperText : Value → Value
  | .null => .null
  | v => .text (upperAscii v.asText)

/-- A whole number cut to 32 bits, as a position argument is read. -/
def toInt32 (i : Int) : Int :=
  let m := Int.emod i 4294967296
  if m ≥ 2147483648 then m - 4294967296 else m

/-- `substr(X, Y[, Z])`: counts from one, from the end when `Y` is negative, and takes `Z`
items (those before when `Z` is negative); a zero `Y` takes one item fewer. Text counts in
characters, a blob in bytes. -/
def substrOf (x : Value) (y : Value) (z : Option Value) : Value :=
  if y.isNull || (z.map Value.isNull).getD false then .null
  else match x with
    | .null => .null
    | _ =>
      let p1 := toInt32 y.asInteger
      let (p2, negP2) := match z with
        | some zv =>
          let n := toInt32 zv.asInteger
          if n < 0 then (-n, true) else (n, false)
        | none => ((1000000000 : Int), false)
      let items : List (Option Char ⊕ UInt8) := match x with
        | .blob bs => bs.map Sum.inr
        | v => (charsToNul v.asText).map (fun c => Sum.inl (some c))
      let len : Int := items.length
      let (p1, p2) :=
        if p1 < 0 then
          let p1' := p1 + len
          if p1' < 0 then
            let p2' := p2 + p1'
            (0, if p2' < 0 then 0 else p2')
          else (p1', p2)
        else if p1 > 0 then (p1 - 1, p2)
        else if p2 > 0 then (p1, p2 - 1)
        else (p1, p2)
      let (p1, p2) :=
        if negP2 then
          let q1 := p1 - p2
          if q1 < 0 then (0, p2 + q1) else (q1, p2)
        else (p1, p2)
      let taken := (items.drop p1.toNat).take p2.toNat
      match x with
      | .blob _ => .blob (taken.filterMap fun i => match i with | .inr b => some b | .inl _ => none)
      | _ => .text (String.ofList (taken.filterMap fun i => match i with
          | .inl c => c
          | .inr _ => none))

/-- The position of the first occurrence of a list in another, counting from one; zero when
there is none. -/
def findSublist {α : Type} [BEq α] (hay needle : List α) : Nat :=
  go hay 1
where
  /-- Tries each position in turn. -/
  go : List α → Nat → Nat
    | [], k => if needle.isEmpty then k else 0
    | h :: rest, k => if needle.isPrefixOf (h :: rest) then k else go rest (k + 1)

/-- `instr(X, Y)`: the position of `Y` in `X`, in bytes for two blobs, else in characters. -/
def instrOf : Value → Value → Value
  | .null, _ | _, .null => .null
  | .blob a, .blob b => .integer (findSublist a b)
  | x, y => .integer (findSublist x.asText.toList y.asText.toList)

/-- Replaces every occurrence of a nonempty list in another. -/
def replaceAll {α : Type} [BEq α] (hay pat rep : List α) : List α :=
  if pat.isEmpty then hay else go hay.length hay
where
  /-- Walks the list, replacing as it goes. -/
  go : Nat → List α → List α
    | 0, xs => xs
    | _, [] => []
    | fuel + 1, x :: rest =>
      if pat.isPrefixOf (x :: rest) then rep ++ go fuel ((x :: rest).drop pat.length)
      else x :: go fuel rest

/-- `replace(X, Y, Z)`: every occurrence of `Y` in `X` replaced by `Z`; an empty `Y` changes
nothing. -/
def replaceOf : Value → Value → Value → Value
  | .null, _, _ | _, .null, _ | _, _, .null => .null
  | x, y, z =>
    let pat := y.asText
    if pat.isEmpty then .text x.asText
    else .text (String.ofList (replaceAll x.asText.toList pat.toList z.asText.toList))

/-- `trim`, `ltrim` and `rtrim`: removes the characters of a set (a space by default) from
the chosen ends. -/
def trimOf (left right : Bool) (x : Value) (set : Option Value) : Value :=
  match x, set with
  | .null, _ => .null
  | _, some .null => .null
  | _, _ =>
    let chars := match set with
      | some v => v.asText.toList
      | none => [' ']
    let cs := x.asText.toList
    let cs := if left then cs.dropWhile chars.contains else cs
    let cs := if right then (cs.reverse.dropWhile chars.contains).reverse else cs
    .text (String.ofList cs)

/-- The digits of hexadecimal in upper case. -/
def hexDigit (n : Nat) : Char := "0123456789ABCDEF".toList.getD n '0'

/-- Bytes in hexadecimal, two upper-case digits a byte. -/
def hexOfBytes (bs : List UInt8) : String :=
  String.ofList (bs.flatMap fun b => [hexDigit (b.toNat / 16), hexDigit (b.toNat % 16)])

/-- `hex(X)`: the bytes of the value's text (or of a blob) in hexadecimal. -/
def hexOf (v : Value) : Value := .text (hexOfBytes v.asBytes)

/-- The value of a hexadecimal digit. -/
def hexValue (c : Char) : Option Nat :=
  if c.isDigit then some (c.toNat - '0'.toNat)
  else if 'a' ≤ c && c ≤ 'f' then some (c.toNat - 'a'.toNat + 10)
  else if 'A' ≤ c && c ≤ 'F' then some (c.toNat - 'A'.toNat + 10)
  else none

/-- `unhex(X[, Y])`: the bytes that pairs of hexadecimal digits spell; characters of `Y` may
stand between pairs. Anything else gives null. -/
def unhexOf (x : Value) (ignore : Option Value) : Value :=
  match x, ignore with
  | .null, _ | _, some .null => .null
  | _, _ =>
    let skip := match ignore with
      | some v => v.asText.toList
      | none => []
    match go skip x.asText.toList with
    | some bs => .blob bs
    | none => .null
where
  /-- Reads pairs of digits, skipping allowed characters between them. -/
  go (skip : List Char) : List Char → Option (List UInt8)
    | [] => some []
    | c :: rest =>
      match hexValue c with
      | some hi =>
        match rest with
        | d :: rest' =>
          match hexValue d with
          | some lo => (go skip rest').map (UInt8.ofNat (hi * 16 + lo) :: ·)
          | none => none
        | [] => none
      | none => if skip.contains c then go skip rest else none

/-- The text of a real as `quote` writes it: fifteen significant digits when they read back
to the same double, else up to twenty digits after the point in exponent form, trailing zeros
dropped but one digit kept after the point. -/
def quoteReal (x : Float) : String :=
  let t := realText x
  if (readReal t).1 == x then t
  else
    match Decimal.read x with
    | .finite b =>
      let sign := if b.negative then "-" else ""
      let dd := decimalDigits (if b.negative then -x else x) 21 26
      let ds := if dd.digits.length ≤ 1 then dd.digits ++ [0] else dd.digits
      let expo := dd.pointAt - 1
      let en := expo.natAbs
      sign ++ digitText (ds.take 1) ++ "." ++ digitText (ds.drop 1) ++ "e" ++
        (if expo < 0 then "-" else "+") ++ (if en < 10 then "0" else "") ++ toString en
    | _ => t

/-- `quote(X)`: the value as a literal: text in single quotes with quotes doubled, a blob as
`X'…'`, null as `NULL`. -/
def quoteOf : Value → Value
  | .null => .text "NULL"
  | .integer i => .text (toString i)
  | .real x => .text (quoteReal x)
  | .text s => .text ("'" ++ String.ofList (s.toList.flatMap fun c => if c == '\'' then [c, c] else [c]) ++ "'")
  | .blob bs => .text ("X'" ++ hexOfBytes bs ++ "'")

/-- `char(X, …)`: the characters of the code points; one out of range is the replacement
character. -/
def charOf (args : List Value) : Value :=
  .text (String.ofList (args.map fun v =>
    let n := v.asInteger
    if n < 0 || n > 0x10FFFF || (0xD800 ≤ n && n ≤ 0xDFFF) then '�' else Char.ofNat n.toNat))

/-- `unicode(X)`: the code point of the first character, null for empty text. -/
def unicodeOf : Value → Value
  | .null => .null
  | v =>
    match v.asText.toList.head? with
    | some c => .integer c.toNat
    | none => .null

/-- `soundex(X)`: the four-character sound code of the first word, `?000` when there is no
letter. -/
def soundexOf (v : Value) : Value :=
  let code (c : Char) : Nat :=
    let u := c.toUpper
    if "BFPV".contains u then 1 else if "CGJKQSXZ".contains u then 2
    else if "DT".contains u then 3 else if u == 'L' then 4
    else if "MN".contains u then 5 else if u == 'R' then 6 else 0
  let cs := (v.asText.toList.dropWhile (fun c => !c.isAlpha || c.toNat ≥ 128))
  match cs with
  | [] => .text "?000"
  | first :: rest =>
    let (digits, _) := rest.foldl (fun (acc, prev) c =>
      if !(c.isAlpha && c.toNat < 128) then (acc, prev)
      else
        let k := code c
        if k > 0 && k != prev then (acc ++ [k], k) else (acc, k)) (([] : List Nat), code first)
    let ds := (digits ++ [0, 0, 0]).take 3
    .text (String.ofList (first.toUpper :: ds.map fun d => Char.ofNat (d + '0'.toNat)))

/-! ### Patterns -/

/-- How a pattern is matched: its wildcards, whether `[…]` sets are read, and whether ASCII
case is ignored. -/
structure PatternRules where
  many : Char
  one : Char
  sets : Bool
  noCase : Bool
deriving Inhabited

/-- The rules of `LIKE`. -/
def likeRules (noCase : Bool) : PatternRules := ⟨'%', '_', false, noCase⟩

/-- The rules of `GLOB`. -/
def globRules : PatternRules := ⟨'*', '?', true, false⟩

/-- The outcome of matching: a match, no match here, or no match at any later start
either. -/
inductive PatternOutcome where
  | matched
  | noMatch
  | noWildcardMatch
deriving DecidableEq, Inhabited

/-- Whether two characters are the same, ignoring ASCII case when asked. -/
def sameChar (noCase : Bool) (a b : Char) : Bool :=
  a == b || (noCase && a.toNat < 128 && b.toNat < 128 && a.toLower == b.toLower)

/-- Reads a `[…]` set against a character: gives whether it matched and the pattern after
the set, or none when the set is not closed. -/
def matchSet (c : Char) (pat : List Char) : Option (Bool × List Char) :=
  let (invert, pat) := match pat with
    | '^' :: rest => (true, rest)
    | _ => (false, pat)
  let (seen, pat) := match pat with
    | ']' :: rest => (c == ']', rest)
    | _ => (false, pat)
  go seen invert 0 pat pat.length
where
  /-- Reads the members of the set. -/
  go (seen invert : Bool) (prior : Nat) : List Char → Nat → Option (Bool × List Char)
    | _, 0 => none
    | [], _ => none
    | ']' :: rest, _ => some (seen != invert, rest)
    | '-' :: d :: rest, fuel + 1 =>
      if d != ']' && prior > 0 then
        go (seen || (c.toNat ≥ prior && c.toNat ≤ d.toNat)) invert 0 rest fuel
      else go (seen || c == '-') invert '-'.toNat (d :: rest) fuel
    | x :: rest, fuel + 1 => go (seen || c == x) invert x.toNat rest fuel

/-- Skips the wildcards after a `many` wildcard, each `one` taking a character of the text;
none when the text runs out. -/
def skipWildcards (r : PatternRules) : Nat → List Char → List Char → Option (List Char × List Char)
  | 0, p, s => some (p, s)
  | k + 1, p, s =>
    match p with
    | d :: p' =>
      if d == r.many then skipWildcards r k p' s
      else if d == r.one then
        match s with
        | _ :: s' => skipWildcards r k p' s'
        | [] => none
      else some (p, s)
    | [] => some (p, s)

mutual

/-- Matches a pattern against text. `escape` is the escape character of `LIKE`. -/
def patternMatch (r : PatternRules) (escape : Option Char) : Nat → List Char → List Char →
    PatternOutcome
  | 0, _, _ => .noMatch
  | _, [], s => if s.isEmpty then .matched else .noMatch
  | fuel + 1, c :: pat, s =>
    if c == r.many then
      match skipWildcards r (pat.length + 1) pat s with
      | none => .noWildcardMatch
      | some ([], _) => .matched
      | some (p, s) => tryStarts r escape fuel p s
    else if r.sets && c == '[' then
      match s with
      | [] => .noMatch
      | x :: s' =>
        match matchSet x pat with
        | some (true, rest) => patternMatch r escape fuel rest s'
        | _ => .noMatch
    else if escape == some c then
      match pat, s with
      | e :: rest, x :: s' =>
        if sameChar r.noCase e x then patternMatch r escape fuel rest s' else .noMatch
      | _, _ => .noMatch
    else
      match s with
      | [] => .noMatch
      | x :: s' =>
        if sameChar r.noCase c x || c == r.one then patternMatch r escape fuel pat s'
        else .noMatch

/-- Matches the rest of a pattern at every start in the text, the first start first. -/
def tryStarts (r : PatternRules) (escape : Option Char) : Nat → List Char → List Char →
    PatternOutcome
  | 0, _, _ => .noWildcardMatch
  | fuel + 1, p, t =>
    match patternMatch r escape fuel p t with
    | .noMatch =>
      match t with
      | _ :: t' => tryStarts r escape fuel p t'
      | [] => .noWildcardMatch
    | other => other

end

/-- Whether text matches a pattern under the rules. -/
def patternMatches (r : PatternRules) (escape : Option Char) (pattern text : String) : Bool :=
  let p := pattern.toList
  let s := text.toList
  patternMatch r escape (2 * (p.length + 2) * (s.length + 2)) p s == .matched

end Payout.Database
