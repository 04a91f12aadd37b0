import Payout.Database.Function.Text

/-!
# Formatted text

`printf(FORMAT, …)` (also called `format`) writes its arguments into a format. A conversion
is `%`, then flags (`-` to the left, `+` or a space before positive numbers, `#` for the
alternate form, `0` to pad with zeros, `,` to group thousands, `!` for the exact forms),
then a width and a precision (either may be `*`, taken from the arguments), then one of:

* `d` `i` `u` `x` `X` `o` `p` `r`: whole numbers in decimal, hexadecimal or octal (`r` adds
  an ordinal suffix);
* `f` `e` `E` `g` `G`: doubles, with six places unless a precision is given, rounded from
  their first sixteen significant digits;
* `s` `z`: text; `q` doubles single quotes, `Q` also encloses the text in them (and writes
  `NULL` for null), `w` doubles double quotes;
* `c`: the first character of the text; `%`: a percent sign; `n`: nothing.

An argument that is missing reads as zero or as no text. An unknown conversion ends the
output there. Widths count bytes, and with `!` characters.
-/

namespace Payout.Database

/-- What a conversion's flags, width and precision say. -/
structure Spec where
  left : Bool
  signMark : Option Char
  alternate : Bool
  exact : Bool
  zeroPad : Bool
  thousands : Bool
  width : Nat
  precision : Option Nat
deriving Inhabited

/-- The arguments not yet used. -/
abbrev Args := List Value

/-- The next argument as a whole number; zero when there is none. -/
def nextInt : Args → Int × Args
  | [] => (0, [])
  | v :: rest => (v.asInteger, rest)

/-- The next argument as a double; zero when there is none. -/
def nextReal : Args → Float × Args
  | [] => (0.0, [])
  | v :: rest => (v.asReal, rest)

/-- The next argument as text; none when there is none or it is null. -/
def nextText : Args → Option String × Args
  | [] => (none, [])
  | v :: rest => (v.text?, rest)

/-- Digits of a natural in a base, with the digit characters given. -/
def radixDigits (digits : String) (base : Nat) (n : Nat) : List Char :=
  if base < 2 then ['0'] else go n (n + 1) []
where
  /-- Peels digits off the low end. -/
  go (n : Nat) : Nat → List Char → List Char
    | 0, acc => acc
    | fuel + 1, acc =>
      let acc := digits.toList.getD (n % base) '0' :: acc
      if n / base == 0 then acc else go (n / base) fuel acc

/-- Inserts a comma between groups of three digits. -/
def groupThousands (ds : List Char) : List Char :=
  let rev := ds.reverse
  ((rev.zip (List.range rev.length)).flatMap fun (c, i) =>
    if i > 0 && i % 3 == 0 then [c, ','] else [c]).reverse

/-- Pads converted text to the width: with spaces on the left, or on the right when
left-justified. -/
def padField (s : Spec) (body : List UInt8) (width : Nat) : List UInt8 :=
  if body.length ≥ width then body
  else
    let pad := List.replicate (width - body.length) (32 : UInt8)
    if s.left then body ++ pad else pad ++ body

/-- The bytes of ASCII text. -/
def asciiBytes (cs : List Char) : List UInt8 := cs.map fun c => UInt8.ofNat c.toNat

/-- The width counted in bytes when `!` counts it in characters. -/
def widthInBytes (s : Spec) (body : List UInt8) : Nat :=
  if s.exact then s.width + (body.filter fun b => b.toNat / 64 == 2).length else s.width

/-- A whole-number conversion. -/
def formatRadix (s : Spec) (conv : Char) (v : Int) : List UInt8 :=
  let signed := conv == 'd' || conv == 'i' || conv == 'r'
  let (magnitude, sign) : Nat × Option Char :=
    if signed then
      if v < 0 then (v.natAbs, some '-') else (v.toNat, s.signMark)
    else ((if v < 0 then v + 18446744073709551616 else v).toNat, none)
  let alternate := s.alternate && magnitude != 0
  let (base, digits) :=
    if conv == 'x' || conv == 'p' then (16, "0123456789abcdef")
    else if conv == 'X' then (16, "0123456789ABCDEF")
    else if conv == 'o' then (8, "01234567")
    else (10, "0123456789")
  let ds := radixDigits digits base magnitude
  let ordinalSuffix :=
    if conv == 'r' then
      let x := magnitude % 10
      let x := if x ≥ 4 || (magnitude / 10) % 10 == 1 then 0 else x
      ["th", "st", "nd", "rd"].getD x "th" |>.toList
    else []
  let precision := s.precision.getD 0
  let precision :=
    if s.zeroPad && precision + (if sign.isSome then 1 else 0) < s.width then
      s.width - (if sign.isSome then 1 else 0)
    else precision
  let body := ds ++ ordinalSuffix
  let body := List.replicate (precision - body.length) '0' ++ body
  let body := if s.thousands then groupThousands body else body
  let body := sign.toList ++ body
  let body :=
    if alternate then
      (if conv == 'o' then ['0'] else if conv == 'x' then ['0', 'x']
        else if conv == 'X' then ['0', 'X'] else []) ++ body
    else body
  padField s (asciiBytes body) s.width

/-- A conversion of a double: `f`, `e`, `E`, `g` or `G`. -/
def formatReal (s : Spec) (conv : Char) (x : Float) : List UInt8 :=
  let precision := s.precision.getD 6
  let generic := conv == 'g' || conv == 'G'
  let expo := conv == 'e' || conv == 'E'
  let precision := if generic && precision == 0 then 1 else precision
  let iRound : Int := if conv == 'f' then -(precision : Int) else if generic then precision
    else precision + 1
  match Decimal.read x with
  | .nan => padField s (asciiBytes (if s.zeroPad then "null" else "NaN").toList) s.width
  | .infinite neg =>
    if s.zeroPad then
      -- shown as a run of nines
      finish (if neg then some '-' else s.signMark) [9] 1000 precision generic expo
    else
      let t := if neg then "-Inf" else match s.signMark with
        | some c => String.singleton c ++ "Inf"
        | none => "Inf"
      padField s (asciiBytes t.toList) s.width
  | .finite b =>
    let sign := if b.negative && !b.isZero then some '-' else s.signMark
    if b.isZero then finish sign [0] 1 precision generic expo
    else
      let dd := decimalDigits (if b.negative then -x else x) iRound (if s.exact then 26 else 16)
      let ds := if dd.digits.isEmpty then [0] else dd.digits
      finish sign ds dd.pointAt precision generic expo
where
  /-- Lays out the digits with the point at `pointAt`. -/
  finish (sign : Option Char) (ds : List Nat) (pointAt : Int) (precision : Nat)
      (generic expo : Bool) : List UInt8 :=
    let e : Int := pointAt - 1
    let precision := if generic && precision > 0 then precision - 1 else precision
    let (useExp, precision, rtz) :=
      if generic then
        if e < -4 || e > precision then (true, precision, !s.alternate)
        else (false, (precision - e).toNat, !s.alternate)
      else (expo, precision, s.exact)
    let e2 : Int := if useExp then 0 else pointAt - 1
    let flagDp := precision > 0 || s.alternate || s.exact
    let digitAt := fun (j : Nat) => Char.ofNat ((ds.getD j 0) + '0'.toNat)
    -- digits before the point
    let (whole, used) : List Char × Nat :=
      if e2 < 0 then (['0'], 0)
      else
        let n := e2.toNat + 1
        let cs := (List.range n).map fun j => if j < ds.length then digitAt j else '0'
        (if s.thousands then groupThousands cs else cs, min n ds.length)
    let leadZeros : Nat := if e2 < -1 then min ((-(e2 + 1)).toNat) precision else 0
    let rest := precision - leadZeros
    let frac := List.replicate leadZeros '0' ++
      (List.range rest).map fun j => if used + j < ds.length then digitAt (used + j) else '0'
    let body := whole ++ (if flagDp then ['.'] else []) ++ frac
    let body :=
      if rtz && flagDp then
        let t := (body.reverse.dropWhile (· == '0')).reverse
        if t.getLast? == some '.' then (if s.exact then t ++ ['0'] else t.dropLast) else t
      else body
    let body :=
      if useExp then
        let en := e.natAbs
        let letter := if conv == 'E' || conv == 'G' then 'E' else 'e'
        body ++ [letter, if e < 0 then '-' else '+'] ++
          (if en ≥ 100 then [Char.ofNat (en / 100 + '0'.toNat)] else []) ++
          [Char.ofNat ((en % 100) / 10 + '0'.toNat), Char.ofNat (en % 10 + '0'.toNat)]
      else body
    let body := sign.toList ++ body
    let body :=
      if s.zeroPad && !s.left && body.length < s.width then
        let pad := List.replicate (s.width - body.length) '0'
        match sign with
        | some c => c :: pad ++ body.drop 1
        | none => pad ++ body
      else body
    padField s (asciiBytes body) s.width

/-- Text quoted for `%q`, `%Q` or `%w`, using at most `precision` characters of it. -/
def formatEscaped (s : Spec) (conv : Char) (arg : Option String) : List UInt8 :=
  let q : UInt8 := if conv == 'w' then 34 else 39
  let text := match arg with
    | some t => t
    | none => if conv == 'Q' then "NULL" else "(NULL)"
  let bytes := utf8Bytes text
  let bytes := match s.precision with
    | some p => bytes.take p
    | none => bytes
  let escaped := bytes.flatMap fun b => if b == q then [b, b] else [b]
  let body := if conv == 'Q' && arg.isSome then q :: escaped ++ [q] else escaped
  padField s body (widthInBytes s body)

/-- Reads a run of digits: their value and the rest. -/
def readDigits : List Char → Nat → Nat × List Char
  | c :: rest, n => if c.isDigit then readDigits rest (n * 10 + (c.toNat - '0'.toNat)) else (n, c :: rest)
  | [], n => (n, [])

/-- Reads the flags, width and precision of a conversion. -/
def readSpec (args : Args) : Nat → Spec → List Char → Spec × Args × List Char
  | 0, s, cs => (s, args, cs)
  | fuel + 1, s, c :: rest =>
    if c == '-' then readSpec args fuel { s with left := true } rest
    else if c == '+' then readSpec args fuel { s with signMark := some '+' } rest
    else if c == ' ' then readSpec args fuel { s with signMark := some ' ' } rest
    else if c == '#' then readSpec args fuel { s with alternate := true } rest
    else if c == '!' then readSpec args fuel { s with exact := true } rest
    else if c == '0' then readSpec args fuel { s with zeroPad := true } rest
    else if c == ',' then readSpec args fuel { s with thousands := true } rest
    else
      -- the width
      let (s, args, rest) :=
        if c == '*' then
          let (w, args) := nextInt args
          if w < 0 then ({ s with left := true, width := (w.natAbs % 2147483648) }, args, rest)
          else ({ s with width := w.toNat % 2147483648 }, args, rest)
        else if c.isDigit then
          let (w, rest) := readDigits (c :: rest) 0
          ({ s with width := w % 2147483648 }, args, rest)
        else (s, args, c :: rest)
      -- the precision
      match rest with
      | '.' :: '*' :: rest =>
        let (p, args) := nextInt args
        ({ s with precision := some (if p < 0 then p.natAbs else p.toNat) }, args, rest)
      | '.' :: rest =>
        let (p, rest) := readDigits rest 0
        ({ s with precision := some (p % 2147483648) }, args, rest)
      | _ => (s, args, rest)
  | _, s, [] => (s, args, [])

/-- Skips length modifiers, which change nothing here. -/
def skipLength : List Char → List Char
  | 'l' :: 'l' :: rest => rest
  | 'l' :: rest => rest
  | cs => cs

/-- Formats the rest of a format with the remaining arguments, appending to the output. -/
def formatLoop : Nat → List Char → Args → List UInt8 → List UInt8
  | 0, _, _, out => out
  | _, [], _, out => out
  | fuel + 1, c :: rest, args, out =>
    if c != '%' then formatLoop fuel rest args (out ++ utf8Bytes (String.singleton c))
    else
      match rest with
      | [] => out ++ [37]
      | _ =>
        let blank : Spec := ⟨false, none, false, false, false, false, 0, none⟩
        let (s, args, rest) := readSpec args (rest.length + 1) blank rest
        match skipLength rest with
        | [] => out
        | conv :: rest =>
          if conv == 'd' || conv == 'i' || conv == 'u' || conv == 'x' || conv == 'X' ||
              conv == 'o' || conv == 'p' || conv == 'r' then
            let (v, args) := nextInt args
            formatLoop fuel rest args (out ++ formatRadix s conv v)
          else if conv == 'f' || conv == 'e' || conv == 'E' || conv == 'g' || conv == 'G' then
            let (x, args) := nextReal args
            formatLoop fuel rest args (out ++ formatReal s conv x)
          else if conv == 's' || conv == 'z' then
            let (t, args) := nextText args
            let bytes := utf8Bytes (t.getD "")
            let bytes := match s.precision with
              | some p =>
                if s.exact then utf8Bytes (String.ofList ((t.getD "").toList.take p))
                else bytes.take p
              | none => bytes
            formatLoop fuel rest args (out ++ padField s bytes (widthInBytes s bytes))
          else if conv == 'q' || conv == 'Q' || conv == 'w' then
            let (t, args) := nextText args
            formatLoop fuel rest args (out ++ formatEscaped s conv t)
          else if conv == 'c' then
            let (t, args) := nextText args
            let one := match t with
              | some text => utf8Bytes (String.ofList (text.toList.take 1))
              | none => [0]
            let times := match s.precision with
              | some p => max p 1
              | none => 1
            let body := (List.replicate times one).flatten
            formatLoop fuel rest args (out ++ padField s body (widthInBytes { s with exact := true } body))
          else if conv == '%' then formatLoop fuel rest args (out ++ padField s [37] s.width)
          else if conv == 'n' then formatLoop fuel rest args out
          else out

/-- `printf(FORMAT, …)`: the arguments written into the format; null when the format is
null or missing. -/
def printfOf : List Value → Value
  | [] => .null
  | .null :: _ => .null
  | fmt :: args =>
    let cs := fmt.asText.toList
    .text (textOfBytes (formatLoop (cs.length + 1) cs args []))

end Payout.Database
