import Payout.Database.Value

/-!
# Dates and times

The date and time functions read a *time value* and then *modifiers*, and write the moment
they arrive at. A moment is kept as milliseconds of the Julian day count, together with a
calendar date and a clock time that are computed from it when needed (and it from them).

A time value is `YYYY-MM-DD`, optionally followed by a time, a time `HH:MM[:SS[.SSS]]`
alone (on 2000-01-01), optionally followed by a time zone `±HH:MM` or `Z`, a number (a
Julian day, or seconds since 1970 with the `unixepoch` modifier), or `now`.

Modifiers shift by `±N` days, hours, minutes, seconds, months or years (months and years
move the calendar fields, and a day past the end of its month runs into the next), by
`±HH:MM[:SS]` or `±YYYY-MM-DD`, move to the `start of` a day, month or year, or to the next
`weekday N`. A value or modifier that cannot be read gives null.

The clock reads a fixed moment, and local time is the same as universal time.
-/

namespace Payout.Database

/-- A moment being computed, with which of its forms are valid. -/
structure Moment where
  jd : Int
  year : Int
  month : Int
  day : Int
  hour : Int
  minute : Int
  second : Float
  /-- The time value was a bare number, kept in `second` until a modifier reads it. -/
  raw : Bool
  validJD : Bool
  validYMD : Bool
  validHMS : Bool
  validTZ : Bool
  /-- The time zone offset in minutes. -/
  tz : Int
  subsec : Bool
  error : Bool
  /-- Days a calendar date ran past the end of its month. -/
  overflow : Int
deriving Inhabited

/-- A moment with nothing set. -/
def Moment.blank : Moment :=
  ⟨0, 0, 0, 0, 0, 0, 0.0, false, false, false, false, false, 0, false, false, 0⟩

/-- The fixed moment the clock reads: 2026-01-01 00:00:00. -/
def clockJD : Int := 212633985600000

/-- Division cutting toward zero, as whole-number division does in the date arithmetic. -/
def tdiv (a b : Int) : Int := Int.tdiv a b

/-- A double cut toward zero to a whole number. -/
def truncReal (x : Float) : Int := realToInteger x

/-- Whether a Julian day in milliseconds lies in the years 0 to 9999. -/
def validJulianDay (jd : Int) : Bool := jd ≥ 0 && jd ≤ 464269060799999

/-- The number of days in a month of a year. -/
def daysInMonth (y m : Int) : Int :=
  if m == 2 then
    if (y % 4 == 0 && y % 100 != 0) || y % 400 == 0 then 29 else 28
  else if m == 4 || m == 6 || m == 9 || m == 11 then 30 else 31

namespace Moment

/-- Computes the Julian day from the calendar date and clock time. -/
def computeJD (p : Moment) : Moment :=
  if p.validJD then p
  else
    let (y, m, d) := if p.validYMD then (p.year, p.month, p.day) else (2000, 1, 1)
    if y < -4713 || y > 9999 || p.raw then { p with error := true }
    else
      let (y, m) := if m ≤ 2 then (y - 1, m + 12) else (y, m)
      let a := tdiv y 100
      let b := 2 - a + tdiv a 4
      let x1 := tdiv (36525 * (y + 4716)) 100
      let x2 := tdiv (306001 * (m + 1)) 10000
      let base := truncReal ((wordToFloat (x1 + x2 + d + b) - 1524.5) * 86400000.0)
      let p := { p with jd := base, validJD := true }
      if p.validHMS then
        let jd := p.jd + p.hour * 3600000 + p.minute * 60000 + truncReal (p.second * 1000.0 + 0.5)
        if p.validTZ then
          { p with jd := jd - p.tz * 60000, validYMD := false, validHMS := false, validTZ := false }
        else { p with jd := jd }
      else p

/-- Computes the calendar date from the Julian day. -/
def computeYMD (p : Moment) : Moment :=
  if p.validYMD then p
  else if !p.validJD then { p with year := 2000, month := 1, day := 1, validYMD := true }
  else if !validJulianDay p.jd then { p with error := true }
  else
    let z := tdiv (p.jd + 43200000) 86400000
    let alpha := truncReal ((wordToFloat z + 32044.75) / 36524.25) - 52
    let a := z + 1 + alpha - tdiv (alpha + 100) 4 + 25
    let b := a + 1524
    let c := truncReal ((wordToFloat b - 122.1) / 365.25)
    let d := tdiv (36525 * (c % 32768)) 100
    let e := truncReal (wordToFloat (b - d) / 30.6001)
    let x1 := truncReal (30.6001 * wordToFloat e)
    let month := if e < 14 then e - 1 else e - 13
    { p with day := b - d - x1, month := month, year := if month > 2 then c - 4716 else c - 4715,
             validYMD := true }

/-- Computes the clock time from the Julian day. -/
def computeHMS (p : Moment) : Moment :=
  if p.validHMS then p
  else
    let p := p.computeJD
    let dayMs := (p.jd + 43200000) % 86400000
    let dayMin := dayMs / 60000
    { p with second := wordToFloat (dayMs % 60000) / 1000.0, minute := dayMin % 60,
             hour := dayMin / 60, raw := false, validHMS := true }

/-- Computes both the calendar date and the clock time. -/
def computeYMDHMS (p : Moment) : Moment := p.computeYMD.computeHMS

/-- Forgets the calendar date, clock time and zone, keeping the Julian day. -/
def clearFields (p : Moment) : Moment :=
  { p with validYMD := false, validHMS := false, validTZ := false }

/-- Records how far the day runs past the end of its month. -/
def computeFloor (p : Moment) : Moment :=
  if !p.validYMD then p
  else if p.day ≤ 28 then { p with overflow := 0 }
  else
    let n := daysInMonth p.year p.month
    { p with overflow := if p.day > n then p.day - n else 0 }

end Moment

/-! ### Reading time values -/

/-- Reads exactly `n` digits: their value and the rest. -/
def takeDigits (n : Nat) (cs : List Char) : Option (Int × List Char) :=
  let ds := cs.take n
  if ds.length == n && ds.all Char.isDigit then
    some (ds.foldl (fun acc c => acc * 10 + (c.toNat - '0'.toNat)) 0, cs.drop n)
  else none

/-- Reads `n` digits whose value lies in a range. -/
def digitsIn (n : Nat) (lo hi : Int) (cs : List Char) : Option (Int × List Char) := do
  let (v, rest) ← takeDigits n cs
  if lo ≤ v && v ≤ hi then some (v, rest) else none

/-- Whether a character is blank in a time value. -/
def isTimeSpace (c : Char) : Bool := c == ' ' || c == '\t' || c == '\n' || c == '\r' ||
  c == '\x0B' || c == '\x0C'

/-- Reads a time zone: blanks, then `±HH:MM` or `Z`, then blanks to the end. -/
def readTimeZone (cs : List Char) : Option Int :=
  let cs := cs.dropWhile isTimeSpace
  match cs with
  | [] => some 0
  | c :: rest =>
    if c == 'Z' || c == 'z' then
      if (rest.dropWhile isTimeSpace).isEmpty then some 0 else none
    else if c == '+' || c == '-' then do
      let (hh, rest) ← digitsIn 2 0 14 rest
      let rest ← match rest with
        | ':' :: r => some r
        | _ => none
      let (mm, rest) ← digitsIn 2 0 59 rest
      if (rest.dropWhile isTimeSpace).isEmpty then
        some ((if c == '-' then -1 else 1) * (mm + hh * 60))
      else none
    else none

/-- Reads a clock time `HH:MM[:SS[.SSS]]` with an optional time zone into a moment. -/
def readClock (cs : List Char) (p : Moment) : Option Moment := do
  let (h, rest) ← digitsIn 2 0 24 cs
  let rest ← match rest with
    | ':' :: r => some r
    | _ => none
  let (m, rest) ← digitsIn 2 0 59 rest
  let (s, rest) ←
    match rest with
    | ':' :: r => do
      let (s, r) ← digitsIn 2 0 59 r
      match r with
      | '.' :: d :: r' =>
        if d.isDigit then
          let ds := (d :: r').takeWhile Char.isDigit
          let after := (d :: r').dropWhile Char.isDigit
          let (ms, scale) := ds.foldl (fun (acc, sc) c =>
            (acc * 10.0 + wordToFloat (c.toNat - '0'.toNat), sc * 10.0)) (0.0, 1.0)
          let frac := ms / scale
          let frac := if frac > 0.999 then 0.999 else frac
          some (wordToFloat s + frac, after)
        else some (wordToFloat s, r)
      | _ => some (wordToFloat s, r)
    | r => some (0.0, r)
  let tz ← readTimeZone rest
  some { p with validJD := false, raw := false, validHMS := true, hour := h, minute := m,
                second := s, tz := tz, validTZ := tz != 0 }

/-- Reads a calendar date `YYYY-MM-DD`, optionally followed by a time. -/
def readCalendar (cs : List Char) (p : Moment) : Option Moment := do
  let (neg, cs) := match cs with
    | '-' :: r => (true, r)
    | r => (false, r)
  let (y, rest) ← digitsIn 4 0 9999 cs
  let rest ← match rest with
    | '-' :: r => some r
    | _ => none
  let (m, rest) ← digitsIn 2 1 12 rest
  let rest ← match rest with
    | '-' :: r => some r
    | _ => none
  let (d, rest) ← digitsIn 2 1 31 rest
  let rest := rest.dropWhile fun c => isTimeSpace c || c == 'T'
  let p ← match readClock rest p with
    | some q => some q
    | none => if rest.isEmpty then some { p with validHMS := false } else none
  let p := { p with validJD := false, validYMD := true, year := if neg then -y else y,
                    month := m, day := d }
  let p := p.computeFloor
  some (if p.validTZ then p.computeJD else p)

/-- A bare number as a time value: kept raw, and as a Julian day when it can be one. -/
def rawMoment (x : Float) : Moment :=
  let p := { Moment.blank with second := x, raw := true }
  if x ≥ 0.0 && x < 5373484.5 then
    { p with jd := truncReal (x * 86400000.0 + 0.5), validJD := true }
  else p

/-- Reads a time value given as text. -/
def readTimeValue (s : String) : Option Moment :=
  let cs := s.toList
  match readCalendar cs Moment.blank with
  | some p => some p
  | none =>
    match readClock cs Moment.blank with
    | some p => some p
    | none =>
      if lowerAscii s == "now" then some { Moment.blank with jd := clockJD, validJD := true }
      else
        let (x, shape) := readReal s
        if shape == .whole || shape == .real then some (rawMoment x)
        else if lowerAscii s == "subsec" || lowerAscii s == "subsecond" then
          some { Moment.blank with jd := clockJD, validJD := true, subsec := true }
        else none

/-! ### Modifiers -/

/-- The units a modifier may shift by: their names, limits and lengths in seconds. -/
def shiftUnits : List (String × Float × Float) :=
  [("second", 4.6427e14, 1.0), ("minute", 7.7379e12, 60.0), ("hour", 1.2897e11, 3600.0),
   ("day", 5373485.0, 86400.0), ("month", 176546.0, 2592000.0), ("year", 14713.0, 31536000.0)]

/-- Moves the month by a number of months, carrying into the year. -/
def Moment.addMonths (p : Moment) (k : Int) : Moment :=
  let m := p.month + k
  let x := if m > 0 then tdiv (m - 1) 12 else tdiv (m - 12) 12
  { p with year := p.year + x, month := m - x * 12, validJD := false }

/-- Shifts by `±N units`. -/
def shiftBy (p : Moment) (r : Float) (unit : String) : Option Moment :=
  let u := lowerAscii unit
  let u := if u.length > 3 && u.endsWith "s" then String.ofList u.toList.dropLast else u
  let p := p.computeJD
  let rounder := if r < 0.0 then -0.5 else 0.5
  match shiftUnits.find? (fun (n, lim, _) => n == u && r > -lim && r < lim) with
  | none => none
  | some (name, _, scale) =>
    let whole := truncReal r
    let (p, r) :=
      if name == "month" then
        ((p.computeYMDHMS.addMonths whole).computeJD, r - wordToFloat whole)
      else if name == "year" then
        let q := p.computeYMDHMS
        ({ q with year := q.year + whole, validJD := false }.computeJD, r - wordToFloat whole)
      else (p, r)
    let p := { p with jd := p.jd + truncReal (r * 1000.0 * scale + rounder), overflow := 0 }
    some p.clearFields

/-- Shifts by a clock time `±HH:MM[:SS[.SSS]]`. -/
def shiftByClock (p : Moment) (neg : Bool) (cs : List Char) : Option Moment := do
  let t ← readClock cs Moment.blank
  let t := t.computeJD
  let ms := t.jd - 43200000
  let ms := ms - tdiv ms 86400000 * 86400000
  let ms := if neg then -ms else ms
  let p := p.computeJD.clearFields
  some { p with jd := p.jd + ms }

/-- Applies one modifier; `first` says whether it is the first modifier. -/
def applyModifier (p : Moment) (first : Bool) (text : String) : Option Moment :=
  let l := lowerAscii text
  let cs := text.toList
  if l == "auto" then
    if !first then none
    else if !p.raw || p.validJD then some { p with raw := false }
    else if p.second ≥ -210866760000.0 && p.second ≤ 253402300799.0 then
      let r := p.second * 1000.0 + 210866760000000.0
      some { p.clearFields with jd := truncReal (r + 0.5), validJD := true, raw := false }
    else none
  else if l == "ceiling" then some { p.computeJD.clearFields with overflow := 0 }
  else if l == "floor" then
    let q := p.computeJD
    some { q with jd := q.jd - q.overflow * 86400000 }.clearFields
  else if l == "julianday" then
    if !first then none
    else if p.validJD && p.raw then some { p with raw := false } else none
  else if l == "localtime" || l == "utc" then some p
  else if l == "unixepoch" then
    if !p.raw then none
    else if !first then none
    else
      let r := p.second * 1000.0 + 210866760000000.0
      if r ≥ 0.0 && r < 464269060800000.0 then
        some { p.clearFields with jd := truncReal (r + 0.5), validJD := true, raw := false }
      else none
  else if l.startsWith "weekday " then
    let (r, shape) := readReal (String.ofList (cs.drop 8))
    if (shape == .whole || shape == .real) && r ≥ 0.0 && r < 7.0 && wordToFloat (truncReal r) == r then
      let n := truncReal r
      let q := { p.computeYMDHMS with tz := 0, validJD := false }.computeJD
      let z := tdiv (q.jd + 129600000) 86400000 % 7
      let z := if z > n then z - 7 else z
      some { q with jd := q.jd + (n - z) * 86400000 }.clearFields
    else none
  else if l.startsWith "start of " then
    if !p.validJD && !p.validYMD && !p.validHMS then none
    else
      let q := p.computeYMD
      let q := { q with validHMS := true, hour := 0, minute := 0, second := 0.0, raw := false,
                        tz := 0, validJD := false }
      let what := l.drop 9
      if what == "month" then some { q with day := 1 }
      else if what == "year" then some { q with month := 1, day := 1 }
      else if what == "day" then some q
      else none
  else if l == "subsec" || l == "subsecond" then some { p with subsec := true }
  else
    match cs with
    | c :: _ =>
      if c == '+' || c == '-' || c.isDigit then shiftModifier p cs else none
    | [] => none
where
  /-- `±N units`, `±HH:MM…` and `±YYYY-MM-DD…`. -/
  shiftModifier (p : Moment) (cs : List Char) : Option Moment :=
    let z0 := cs.headD ' '
    -- the length of the number
    let n := numberLength cs
    let numText := String.ofList (cs.take n)
    let (r, shape) := readReal numText
    if !(shape == .whole || shape == .real) then none
    else
      let after := cs.drop n
      match after with
      | '-' :: _ =>
        if z0 != '+' && z0 != '-' then none
        else do
          let body := cs.drop 1
          let (y, body) ← if n == 5 then digitsIn 4 0 9999 body else digitsIn 5 0 99999 body
          let body ← match body with
            | '-' :: b => some b
            | _ => none
          let (m, body) ← digitsIn 2 0 12 body
          let body ← match body with
            | '-' :: b => some b
            | _ => none
          let (d, body) ← digitsIn 2 0 31 body
          if m ≥ 12 || d ≥ 31 then none
          else
            let q := { p.computeYMDHMS with validJD := false }
            let (q, d) := if z0 == '-' then ({ q with year := q.year - y, month := q.month - m }, -d)
              else ({ q with year := q.year + y, month := q.month + m }, d)
            let q := q.addMonths 0
            let q := q.computeFloor.computeJD
            let q := { q with validHMS := false, validYMD := false, jd := q.jd + d * 86400000 }
            match body with
            | [] => some q
            | sp :: rest =>
              if isTimeSpace sp then shiftByClock q (z0 == '-') rest else none
      | ':' :: _ =>
        shiftByClock p (z0 == '-') (if z0 == '+' || z0 == '-' then cs.drop 1 else cs)
      | _ =>
        let unit := String.ofList (after.dropWhile isTimeSpace)
        if unit.length < 3 || unit.length > 10 then none else shiftBy p r unit
  /-- The length of the leading number of a modifier: up to a colon, a blank, or the dash
  after a year. -/
  numberLength (cs : List Char) : Nat :=
    let rec go : List Char → Nat → Nat
      | [], k => k
      | c :: rest, k =>
        if c == ':' || isTimeSpace c then k
        else if c == '-' && k > 0 &&
            ((k == 5 && ((cs.drop 1).take 4).all Char.isDigit) ||
             (k == 6 && ((cs.drop 1).take 5).all Char.isDigit)) then k
        else go rest (k + 1)
    match cs with
    | [] => 0
    | _ :: rest => go rest 1

/-- Reads the arguments of a date function into a moment: the time value, then each
modifier. With no argument the moment is now. -/
def momentOf (args : List Value) : Option Moment := do
  match args with
  | [] => some { Moment.blank with jd := clockJD, validJD := true }
  | v :: mods =>
    let p ← match v with
      | .integer _ | .real _ => some (rawMoment v.asReal)
      | .null => none
      | other => readTimeValue other.asText
    let rec go : List Value → Bool → Moment → Option Moment
      | [], _, p => some p
      | m :: rest, first, p =>
        match m with
        | .null => none
        | _ => do
          let q ← applyModifier p first m.asText
          go rest false q
    let p ← go mods true p
    let p := p.computeJD
    if p.error || !validJulianDay p.jd then none
    else if mods.isEmpty && p.validYMD && p.day > 28 then some { p with validYMD := false }
    else some p

/-! ### Writing moments -/

/-- A whole number in at least `width` digits, padded with zeros. -/
def padded (width : Nat) (n : Int) : String :=
  let s := toString n.natAbs
  (if n < 0 then "-" else "") ++ String.ofList (List.replicate (width - s.length) '0') ++ s

/-- Seconds with three places, in at least six characters: `SS.SSS`. -/
def secondsText (s : Float) : String :=
  let ms := truncReal (s * 1000.0 + 0.5)
  padded 2 (ms / 1000) ++ "." ++ padded 3 (ms % 1000)

/-- The calendar date `YYYY-MM-DD`. -/
def Moment.dateText (p : Moment) : String :=
  let q := p.computeYMD
  (if q.year < 0 then "-" ++ padded 4 (-q.year) else padded 4 q.year) ++ "-" ++ padded 2 q.month ++
    "-" ++ padded 2 q.day

/-- The clock time `HH:MM:SS`, with milliseconds when asked. -/
def Moment.timeText (p : Moment) : String :=
  let q := p.computeHMS
  padded 2 q.hour ++ ":" ++ padded 2 q.minute ++ ":" ++
    (if q.subsec then secondsText q.second else padded 2 (truncReal q.second))

/-- `date(…)`. -/
def dateOf (args : List Value) : Value :=
  match momentOf args with
  | some p => .text p.dateText
  | none => .null

/-- `time(…)`. -/
def timeOf (args : List Value) : Value :=
  match momentOf args with
  | some p => .text p.timeText
  | none => .null

/-- `datetime(…)`. -/
def datetimeOf (args : List Value) : Value :=
  match momentOf args with
  | some p => .text (p.dateText ++ " " ++ p.timeText)
  | none => .null

/-- `julianday(…)`: the Julian day as a double. -/
def juliandayOf (args : List Value) : Value :=
  match momentOf args with
  | some p => .real (wordToFloat p.jd / 86400000.0)
  | none => .null

/-- `unixepoch(…)`: seconds since 1970, whole unless `subsec` was asked. -/
def unixepochOf (args : List Value) : Value :=
  match momentOf args with
  | some p =>
    if p.subsec then .real (wordToFloat (p.jd - 210866760000000) / 1000.0)
    else .integer (tdiv p.jd 1000 - 210866760000)
  | none => .null

/-- The day of the year, from zero. -/
def Moment.dayOfYear (p : Moment) : Int :=
  let q := p.computeYMD
  let onDay := fun (m d : Int) =>
    (({ Moment.blank with year := q.year, month := m, day := d, validYMD := true } : Moment).computeJD).jd
  tdiv (onDay q.month q.day - onDay 1 1) 86400000

/-- The day of the week, Sunday being zero. -/
def Moment.weekday (p : Moment) : Int := tdiv (p.computeJD.jd + 129600000) 86400000 % 7

/-- The ISO week-numbering year and week of a moment. -/
def Moment.isoWeek (p : Moment) : Int × Int :=
  -- the Thursday of the moment's week decides its year
  let q := p.computeYMDHMS
  let wd := (q.weekday + 6) % 7
  let thursday := { Moment.blank with jd := q.computeJD.jd + (3 - wd) * 86400000, validJD := true }
  let th := thursday.computeYMD
  (th.year, tdiv thursday.dayOfYear 7 + 1)

/-- Writes a moment through a `strftime` format; null at an unknown conversion. -/
def strftimeText (p : Moment) : List Char → Option String
  | [] => some ""
  | '%' :: c :: rest => do
    let q := p.computeYMDHMS
    let piece ← match c with
      | 'd' => some (padded 2 q.day)
      | 'e' => some ((if q.day < 10 then " " else "") ++ toString q.day)
      | 'f' => some (secondsText q.second)
      | 'F' => some q.dateText
      | 'H' => some (padded 2 q.hour)
      | 'k' => some ((if q.hour < 10 then " " else "") ++ toString q.hour)
      | 'I' => some (padded 2 (let h := q.hour % 12; if h == 0 then 12 else h))
      | 'l' => some (let h := q.hour % 12; let h := if h == 0 then 12 else h;
                      (if h < 10 then " " else "") ++ toString h)
      | 'j' => some (padded 3 (q.dayOfYear + 1))
      | 'J' => some (realText (wordToFloat q.jd / 86400000.0))
      | 'm' => some (padded 2 q.month)
      | 'M' => some (padded 2 q.minute)
      | 'p' => some (if q.hour ≥ 12 then "PM" else "AM")
      | 'P' => some (if q.hour ≥ 12 then "pm" else "am")
      | 'R' => some (padded 2 q.hour ++ ":" ++ padded 2 q.minute)
      | 's' =>
        if q.subsec then some (realText (wordToFloat (q.jd - 210866760000000) / 1000.0))
        else some (toString (tdiv q.jd 1000 - 210866760000))
      | 'S' => some (padded 2 (truncReal q.second))
      | 'T' => some (padded 2 q.hour ++ ":" ++ padded 2 q.minute ++ ":" ++ padded 2 (truncReal q.second))
      | 'u' => some (toString (let w := q.weekday; if w == 0 then 7 else w))
      | 'w' => some (toString q.weekday)
      | 'U' => some (padded 2 (tdiv (q.dayOfYear + 7 - q.weekday) 7))
      | 'W' => some (padded 2 (tdiv (q.dayOfYear + 7 - (q.weekday + 6) % 7) 7))
      | 'V' => some (padded 2 q.isoWeek.2)
      | 'G' => some (padded 4 q.isoWeek.1)
      | 'g' => some (padded 2 (q.isoWeek.1 % 100))
      | 'Y' => some (padded 4 q.year)
      | '%' => some "%"
      | _ => none
    let more ← strftimeText p rest
    some (piece ++ more)
  | ['%'] => none
  | c :: rest => (strftimeText p rest).map (String.singleton c ++ ·)

/-- `strftime(FORMAT, …)`. -/
def strftimeOf : List Value → Value
  | [] => .null
  | .null :: _ => .null
  | fmt :: args =>
    match momentOf args with
    | some p =>
      match strftimeText p fmt.asText.toList with
      | some s => .text s
      | none => .null
    | none => .null

/-- `timediff(A, B)`: the time from `B` to `A` as `±YYYY-MM-DD HH:MM:SS.SSS`. -/
def timediffOf (a b : Value) : Value :=
  match momentOf [a], momentOf [b] with
  | some p, some q =>
    let p := p.computeYMDHMS
    let q := q.computeYMDHMS
    let (sign, later, earlier) := if p.jd ≥ q.jd then ("+", p, q) else ("-", q, p)
    -- count whole months from the earlier moment, then the rest in days and time
    let months := (later.year - earlier.year) * 12 + (later.month - earlier.month)
    let shifted := fun (k : Int) =>
      ({ (earlier.addMonths k) with validJD := false, validYMD := true }).computeJD
    let months := if (shifted months).jd > later.jd then months - 1 else months
    let base := shifted months
    let rest := later.jd - base.jd
    let days := rest / 86400000
    let ms := rest % 86400000
    .text (sign ++ padded 4 (months / 12) ++ "-" ++ padded 2 (months % 12) ++ "-" ++
      padded 2 days ++ " " ++ padded 2 (ms / 3600000) ++ ":" ++ padded 2 (ms / 60000 % 60) ++ ":" ++
      padded 2 (ms / 1000 % 60) ++ "." ++ padded 3 (ms % 1000))
  | _, _ => .null

end Payout.Database
