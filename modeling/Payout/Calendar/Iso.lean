import Payout.Calendar.Date
import Payout.Decimal.Whole

/-!
# Reading ISO 8601 dates

Reads a date in the ISO 8601 forms, basic or extended, that a date-and-time reader with the
default configuration accepts, and keeps only the date:

* a calendar date `2026-03-31` or `20260331`, an ordinal date `2026-090` or `2026090`, or a
  week date `2026-W13-2` or `2026W132`; the year has four digits, or a sign and six;
* optionally followed by a time `T10:30`, `T10:30:15.5` (a fraction may end any of the
  three parts; a colon must be followed by its part) and then an offset `Z`, `+05`,
  `-05:30`. After an extended date the minutes must be given, and seconds only after a
  colon; after a basic date `T10` and `T103015` are times too. A second may be `60`, a leap
  second;
* or a time and offset alone, which name no date.

A failure names the first component that could not be read, a bad literal character,
leftover text, a set of components that names no date, or a component out of range.
-/

namespace Payout.Calendar

/-- Why a text is not a date. -/
inductive IsoError where
  | component (name : String)
  | literal
  | trailing
  | insufficient
  | range (e : RangeError)
deriving DecidableEq, Inhabited

/-- The text of a reading failure. -/
def IsoError.message : IsoError → String
  | .component name => "the '" ++ name ++ "' component could not be parsed"
  | .literal => "a character literal was not valid"
  | .trailing => "unexpected trailing characters; the end of input was expected"
  | .insufficient => "the `Parsed` struct did not include enough information to construct the type"
  | .range e => e.message

/-- Whether separators are used: unknown until the first part shows it. -/
inductive Layout where
  | unknown
  | basic
  | extended
deriving DecidableEq, Inhabited

/-- Settles the layout as extended, failing if it was already basic. -/
def Layout.toExtended : Layout → Option Layout
  | .basic => none
  | _ => some .extended

/-- Settles the layout as basic, failing if it was already extended. -/
def Layout.toBasic : Layout → Option Layout
  | .extended => none
  | _ => some .basic

/-- The date components read so far. -/
inductive DateFields where
  | none
  | calendar (year : Int) (month day : Nat)
  | ordinal (year : Int) (day : Nat)
  | week (year : Int) (week weekday : Nat)
deriving DecidableEq, Inhabited

/-- The value of a decimal digit character. -/
def digitVal (c : Char) : Nat := c.toNat - '0'.toNat

/-- Reads exactly `n` decimal digits. -/
def takeDigits : Nat → List Char → Option (Nat × List Char)
  | 0, cs => some (0, cs)
  | n + 1, c :: cs =>
    if c.isDigit then
      (takeDigits n cs).map fun (v, rest) => (digitVal c * Nat.pow 10 n + v, rest)
    else none
  | _ + 1, [] => none

/-- A year: four digits, or a sign and six. -/
def readYear : List Char → Option (Int × List Char)
  | '+' :: cs => (takeDigits 6 cs).map fun (v, r) => ((v : Int), r)
  | '-' :: cs => (takeDigits 6 cs).map fun (v, r) => (-(v : Int), r)
  | cs => (takeDigits 4 cs).map fun (v, r) => ((v : Int), r)

/-- Reads one expected character. -/
def expect (c : Char) : List Char → Option (List Char)
  | d :: cs => if c == d then some cs else none
  | [] => none

/-- A two-digit number that is not zero. -/
def readNonZero2 (cs : List Char) : Option (Nat × List Char) :=
  match takeDigits 2 cs with
  | some (0, _) => none
  | r => r

/-- The date part. The layout is settled by the character after the year even when the rest
fails. -/
def readDatePart (input : List Char) : Layout × Except IsoError (List Char × DateFields) :=
  match readYear input with
  | none => (.unknown, .error (.component "year"))
  | some (year, rest) =>
    let (layout, rest) := match rest with
      | '-' :: r => (Layout.extended, r)
      | r => (Layout.basic, r)
    let yearOk := -9999 ≤ year && year ≤ 9999
    -- calendar: month and day
    let calendar : Except IsoError (Nat × Nat × List Char) :=
      match takeDigits 2 rest with
      | some (m, r) =>
        if m < 1 || m > 12 then .error (.component "month")
        else
          let r' := if layout == .extended then expect '-' r else some r
          match r' with
          | none => .error .literal
          | some r'' =>
            match readNonZero2 r'' with
            | some (d, r3) => .ok (m, d, r3)
            | none => .error (.component "day")
      | none => .error (.component "month")
    match calendar with
    | .ok (m, d, r) =>
      if !yearOk then (layout, .error (.component "year"))
      else if d > 31 then (layout, .error (.component "day"))
      else (layout, .ok (r, .calendar year m d))
    | .error calErr =>
      match takeDigits 3 rest with
      | some (o, r) =>
        if o == 0 then
          (layout, weekPart layout year yearOk rest calErr)
        else if !yearOk then (layout, .error (.component "year"))
        else if o > 366 then (layout, .error (.component "ordinal"))
        else (layout, .ok (r, .ordinal year o))
      | none => (layout, weekPart layout year yearOk rest calErr)
where
  /-- The week-date form, tried last; its own errors win once a `W` was seen. -/
  weekPart (layout : Layout) (year : Int) (yearOk : Bool) (rest : List Char) (calErr : IsoError) :
      Except IsoError (List Char × DateFields) :=
    match expect 'W' rest with
    | none => .error calErr
    | some r =>
      match readNonZero2 r with
      | none => .error (.component "week")
      | some (w, r) =>
        let r' := if layout == .extended then expect '-' r else some r
        match r' with
        | none => .error .literal
        | some r =>
          match r with
          | c :: r2 =>
            if c.isDigit && '1' ≤ c && c ≤ '7' then
              if !yearOk then .error (.component "year")
              else if w > 53 then .error (.component "week")
              else .ok (r2, .week year w (digitVal c))
            else .error (.component "weekday")
          | [] => .error (.component "weekday")

/-- Two digits with an optional fraction after `.` or `,`: the whole part, and the fraction
as a double accumulated digit by digit. -/
def readTwoWithFraction (cs : List Char) : Option (Nat × Option Float × List Char) :=
  match takeDigits 2 cs with
  | none => none
  | some (v, rest) =>
    match rest with
    | s :: d :: r =>
      if (s == '.' || s == ',') && d.isDigit then
        let (more, r') := (r.takeWhile Char.isDigit, r.dropWhile Char.isDigit)
        let step := fun (acc : Float × Float) (c : Char) =>
          let divisor := acc.2 * 10.0
          (acc.1 + (digitVal c).toFloat / divisor, divisor)
        let (frac, _) := more.foldl step ((digitVal d).toFloat / 10.0, 10.0)
        some (v, some frac, r')
      else some (v, none, rest)
    | _ => some (v, none, rest)

/-- Whether a double, cut toward zero to a small natural, is at most `max`. -/
def cutAtMost (x : Float) (max : Nat) : Bool :=
  x.toUInt64.toNat ≤ max

/-- The time part; returns the layout as it stands afterwards and the text after the time. -/
def readTimePart (input : List Char) (layout : Layout) (datePresent : Bool) :
    Layout × Except IsoError (List Char) :=
  let afterT := if datePresent then expect 'T' input else some input
  match afterT with
  | none => (layout, .error .literal)
  | some input =>
    match readTwoWithFraction input with
    | none => (layout, .error (.component "hour"))
    | some (hour, frac, rest) =>
      if hour > 23 then (layout, .error (.component "hour"))
      else
        match frac with
        | some f =>
          if !cutAtMost (f * 60.0) 59 then (layout, .error (.component "minute"))
          else (layout, .ok rest)
        | none =>
          let colon := match rest with
            | ':' :: r => some r
            | _ => none
          let step : Except IsoError (Layout × List Char) :=
            match colon with
            | some r =>
              match layout.toExtended with
              | some l => .ok (l, r)
              | none => .error (.component "minute")
            | none => .ok (layout, rest)
          match step with
          | .error e => (layout, .error e)
          | .ok (layout, rest) =>
            match readTwoWithFraction rest with
            | none =>
              if layout == .extended then (layout, .error (.component "minute"))
              else (layout, .ok rest)
            | some (minute, mfrac, rest) =>
              let layout := (layout.toBasic).getD layout
              if minute > 59 then (layout, .error (.component "minute"))
              else
                match mfrac with
                | some f =>
                  if !cutAtMost (f * 60.0) 60 then (layout, .error (.component "second"))
                  else (layout, .ok rest)
                | none =>
                  let colon2 := match rest with
                    | ':' :: r => some r
                    | _ => none
                  let step2 : Except IsoError (Option (Layout × List Char)) :=
                    match colon2 with
                    | some r =>
                      match layout.toExtended with
                      | some l => .ok (some (l, r))
                      | none => .error (.component "second")
                    | none => .ok (if layout == .extended then none else some (layout, rest))
                  match step2 with
                  | .error e => (layout, .error e)
                  | .ok none => (layout, .ok rest)
                  | .ok (some (layout, rest)) =>
                    match readTwoWithFraction rest with
                    | none =>
                      if colon2.isSome then (layout, .error (.component "second"))
                      else (layout, .ok rest)
                    | some (second, sfrac, rest) =>
                      if second > 60 then (layout, .error (.component "second"))
                      else
                        match sfrac with
                        | some f =>
                          if !cutAtMost (Decimal.roundToWhole (f * 1000000000.0)) 999999999 then
                            (layout, .error (.component "subsecond"))
                          else (layout, .ok rest)
                        | none => (layout, .ok rest)

/-- The offset part: `Z`, or a sign, two hour digits and optional minutes. -/
def readOffsetPart (input : List Char) (layout : Layout) : Except IsoError (List Char) :=
  match input with
  | 'Z' :: rest => .ok rest
  | s :: rest =>
    if s == '+' || s == '-' then
      match takeDigits 2 rest with
      | none => .error (.component "offset hour")
      | some (h, rest) =>
        if h > 23 then .error (.component "offset hour")
        else
          let rest := match layout, rest with
            | .basic, r => r
            | _, ':' :: r => r
            | _, r => r
          match takeDigits 2 rest with
          | some (m, rest) =>
            if m > 59 then .error (.component "offset minute") else .ok rest
          | none => .ok rest
    else .error (.component "offset hour")
  | [] => .error (.component "offset hour")

/-- Reads a date from ISO 8601 text. -/
def parseIsoDate (s : String) : Except IsoError Date :=
  let input := s.toList
  let (layout, dateRes) := readDatePart input
  let (rest, fields, datePresent, firstErr) :=
    match dateRes with
    | .ok (r, f) => (r, f, true, (none : Option IsoError))
    | .error e => (input, DateFields.none, false, some e)
  let (layout, timeRes) := readTimePart rest layout datePresent
  let (rest, timePresent, firstErr) :=
    match timeRes with
    | .ok r => (r, true, firstErr)
    | .error e => (rest, false, firstErr.getD e |> some)
  let (rest, offsetPresent, firstErr) :=
    if !datePresent || timePresent then
      match readOffsetPart rest layout with
      | .ok r => (r, true, firstErr)
      | .error e => (rest, false, firstErr.getD e |> some)
    else (rest, false, firstErr)
  if !datePresent && !timePresent && !offsetPresent then
    .error (firstErr.getD .insufficient)
  else if !rest.isEmpty then .error .trailing
  else
    match fields with
    | .none => .error .insufficient
    | .calendar y m d => (ofCalendar y m d).mapError .range
    | .ordinal y o => (ofOrdinal y o).mapError .range
    | .week y w wd => (ofIsoWeek y w wd).mapError .range

end Payout.Calendar
