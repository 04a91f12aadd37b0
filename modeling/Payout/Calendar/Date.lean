/-!
# Calendar dates

Proleptic Gregorian dates of the years `-9999` to `9999`, built from a calendar date, an
ordinal date or an ISO week date, and written as `YYYY-MM-DD` (a negative year with its
minus and four digits). Building a date that does not exist names the component that is out
of range and the range it must lie in.
-/

namespace Payout.Calendar

/-- A valid date: `1 ≤ month ≤ 12` and `1 ≤ day ≤` the length of the month. -/
structure Date where
  year : Int
  month : Nat
  day : Nat
deriving DecidableEq, Inhabited

/-- Leap years: divisible by four, except centuries not divisible by 400. -/
def isLeap (y : Int) : Bool := y % 4 == 0 && (y % 100 != 0 || y % 400 == 0)

/-- The number of days in a year. -/
def daysInYear (y : Int) : Nat := if isLeap y then 366 else 365

/-- The number of days in a month of a year. -/
def daysInMonth (y : Int) (m : Nat) : Nat :=
  match m with
  | 2 => if isLeap y then 29 else 28
  | 4 | 6 | 9 | 11 => 30
  | _ => 31

/-- A component outside the range it must lie in: its name, the range, and whether the range
depends on the other components. -/
structure RangeError where
  name : String
  minimum : Int
  maximum : Int
  conditional : Bool
deriving DecidableEq, Inhabited

/-- The text of a range error names the component only: `day was not in range`. -/
def RangeError.message (e : RangeError) : String :=
  e.name ++ " was not in range"

/-- The years a date can have. -/
def yearRange : RangeError := ⟨"year", -9999, 9999, false⟩

/-- Checks that a year lies in the supported range. -/
def checkYear (y : Int) : Except RangeError Unit :=
  if -9999 ≤ y && y ≤ 9999 then .ok () else .error yearRange

/-- The date of a year, month and day. -/
def ofCalendar (y : Int) (m d : Nat) : Except RangeError Date := do
  checkYear y
  if d < 1 || d > 31 then throw ⟨"day", 1, 31, false⟩
  if d > daysInMonth y m then throw ⟨"day", 1, daysInMonth y m, true⟩
  pure ⟨y, m, d⟩

/-- The month and day of an ordinal day of a year (1-based). -/
def monthDayOfOrdinal (y : Int) (ordinal : Nat) : Nat × Nat :=
  let rec go : Nat → Nat → Nat → Nat × Nat
    | m, left, 0 => (m, left)
    | m, left, fuel + 1 =>
      if m ≥ 12 || left ≤ daysInMonth y m then (m, left)
      else go (m + 1) (left - daysInMonth y m) fuel
  go 1 ordinal 12

/-- The ordinal day of a date within its year. -/
def Date.ordinal (d : Date) : Nat :=
  ((List.range (d.month - 1)).map (fun i => daysInMonth d.year (i + 1))).foldl (· + ·) 0 + d.day

/-- The date of an ordinal day of a year. -/
def ofOrdinal (y : Int) (ordinal : Nat) : Except RangeError Date := do
  checkYear y
  if ordinal < 1 || ordinal > daysInYear y then throw ⟨"ordinal", 1, daysInYear y, true⟩
  let (m, d) := monthDayOfOrdinal y ordinal
  pure ⟨y, m, d⟩

/-- Days from the first of January of the year 1 to the first of January of a year. -/
def daysBeforeYear (y : Int) : Int :=
  let y' := y - 1
  365 * y' + Int.fdiv y' 4 - Int.fdiv y' 100 + Int.fdiv y' 400

/-- The weekday of the first of January of a year, with Monday as 0 and Sunday as 6: the
first of January of the year 1 is a Monday. -/
def weekdayOfJanFirst (y : Int) : Nat :=
  (Int.emod (daysBeforeYear y) 7).toNat

/-- The number of ISO weeks in a year: 53 when the year starts on a Thursday, or on a
Wednesday in a leap year. -/
def weeksInYear (y : Int) : Nat :=
  let w := weekdayOfJanFirst y
  if w == 3 || (w == 2 && isLeap y) then 53 else 52

/-- The date of an ISO week date: year, week and weekday (Monday 1 to Sunday 7). Week 1 is
the week that holds the fourth of January. -/
def ofIsoWeek (y : Int) (week weekday : Nat) : Except RangeError Date := do
  checkYear y
  if week < 1 || week > 53 || (week == 53 && weeksInYear y < 53) then
    throw ⟨"week", 1, weeksInYear y, true⟩
  let jan4 := (weekdayOfJanFirst y + 3) % 7
  let ordinal : Int := (week : Int) * 7 + weekday - (jan4 + 1) - 3
  if ordinal < 1 then
    let py := y - 1
    let o := ordinal + daysInYear py
    let (m, d) := monthDayOfOrdinal py o.toNat
    pure ⟨py, m, d⟩
  else if ordinal > daysInYear y then
    let ny := y + 1
    let o := ordinal - daysInYear y
    let (m, d) := monthDayOfOrdinal ny o.toNat
    pure ⟨ny, m, d⟩
  else
    let (m, d) := monthDayOfOrdinal y ordinal.toNat
    pure ⟨y, m, d⟩

/-- Writes a natural number with at least `width` digits. -/
def padded (width n : Nat) : String :=
  let s := toString n
  String.ofList (List.replicate (width - s.length) '0') ++ s

/-- The text `YYYY-MM-DD`; a negative year keeps its minus before four digits. -/
def Date.render (d : Date) : String :=
  (if d.year < 0 then "-" else "") ++ padded 4 d.year.natAbs ++ "-" ++ padded 2 d.month ++ "-" ++
    padded 2 d.day

end Payout.Calendar
