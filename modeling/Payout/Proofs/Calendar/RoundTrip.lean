import Mathlib
import Payout.Calendar.Iso
import Payout.Store.Records
import Payout.Proofs.Except

/-!
# Writing a date and reading it back

A distribution's date is stored as the text `Date.render` writes and rebuilt with the ISO 8601
reader `parseIsoDate`. The two do not agree on every date the reader accepts.

* Every date the reader produces exists, and its year lies between -10000 and 10000: a week
  date at either end of the supported years may fall into the year before or after
  (`parseIsoDate_valid`).
* A date of a year from 0 to 9999 is written `YYYY-MM-DD`, which the reader takes back
  (`parseIsoDate_render`).
* A negative year is written with a minus and four digits, but after a sign the reader wants
  six; the year 10000 is written with five digits, and the reader takes the fifth for a month.
  Neither reads back.

So a date the reader produced reads back from its written form exactly when its year lies
from 0 to 9999 (`parseIsoDate_render_iff`), and a stored distribution is rebuilt from its row
under the same condition (`toDistribution_written_iff`); otherwise rebuilding it fails with a
reconstruction error (`toDistribution_written_of_year`). The text `-000001-01-01` is accepted
as the first of January of the year -1, which is then written `-0001-01-01` and refused.
-/

namespace Payout.Calendar

/-- A date that exists: a month of the year and a day of that month. -/
structure Date.Valid (d : Date) : Prop where
  month_pos : 1 ≤ d.month
  month_le : d.month ≤ 12
  day_pos : 1 ≤ d.day
  day_le : d.day ≤ daysInMonth d.year d.month

/-! ### Digits -/

/-- Reading as many digits as a list of digit characters holds gives the number they write. -/
theorem takeDigits_append {ds : List Char} (hds : ∀ c ∈ ds, c.isDigit = true) (rest : List Char) :
  takeDigits ds.length (ds ++ rest) = some (Nat.ofDigitChars 10 ds 0, rest)
  := by
  induction ds with
  | nil => rfl
  | cons c cs ih =>
    have hc : c.isDigit = true := hds c (List.mem_cons_self ..)
    have hcs := ih fun x hx => hds x (List.mem_cons_of_mem _ hx)
    have hval := @Nat.ofDigitChars_eq_ofDigitChars_zero cs (digitVal c)
    rw [List.length_cons, List.cons_append, takeDigits, if_pos hc, hcs, Nat.ofDigitChars_cons]
    simp only [Option.map_some, Nat.mul_zero, Nat.zero_add]
    rw [← digitVal, hval, Nat.mul_comm, Nat.pow_eq]

/-- Reading more digits than a list starts with fails at the first character that is not one. -/
theorem takeDigits_short {ds : List Char} (hds : ∀ c ∈ ds, c.isDigit = true) {c : Char}
    (hc : c.isDigit = false) {n : Nat} (hn : ds.length < n) (rest : List Char) :
  takeDigits n (ds ++ c :: rest) = none
  := by
  induction ds generalizing n with
  | nil =>
    obtain ⟨k, rfl⟩ := Nat.exists_eq_succ_of_ne_zero (Nat.pos_iff_ne_zero.mp hn)
    simp [takeDigits, hc]
  | cons x xs ih =>
    obtain ⟨k, rfl⟩ := Nat.exists_eq_succ_of_ne_zero (Nat.pos_iff_ne_zero.mp (Nat.zero_lt_of_lt hn))
    have hx : x.isDigit = true := hds x (List.mem_cons_self ..)
    rw [List.cons_append, takeDigits, if_pos hx,
      ih (fun y hy => hds y (List.mem_cons_of_mem _ hy)) (by simp at hn; omega)]
    rfl

theorem toList_padded (w n : Nat) :
  (padded w n).toList = List.replicate (w - (Nat.toDigits 10 n).length) '0' ++ Nat.toDigits 10 n
  := by
  simp [padded, Nat.repr_eq_ofList_toDigits]

theorem isDigit_of_mem_padded {w n : Nat} {c : Char} (hc : c ∈ (padded w n).toList) :
  c.isDigit = true
  := by
  rw [toList_padded, List.mem_append] at hc
  rcases hc with hc | hc
  · rw [List.eq_of_mem_replicate hc]
    rfl
  · exact Nat.isDigit_of_mem_toDigits (by decide) (by decide) hc

/-- A number below `10 ^ w`, padded to `w` digits, reads back from those digits. -/
theorem takeDigits_padded {w n : Nat} (hw : 0 < w) (hn : n < Nat.pow 10 w) (rest : List Char) :
  takeDigits w ((padded w n).toList ++ rest) = some (n, rest)
  := by
  have hlen : (Nat.toDigits 10 n).length ≤ w := (Nat.length_toDigits_le_iff (by decide) hw).mpr hn
  have hlength : (padded w n).toList.length = w := by
    rw [toList_padded, List.length_append, List.length_replicate]
    omega
  have h := @takeDigits_append (padded w n).toList (fun c hc => isDigit_of_mem_padded hc) rest
  rw [hlength] at h
  rw [h, toList_padded, Nat.ofDigitChars_append, Nat.ofDigitChars_replicate_zero, Nat.mul_zero,
    Nat.ofDigitChars_eq_ofDigitChars_zero, Nat.mul_zero, Nat.zero_add, Nat.ofDigitChars_ten_toDigits]

theorem length_padded_le {n : Nat} (hn : n < 100000) :
  (padded 4 n).toList.length ≤ 5
  := by
  have h5 : (10 : Nat) ^ 5 = 100000 := rfl
  have h := (@Nat.length_toDigits_le_iff 10 n 5 (by decide) (by decide)).mpr (by rw [h5]; exact hn)
  rw [toList_padded, List.length_append, List.length_replicate]
  omega

/-! ### Dates the reader produces -/

theorem daysInMonth_le (y : Int) (m : Nat) :
  daysInMonth y m ≤ 31
  := by
  unfold daysInMonth
  split <;> (try split) <;> omega

theorem daysInYear_bounds (y : Int) :
  365 ≤ daysInYear y ∧ daysInYear y ≤ 366
  := by
  unfold daysInYear
  split <;> omega

/-- The days of a year from the first of a month to the end of the year. -/
def daysFrom (y : Int) (m : Nat) : Nat :=
  ((List.range (13 - m)).map fun i => daysInMonth y (m + i)).sum

theorem daysFrom_of_lt {y : Int} {m : Nat} (hm : m < 12) :
  daysFrom y m = daysInMonth y m + daysFrom y (m + 1)
  := by
  have h : 13 - m = (13 - (m + 1)) + 1 := by omega
  have hf : ((fun i => daysInMonth y (m + i)) ∘ Nat.succ) = fun i => daysInMonth y (m + 1 + i) := by
    funext i
    simp only [Function.comp, Nat.succ_eq_add_one]
    congr 1
    omega
  rw [daysFrom, h, List.range_succ_eq_map, List.map_cons, List.sum_cons, List.map_map, hf,
    Nat.add_zero, daysFrom]

theorem daysFrom_twelve (y : Int) :
  daysFrom y 12 = daysInMonth y 12
  := rfl

theorem daysFrom_one (y : Int) :
  daysFrom y 1 = daysInYear y
  := by
  unfold daysFrom daysInYear daysInMonth
  cases isLeap y <;> rfl

/-- Walking through the months while the days left pass the month's length ends in a month
of the year and a day of that month, as long as the days left fit in the rest of the year. -/
theorem monthDayOfOrdinal_go_valid (y : Int) (fuel : Nat) :
  ∀ m left, 1 ≤ m → m ≤ 12 → 1 ≤ left → left ≤ daysFrom y m → 12 ≤ m + fuel →
    1 ≤ (monthDayOfOrdinal.go y m left fuel).1 ∧ (monthDayOfOrdinal.go y m left fuel).1 ≤ 12 ∧
      1 ≤ (monthDayOfOrdinal.go y m left fuel).2 ∧
      (monthDayOfOrdinal.go y m left fuel).2 ≤ daysInMonth y (monthDayOfOrdinal.go y m left fuel).1
  := by
  induction fuel with
  | zero =>
    intro m left h1 h12 hl hr hf
    obtain rfl : m = 12 := by omega
    rw [daysFrom_twelve] at hr
    exact ⟨h1, h12, hl, hr⟩
  | succ fuel ih =>
    intro m left h1 h12 hl hr hf
    rw [monthDayOfOrdinal.go]
    split
    · rename_i hstop
      dsimp only
      refine ⟨h1, h12, hl, ?_⟩
      rcases Nat.lt_or_ge m 12 with hm | hm
      · simp only [Bool.or_eq_true, decide_eq_true_eq] at hstop
        omega
      · obtain rfl : m = 12 := by omega
        rwa [daysFrom_twelve] at hr
    · rename_i hgo
      simp only [Bool.or_eq_true, decide_eq_true_eq, not_or, Nat.not_le] at hgo
      rw [daysFrom_of_lt (by omega)] at hr
      exact ih (m + 1) (left - daysInMonth y m) (by omega) (by omega) (by omega) (by omega) (by omega)

theorem monthDayOfOrdinal_valid {y : Int} {o : Nat} (h1 : 1 ≤ o) (h2 : o ≤ daysInYear y) :
  Date.Valid ⟨y, (monthDayOfOrdinal y o).1, (monthDayOfOrdinal y o).2⟩
  := by
  obtain ⟨hm1, hm2, hd1, hd2⟩ := monthDayOfOrdinal_go_valid y 12 1 o (Nat.le_refl 1) (by decide) h1
    (by rwa [daysFrom_one]) (by decide)
  exact ⟨hm1, hm2, hd1, hd2⟩

theorem checkYear_eq_ok {y : Int} (h : checkYear y = .ok ()) :
  -9999 ≤ y ∧ y ≤ 9999
  := by
  unfold checkYear at h
  split at h
  · rename_i hy
    simpa using hy
  · cases h

theorem ofCalendar_eq_ok {y : Int} {m dd : Nat} {d : Date} (hm : 1 ≤ m ∧ m ≤ 12)
    (h : ofCalendar y m dd = .ok d) :
  d.Valid ∧ d.year = y ∧ -9999 ≤ y ∧ y ≤ 9999
  := by
  unfold ofCalendar at h
  rcases hy : checkYear y with e | ⟨⟩
  · rw [hy] at h; cases h
  rw [hy] at h
  dsimp only [bind, Except.bind] at h
  split at h
  · cases h
  rename_i h31
  split at h
  · cases h
  rename_i hdim
  cases h
  simp only [Bool.or_eq_true, decide_eq_true_eq, not_or, Nat.not_lt] at h31
  exact ⟨⟨hm.1, hm.2, h31.1, Nat.le_of_not_lt hdim⟩, rfl, checkYear_eq_ok hy⟩

theorem ofOrdinal_eq_ok {y : Int} {o : Nat} {d : Date} (h : ofOrdinal y o = .ok d) :
  d.Valid ∧ d.year = y ∧ -9999 ≤ y ∧ y ≤ 9999
  := by
  unfold ofOrdinal at h
  rcases hy : checkYear y with e | ⟨⟩
  · rw [hy] at h; cases h
  rw [hy] at h
  dsimp only [bind, Except.bind] at h
  split at h
  · cases h
  · rename_i ho
    simp only [Bool.or_eq_true, decide_eq_true_eq, not_or, Nat.not_lt] at ho
    cases h
    exact ⟨monthDayOfOrdinal_valid ho.1 ho.2, rfl, checkYear_eq_ok hy⟩

/-- A date built from a week date is valid and lies within a year of the week-numbering year, which
has at most four digits. The ordinal day within the week-numbering year lies between -2 and 374, so
each of the three years it may fall into holds it. -/
theorem ofIsoWeek_eq_ok {y : Int} {w wd : Nat} {d : Date} (hwd : wd ≤ 7)
    (h : ofIsoWeek y w wd = .ok d) :
  d.Valid ∧ y - 1 ≤ d.year ∧ d.year ≤ y + 1 ∧ -9999 ≤ y ∧ y ≤ 9999
  := by
  unfold ofIsoWeek at h
  rcases hy : checkYear y with e | ⟨⟩
  · rw [hy] at h; cases h
  rw [hy] at h
  have hyr := checkYear_eq_ok hy
  dsimp only [bind, Except.bind] at h
  split at h
  · cases h
  rename_i hw
  simp only [Bool.or_eq_true, decide_eq_true_eq, not_or, Nat.not_lt] at hw
  have hjan : (weekdayOfJanFirst y + 3) % 7 < 7 := Nat.mod_lt _ (by decide)
  have hprev := daysInYear_bounds (y - 1)
  have hcur := daysInYear_bounds y
  have hnext := daysInYear_bounds (y + 1)
  split at h
  · cases h
    dsimp only
    exact ⟨monthDayOfOrdinal_valid (by omega) (by omega), by omega, by omega, hyr⟩
  · split at h
    · cases h
      dsimp only
      exact ⟨monthDayOfOrdinal_valid (by omega) (by omega), by omega, by omega, hyr⟩
    · cases h
      dsimp only
      exact ⟨monthDayOfOrdinal_valid (by omega) (by omega), by omega, by omega, hyr⟩

/-- What the date part of a text can name: a month of the year, any ordinal day, a weekday from
Monday to Sunday. -/
def DateFields.Named : DateFields → Prop
  | .none => False
  | .calendar _ m _ => 1 ≤ m ∧ m ≤ 12
  | .ordinal _ _ => True
  | .week _ _ wd => 1 ≤ wd ∧ wd ≤ 7

theorem weekPart_named {layout : Layout} {year : Int} {yearOk : Bool} {rest r : List Char}
    {calErr : IsoError} {f : DateFields}
    (h : readDatePart.weekPart layout year yearOk rest calErr = .ok (r, f)) :
  f.Named
  := by
  unfold readDatePart.weekPart at h
  rcases hW : expect 'W' rest with _ | r1 <;> simp only [hW] at h
  · cases h
  rcases hw : readNonZero2 r1 with _ | ⟨w, r2⟩ <;> simp only [hw] at h
  · cases h
  generalize hsep : (if (layout == Layout.extended) = true then expect '-' r2 else some r2) = sep at h
  rcases sep with _ | r3
  · cases h
  rcases r3 with _ | ⟨c, r4⟩
  · cases h
  dsimp only at h
  by_cases hc : (c.isDigit && decide ('1' ≤ c) && decide (c ≤ '7')) = true
  · rw [if_pos hc] at h
    split at h
    · cases h
    · split at h
      · cases h
      · cases h
        simp only [Bool.and_eq_true, decide_eq_true_eq] at hc
        obtain ⟨⟨-, h1⟩, h7⟩ := hc
        have h1' : 49 ≤ c.toNat := h1
        have h7' : c.toNat ≤ 55 := h7
        have h0 : '0'.toNat = 48 := rfl
        simp only [DateFields.Named, digitVal, h0]
        omega
  · rw [if_neg hc] at h
    cases h

/-- The fields a date read names a month and a day the month has: the month was checked before the
day was read. -/
theorem readDatePart_named {l r : List Char} {lay : Layout} {f : DateFields}
    (h : readDatePart l = (lay, .ok (r, f))) :
  f.Named
  := by
  unfold readDatePart at h
  split at h
  · cases h
  · dsimp only at h
    split at h
    · rename_i m' d' r' hcal
      split at h
      · cases h
      · split at h
        · cases h
        · cases h
          split at hcal
          · split at hcal
            · cases hcal
            · rename_i hm
              simp only [Bool.or_eq_true, decide_eq_true_eq, not_or] at hm
              split at hcal
              · cases hcal
              · split at hcal
                · cases hcal
                  simp only [DateFields.Named]
                  omega
                · cases hcal
          · cases hcal
    · split at h
      · split at h
        · exact weekPart_named (Prod.mk.inj h).2
        · split at h
          · cases h
          · split at h
            · cases h
            · cases h
              trivial
      · exact weekPart_named (Prod.mk.inj h).2

theorem ok_of_mapError_eq_ok {ε ε' α : Type} {f : ε → ε'} {x : Except ε α} {a : α}
    (h : x.mapError f = .ok a) :
  x = .ok a
  := by
  cases x with
  | error e => cases h
  | ok a' => cases h; rfl

theorem eq_ok_of_ite_error {ε α : Type} {c : Bool} {e : ε} {x : Except ε α} {a : α}
    (h : (if c = true then .error e else x) = .ok a) :
  x = .ok a
  := by
  cases c
  · exact h
  · cases h

/-- A text whose date part cannot be read is no date, whatever time or offset follows. -/
theorem parseIsoDate_ne_ok {s : String} {lay : Layout} {e : IsoError}
    (h : readDatePart s.toList = (lay, .error e)) (d : Date) :
  parseIsoDate s ≠ .ok d
  := by
  intro hd
  unfold parseIsoDate at hd
  dsimp only at hd
  rw [h] at hd
  cases eq_ok_of_ite_error (eq_ok_of_ite_error hd)

/-- Every date read from a text exists, and its year lies between -10000 and 10000. -/
theorem parseIsoDate_valid {s : String} {d : Date} (h : parseIsoDate s = .ok d) :
  d.Valid ∧ -10000 ≤ d.year ∧ d.year ≤ 10000
  := by
  rcases hdp : readDatePart s.toList with ⟨layout, e | ⟨r, f⟩⟩
  · exact absurd h (parseIsoDate_ne_ok hdp d)
  have hf := readDatePart_named hdp
  unfold parseIsoDate at h
  dsimp only at h
  rw [hdp] at h
  replace h := eq_ok_of_ite_error (eq_ok_of_ite_error h)
  cases f with
  | none => exact hf.elim
  | calendar y m dd =>
    obtain ⟨hv, rfl, hlo, hhi⟩ := ofCalendar_eq_ok hf (ok_of_mapError_eq_ok h)
    exact ⟨hv, by omega, by omega⟩
  | ordinal y o =>
    obtain ⟨hv, rfl, hlo, hhi⟩ := ofOrdinal_eq_ok (ok_of_mapError_eq_ok h)
    exact ⟨hv, by omega, by omega⟩
  | week y w wd =>
    obtain ⟨hv, hlo, hhi, hylo, hyhi⟩ := ofIsoWeek_eq_ok hf.2 (ok_of_mapError_eq_ok h)
    exact ⟨hv, by omega, by omega⟩

/-! ### Years 0 to 9999 read back -/

theorem readYear_of_digit {c : Char} (hc : c.isDigit = true) (cs : List Char) :
  readYear (c :: cs) = (takeDigits 4 (c :: cs)).map fun (v, r) => ((v : Int), r)
  := by
  unfold readYear
  split
  · rename_i h; cases h; simp at hc
  · rename_i h; cases h; simp at hc
  · rfl

theorem readYear_padded {y : Nat} (hy : y < 10000) (rest : List Char) :
  readYear ((padded 4 y).toList ++ rest) = some ((y : Int), rest)
  := by
  have hne : (padded 4 y).toList ≠ [] := by
    rw [toList_padded]
    simp
  obtain ⟨c, cs, hcs⟩ := List.exists_cons_of_ne_nil hne
  have hc : c.isDigit = true := isDigit_of_mem_padded (by rw [hcs]; exact List.mem_cons_self ..)
  rw [hcs, List.cons_append, readYear_of_digit hc, ← List.cons_append, ← hcs,
    takeDigits_padded (by decide) hy]
  rfl

theorem readNonZero2_padded {n : Nat} (h0 : 0 < n) (hn : n < 100) (rest : List Char) :
  readNonZero2 ((padded 2 n).toList ++ rest) = some (n, rest)
  := by
  unfold readNonZero2
  rw [takeDigits_padded (by decide) hn]
  split
  · rename_i h; cases h; omega
  · rfl

theorem readDatePart_calendar {y m d : Nat} (hy : y < 10000) (hm1 : 1 ≤ m) (hm2 : m ≤ 12)
    (hd1 : 1 ≤ d) (hd2 : d ≤ 31) :
  readDatePart ((padded 4 y).toList ++ '-' :: ((padded 2 m).toList ++ '-' :: (padded 2 d).toList))
    = (.extended, .ok ([], .calendar y m d))
  := by
  unfold readDatePart
  rw [readYear_padded hy]
  simp only
  rw [takeDigits_padded (by decide) (by simp; omega)]
  have hmonth : (decide (m < 1) || decide (m > 12)) = false := by simp; omega
  have hyear : (decide (-9999 ≤ (y : Int)) && decide ((y : Int) ≤ 9999)) = true := by simp; omega
  have hday := readNonZero2_padded (by omega : 0 < d) (by omega) []
  rw [List.append_nil] at hday
  simp only [hmonth, Bool.false_eq_true, if_false, beq_self_eq_true, if_true, expect, hday, hyear,
    Bool.not_true]
  rw [if_neg (by omega)]

theorem toList_render_of_natCast (y : Nat) (m d : Nat) :
  (Date.render ⟨y, m, d⟩).toList
    = (padded 4 y).toList ++ '-' :: ((padded 2 m).toList ++ '-' :: (padded 2 d).toList)
  := by
  simp [Date.render, String.toList_append]

theorem readTimePart_nil (layout : Layout) :
  readTimePart [] layout true = (layout, .error .literal)
  := rfl

theorem ofCalendar_of_valid {d : Date} (hv : d.Valid) (hlo : -9999 ≤ d.year) (hhi : d.year ≤ 9999) :
  ofCalendar d.year d.month d.day = .ok d
  := by
  have h31 := daysInMonth_le d.year d.month
  have hv1 := hv.day_pos
  have hv2 := hv.day_le
  simp only [ofCalendar, checkYear, hlo, hhi, decide_true, Bool.and_self, if_true]
  rw [if_neg (by simp; omega), if_neg (by omega)]
  rfl

/-- A date of a year from 0 to 9999 reads back from its written form. -/
theorem parseIsoDate_render {d : Date} (hv : d.Valid) (h0 : 0 ≤ d.year) (h1 : d.year ≤ 9999) :
  parseIsoDate d.render = .ok d
  := by
  obtain ⟨y, m, dd⟩ := d
  dsimp only at h0 h1
  obtain ⟨n, rfl⟩ := Int.eq_ofNat_of_zero_le h0
  have hd : dd ≤ daysInMonth n m := hv.day_le
  have h31 := daysInMonth_le n m
  have hm1 : 1 ≤ m := hv.month_pos
  have hm2 : m ≤ 12 := hv.month_le
  have hd1 : 1 ≤ dd := hv.day_pos
  unfold parseIsoDate
  rw [toList_render_of_natCast]
  dsimp only
  rw [readDatePart_calendar (by omega) hm1 hm2 hd1 (by omega)]
  dsimp only [readTimePart_nil]
  simp only [Bool.not_true, Bool.or_false, Bool.false_eq_true, if_false, Bool.false_and,
    List.isEmpty_nil]
  rw [ofCalendar_of_valid hv (show -9999 ≤ (n : Int) by omega) h1]
  rfl

/-! ### Other years do not -/

theorem readYear_minus (cs : List Char) :
  readYear ('-' :: cs) = (takeDigits 6 cs).map fun (v, r) => (-(v : Int), r)
  := rfl

/-- The year of a date written with a minus does not read back: after a sign the reader wants
six digits, and the text has four (five for the year -10000). -/
theorem readDatePart_render_of_neg {d : Date} (hneg : d.year < 0) (hlo : -100000 < d.year) :
  readDatePart d.render.toList = (.unknown, .error (.component "year"))
  := by
  have hrender : d.render.toList = '-' :: ((padded 4 d.year.natAbs).toList ++
      '-' :: ((padded 2 d.month).toList ++ '-' :: (padded 2 d.day).toList)) := by
    simp [Date.render, hneg, String.toList_append]
  have hshort := takeDigits_short (fun c hc => isDigit_of_mem_padded hc)
    (by decide : ('-').isDigit = false)
    (Nat.lt_of_le_of_lt (@length_padded_le d.year.natAbs (by omega)) (by decide : 5 < 6))
    ((padded 2 d.month).toList ++ '-' :: (padded 2 d.day).toList)
  rw [readDatePart, hrender, readYear_minus, hshort]
  rfl

theorem toList_padded_tenThousand :
  (padded 4 10000).toList = ['1', '0', '0', '0', '0']
  := by decide

/-- The year 10000 is written with five digits, and the reader takes the fifth for a month. -/
theorem readDatePart_render_tenThousand (m dd : Nat) :
  readDatePart (Date.render ⟨10000, m, dd⟩).toList = (.basic, .error (.component "month"))
  := by
  have hrender : (Date.render ⟨10000, m, dd⟩).toList = '1' :: '0' :: '0' :: '0' :: '0' :: '-' ::
      ((padded 2 m).toList ++ '-' :: (padded 2 dd).toList) := by
    simp [Date.render, String.toList_append, toList_padded_tenThousand]
  rw [hrender]
  rfl

/-! ### When a date reads back -/

/-- The written form of a date the reader produced, with a year outside 0 to 9999, is read as
no date at all: the year is either negative or 10000. -/
theorem parseIsoDate_render_ne_ok {s : String} {d : Date} (h : parseIsoDate s = .ok d)
    (hyear : ¬(0 ≤ d.year ∧ d.year ≤ 9999)) (d' : Date) :
  parseIsoDate d.render ≠ .ok d'
  := by
  obtain ⟨-, hlo, hhi⟩ := parseIsoDate_valid h
  by_cases hneg : d.year < 0
  · exact parseIsoDate_ne_ok (readDatePart_render_of_neg hneg (by omega)) d'
  · obtain ⟨y, m, dd⟩ := d
    dsimp only at hyear hhi hneg
    obtain rfl : y = 10000 := by omega
    exact parseIsoDate_ne_ok (readDatePart_render_tenThousand m dd) d'

/-- A date the reader produced reads back from its written form exactly when its year lies
from 0 to 9999. -/
theorem parseIsoDate_render_iff {s : String} {d : Date} (h : parseIsoDate s = .ok d) :
  parseIsoDate d.render = .ok d ↔ 0 ≤ d.year ∧ d.year ≤ 9999
  := by
  obtain ⟨hv, -, -⟩ := parseIsoDate_valid h
  constructor
  · intro hback
    exact Decidable.byContradiction fun hyear => parseIsoDate_render_ne_ok h hyear d hback
  · rintro ⟨h0, h1⟩
    exact parseIsoDate_render hv h0 h1

/-- The text of the year -1 in six digits is read, but the date it names is written with four
and is not read back. -/
theorem parseIsoDate_render_yearMinusOne :
  parseIsoDate "-000001-01-01" = .ok ⟨-1, 1, 1⟩ ∧ ∀ d, parseIsoDate (Date.render ⟨-1, 1, 1⟩) ≠ .ok d
  := ⟨eq_ok_of_toOption (by decide), parseIsoDate_ne_ok (readDatePart_render_of_neg (by decide) (by decide))⟩

/-- The first of January of the year 1, read from the extended form with a sign, reads back. -/
theorem parseIsoDate_render_iff_yearOne :
  parseIsoDate "+000001-01-01" = .ok ⟨1, 1, 1⟩
    ∧ (parseIsoDate (Date.render ⟨1, 1, 1⟩) = .ok ⟨1, 1, 1⟩ ↔ 0 ≤ (1 : Int) ∧ (1 : Int) ≤ 9999)
  := by
  have h : parseIsoDate "+000001-01-01" = .ok ⟨1, 1, 1⟩ := eq_ok_of_toOption (by decide)
  exact ⟨h, parseIsoDate_render_iff h⟩

end Payout.Calendar

namespace Payout.Store

open Calendar

theorem parse_name (st : State) :
  State.parse st.name = .ok st
  := by
  cases st <;> rfl

/-- A distribution stored with a date the reader produced is rebuilt from its row, with that
date, exactly when the date's year lies from 0 to 9999. -/
theorem toDistribution_written_iff {s : String} {date : Date} (hdate : parseIsoDate s = .ok date)
    (id : Int) (period : String) (total : Int) (st : State) :
  DistributionRow.toDistribution ⟨id, period, date.render, total, st.name⟩
      = .ok ⟨some id, period, date, total, st⟩
    ↔ 0 ≤ date.year ∧ date.year ≤ 9999
  := by
  rw [← parseIsoDate_render_iff hdate]
  constructor
  · intro h
    unfold DistributionRow.toDistribution at h
    dsimp only at h
    split at h
    · rename_i d hd
      rw [hd]
      rw [parse_name] at h
      cases h
      rfl
    · cases h
  · intro h
    unfold DistributionRow.toDistribution
    dsimp only
    rw [h, parse_name]
    rfl

/-- A distribution stored with a date of another year is not rebuilt: the date's text is
refused, and the failure is a reconstruction error that shows it. -/
theorem toDistribution_written_of_year {s : String} {date : Date}
    (hdate : parseIsoDate s = .ok date) (hyear : ¬(0 ≤ date.year ∧ date.year ≤ 9999))
    (id : Int) (period : String) (total : Int) (st : State) :
  ∃ m, DistributionRow.toDistribution ⟨id, period, date.render, total, st.name⟩
    = .error (.reconstruction ("Failed to parse distribution_date '" ++ date.render ++ "': " ++ m))
  := by
  unfold DistributionRow.toDistribution
  dsimp only
  cases hparse : parseIsoDate date.render with
  | ok d => exact absurd hparse (parseIsoDate_render_ne_ok hdate hyear d)
  | error e => exact ⟨e.message, rfl⟩

end Payout.Store
