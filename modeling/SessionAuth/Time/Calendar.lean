/-!
# The calendar

Dates of the proleptic Gregorian calendar, with a year 0 and years before it. Days
are counted from 1970-01-01, which is day 0.

## Main definitions

* `Date` — a year, a month from 1 and a day from 1
* `Date.Valid` — the month exists and has that day
* `Date.toDays` — the number of a date's day
* `Date.ofDays` — the date of a day

## Main results

* `Date.toDays_ofDays` — a day is the day of its date
* `Date.valid_ofDays` — the date of a day exists
-/

namespace SessionAuth

/-- A date by its parts. -/
@[ext] structure Date where
  year : Int
  month : Nat
  day : Nat
  deriving DecidableEq, Repr

namespace Date

/-- Every fourth year is a leap year, except centuries that 400 does not divide. -/
def isLeapYear (year : Int) : Bool :=
  year % 4 = 0 && (year % 100 ≠ 0 || year % 400 = 0)

/-- The number of days in a month of a year that is a leap year or not. -/
def monthLength (leap : Bool) : Nat → Nat
  | 1 | 3 | 5 | 7 | 8 | 10 | 12 => 31
  | 4 | 6 | 9 | 11 => 30
  | 2 => if leap then 29 else 28
  | _ => 0

/-- The date exists. -/
def Valid (date : Date) : Prop :=
  1 ≤ date.month ∧ date.month ≤ 12 ∧ 1 ≤ date.day ∧
    date.day ≤ monthLength (isLeapYear date.year) date.month

instance (date : Date) : Decidable date.Valid := by unfold Valid; infer_instance

/-- The number of days from 0001-01-01 to the first day of a year. -/
def daysBeforeYear (year : Int) : Int :=
  let past := year - 1
  past * 365 + past / 4 - past / 100 + past / 400

/-- The number of days of a year that lie before a month. -/
def daysBeforeMonth (leap : Bool) : Nat → Nat
  | 0 => 0
  | month + 1 => daysBeforeMonth leap month + monthLength leap month

/-- The place of a date in its year, from 0. -/
def dayOfYear (date : Date) : Nat :=
  daysBeforeMonth (isLeapYear date.year) date.month + (date.day - 1)

/-- The number of days from 0001-01-01 to day 0. -/
def epochDay : Int := 719162

/-- The number of a date's day. -/
def toDays (date : Date) : Int :=
  daysBeforeYear date.year + date.dayOfYear - epochDay

/-- The year in which a day after 0001-01-01 lies, and its place in that year. Whole
cycles of 400, 100 and 4 years are split off in turn; the last century of a cycle and
the last year of four are longer by a day. -/
def yearAndPlace (day : Int) : Int × Nat :=
  let cycle := day / 146097
  let inCycle := day % 146097
  let century := min 3 (inCycle / 36524)
  let inCentury := inCycle - 36524 * century
  let four := inCentury / 1461
  let inFour := inCentury % 1461
  let single := min 3 (inFour / 365)
  (400 * cycle + 100 * century + 4 * four + single + 1, (inFour - 365 * single).toNat)

/-- The month in which a place of a year lies: of the months from `month` down the last
that does not start behind it. -/
def monthOfPlace (leap : Bool) (place : Nat) : (month : Nat) → Nat
  | 0 => 1
  | month + 1 =>
    if daysBeforeMonth leap (month + 1) ≤ place then month + 1
    else monthOfPlace leap place month

/-- The date of a place of a year. -/
def ofPlace (year : Int) (place : Nat) : Date :=
  let leap := isLeapYear year
  let month := monthOfPlace leap place 12
  ⟨year, month, place - daysBeforeMonth leap month + 1⟩

/-- The date of a day. -/
def ofDays (days : Int) : Date :=
  let (year, place) := yearAndPlace (days + epochDay)
  ofPlace year place

/-! ## A day is the day of its date -/

/-- The parts into which a day is split: whole cycles, centuries, fours and single years,
and a place in the last of them. -/
theorem exists_parts (day : Int) : ∃ cycle century four single place : Int,
    (yearAndPlace day).1 = 400 * cycle + 100 * century + 4 * four + single + 1 ∧
    ((yearAndPlace day).2 : Int) = place ∧
    day = 146097 * cycle + 36524 * century + 1461 * four + 365 * single + place ∧
    0 ≤ century ∧ century ≤ 3 ∧ 0 ≤ four ∧ four ≤ 24 ∧ 0 ≤ single ∧ single ≤ 3 ∧
    0 ≤ place ∧ place ≤ 365 ∧ (place = 365 → single = 3 ∧ (four = 24 → century = 3)) := by
  refine ⟨_, _, _, _, _, rfl, rfl, ?_⟩
  generalize hr : day % 146097 = r
  generalize hc : min 3 (r / 36524) = century
  generalize hf : (r - 36524 * century) % 1461 = inFour
  generalize hs : min 3 (inFour / 365) = single
  simp only [yearAndPlace, hr, hc, hf, hs]
  omega

theorem isLeapYear_iff (year : Int) :
    isLeapYear year = true ↔ year % 4 = 0 ∧ (year % 100 ≠ 0 ∨ year % 400 = 0) := by
  simp [isLeapYear]

theorem daysBeforeYear_yearAndPlace (day : Int) :
    daysBeforeYear (yearAndPlace day).1 + (yearAndPlace day).2 = day := by
  obtain ⟨q, c, f, s, p, hy, hp, hd, _⟩ := exists_parts day
  have h4 : (400 * q + 100 * c + 4 * f + s + 1 - 1) / 4 = 100 * q + 25 * c + f := by omega
  have h100 : (400 * q + 100 * c + 4 * f + s + 1 - 1) / 100 = 4 * q + c := by omega
  have h400 : (400 * q + 100 * c + 4 * f + s + 1 - 1) / 400 = q := by omega
  simp only [daysBeforeYear, hy, hp, h4, h100, h400]
  omega

theorem place_lt (day : Int) :
    (yearAndPlace day).2 < 365 + if isLeapYear (yearAndPlace day).1 then 1 else 0 := by
  obtain ⟨q, c, f, s, p, hy, hp, hd, _, _, _, _, _, _, _, _, hlong⟩ := exists_parts day
  split
  · omega
  · next hl =>
    rw [isLeapYear_iff, hy] at hl
    have : p ≠ 365 := by
      intro h
      have h3 := hlong h
      exact hl (by omega)
    omega

theorem daysBeforeMonth_monthOfPlace (leap : Bool) (place month : Nat) :
    daysBeforeMonth leap (monthOfPlace leap place month) ≤ place := by
  induction month with
  | zero => cases leap <;> exact Nat.zero_le place
  | succ month ih =>
    rw [monthOfPlace]
    split
    · assumption
    · exact ih

theorem dayOfYear_ofPlace (year : Int) (place : Nat) : (ofPlace year place).dayOfYear = place := by
  have := daysBeforeMonth_monthOfPlace (isLeapYear year) place 12
  simp only [dayOfYear, ofPlace]
  omega

@[simp] theorem toDays_ofDays (days : Int) : (ofDays days).toDays = days := by
  have h := daysBeforeYear_yearAndPlace (days + epochDay)
  have hp := dayOfYear_ofPlace (yearAndPlace (days + epochDay)).1
    (yearAndPlace (days + epochDay)).2
  have hy : (ofDays days).year = (yearAndPlace (days + epochDay)).1 := rfl
  have hd : (ofDays days).dayOfYear = (yearAndPlace (days + epochDay)).2 := hp
  rw [toDays, hy, hd]
  omega

/-- Every place of a year lies in one of the twelve months, on one of its days. -/
theorem monthOfPlace_valid : ∀ leap : Bool, ∀ place < 365 + if leap then 1 else 0,
    let month := monthOfPlace leap place 12
    1 ≤ month ∧ month ≤ 12 ∧ place - daysBeforeMonth leap month + 1 ≤ monthLength leap month := by
  decide +kernel

theorem valid_ofPlace {year : Int} {place : Nat}
    (h : place < 365 + if isLeapYear year then 1 else 0) : (ofPlace year place).Valid := by
  obtain ⟨h1, h12, hd⟩ := monthOfPlace_valid (isLeapYear year) place h
  exact ⟨h1, h12, Nat.le_add_left 1 _, hd⟩

theorem valid_ofDays (days : Int) : (ofDays days).Valid :=
  valid_ofPlace (place_lt (days + epochDay))

end Date

end SessionAuth
