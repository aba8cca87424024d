import Mathlib.Logic.Function.Iterate
import Mathlib.Data.Int.Basic
import Mathlib.Tactic.IntervalCases
import SessionAuth.Time.Calendar

/-!
# The calendar, day by day

The number of a date's day is computed from sums over years and months. Here the calendar is told
the way it is kept: every date but the last of a month is followed by the next of that month, the
last by the first of the month behind it, and the last of a year by the first of the year behind
it. The distance of two dates is the number of such steps between them. It comes out as the
difference of their days, and a date that comes before another has the smaller one.

## Main definitions

* `Date.lengthOfMonth`, `Date.OnCalendar` — the months and the dates that there are
* `Date.next` — the day after
* `Date.DaysFrom` — how many days lie between two dates
* `Date.Before` — one date comes before another

## Main results

* `Date.valid_iff` — the dates that are read are those of the calendar
* `Date.toDays_next` — the day after has the next number
* `Date.toDays_lt_iff` — the numbers of days are ordered as the dates
* `Date.daysFrom_iff` — the distance is the difference of the numbers
-/

namespace SessionAuth.Date

variable {date a b : Date} {month : ℕ}

/-! ## The calendar -/

/-- Thirty days have April, June, September and November. February has twenty-eight, and one more in
every fourth year but for the centuries that 400 does not divide. All the rest have thirty-one. -/
def lengthOfMonth (year : ℤ) (month : ℕ) : ℕ :=
  if month = 2 then if 4 ∣ year ∧ (100 ∣ year → 400 ∣ year) then 29 else 28
  else if month = 4 ∨ month = 6 ∨ month = 9 ∨ month = 11 then 30
  else 31

/-- A date of the calendar: a day of one of the twelve months. -/
structure OnCalendar (date : Date) : Prop where
  month_pos : 1 ≤ date.month
  month_le : date.month ≤ 12
  day_pos : 1 ≤ date.day
  day_le : date.day ≤ lengthOfMonth date.year date.month

/-- The day after. -/
def next (date : Date) : Date :=
  if date.day < lengthOfMonth date.year date.month then { date with day := date.day + 1 }
  else if date.month < 12 then ⟨date.year, date.month + 1, 1⟩
  else ⟨date.year + 1, 1, 1⟩

/-- The number of days from `a` to `b`: so often the day after has to be taken to come from the
earlier of them to the later. It is negative where `b` is the earlier one. -/
def DaysFrom (a b : Date) (n : ℤ) : Prop :=
  (∃ k : ℕ, n = k ∧ next^[k] a = b) ∨ ∃ k : ℕ, n = -k ∧ next^[k] b = a

/-- The date from which days are counted. -/
def epoch : Date := ⟨1970, 1, 1⟩

theorem onCalendar_epoch : epoch.OnCalendar := ⟨by decide, by decide, by decide, by decide⟩

theorem toDays_epoch : epoch.toDays = 0 := rfl

/-- A date comes before another by its year, in one year by its month, and in one month by its
day. -/
inductive Before (a b : Date) : Prop
  | year (h : a.year < b.year)
  | month (same : a.year = b.year) (h : a.month < b.month)
  | day (same : a.year = b.year) (sameMonth : a.month = b.month) (h : a.day < b.day)

theorem before_trichotomy (a b : Date) : a.Before b ∨ a = b ∨ b.Before a := by
  rcases lt_trichotomy a.year b.year with h | hyear | h
  · exact .inl (.year h)
  · rcases lt_trichotomy a.month b.month with h | hmonth | h
    · exact .inl (.month hyear h)
    · rcases lt_trichotomy a.day b.day with h | hday | h
      · exact .inl (.day hyear hmonth h)
      · exact .inr (.inl (Date.ext hyear hmonth hday))
      · exact .inr (.inr (.day hyear.symm hmonth.symm h))
    · exact .inr (.inr (.month hyear.symm h))
  · exact .inr (.inr (.year h))

/-! ## The dates that are read -/

theorem monthLength_eq (year : ℤ) (first : 1 ≤ month) (last : month ≤ 12) :
    monthLength (isLeapYear year) month = lengthOfMonth year month := by
  have hleap : isLeapYear year = true ↔ 4 ∣ year ∧ (100 ∣ year → 400 ∣ year) := by
    rw [isLeapYear_iff]
    omega
  unfold lengthOfMonth
  simp only [← hleap]
  interval_cases month <;> rfl

theorem valid_iff : date.Valid ↔ date.OnCalendar := by
  constructor
  · rintro ⟨first, last, hday, hlast⟩
    exact ⟨first, last, hday, monthLength_eq date.year first last ▸ hlast⟩
  · rintro ⟨first, last, hday, hlast⟩
    exact ⟨first, last, hday, monthLength_eq date.year first last ▸ hlast⟩

/-! ## Years and months -/

theorem daysBeforeYear_add_one (year : ℤ) :
    daysBeforeYear (year + 1) = daysBeforeYear year + 365 + (isLeapYear year).toNat := by
  have hleap := isLeapYear_iff year
  simp only [daysBeforeYear]
  cases h : isLeapYear year with
  | false =>
    rw [h] at hleap
    simp only [Bool.false_eq_true, false_iff] at hleap
    simp only [Bool.toNat_false]
    omega
  | true =>
    have hrule := hleap.mp h
    simp only [Bool.toNat_true]
    omega

/-- Later years start later. -/
theorem daysBeforeYear_le {year later : ℤ} (h : year ≤ later) :
    daysBeforeYear year ≤ daysBeforeYear later := by
  induction later, h using Int.leInduction with
  | base => exact le_rfl
  | succ later _ ih =>
    rw [daysBeforeYear_add_one]
    omega

theorem daysBeforeMonth_add_one (leap : Bool) (month : ℕ) :
    daysBeforeMonth leap (month + 1) = daysBeforeMonth leap month + monthLength leap month := rfl

/-- Later months start later. -/
theorem daysBeforeMonth_le (leap : Bool) {month later : ℕ} (h : month ≤ later) :
    daysBeforeMonth leap month ≤ daysBeforeMonth leap later := by
  induction h with
  | refl => exact le_rfl
  | step _ ih =>
    rw [Nat.succ_eq_add_one, daysBeforeMonth_add_one]
    omega

/-- The months up to some month lie within their year. -/
theorem daysBeforeMonth_add_monthLength : ∀ leap : Bool, ∀ month ≤ 12,
    daysBeforeMonth leap month + monthLength leap month ≤ 365 + leap.toNat := by
  decide

/-- A date lies on one of the days of its year. -/
theorem dayOfYear_lt (valid : date.Valid) :
    date.dayOfYear < 365 + (isLeapYear date.year).toNat := by
  obtain ⟨-, hmonth, hday, hlast⟩ := valid
  have hyear := daysBeforeMonth_add_monthLength (isLeapYear date.year) date.month hmonth
  unfold dayOfYear
  omega

/-! ## The day after -/

/-- Every month has a first day. -/
theorem one_le_lengthOfMonth (year : ℤ) (month : ℕ) : 1 ≤ lengthOfMonth year month := by
  unfold lengthOfMonth
  split_ifs <;> decide

theorem OnCalendar.next (on : date.OnCalendar) : date.next.OnCalendar := by
  unfold Date.next
  split_ifs with hday hmonth
  · exact ⟨on.month_pos, on.month_le, Nat.le_add_left 1 _, hday⟩
  · exact ⟨Nat.le_add_left 1 _, hmonth, le_rfl, one_le_lengthOfMonth _ _⟩
  · exact ⟨le_rfl, (by decide : 1 ≤ 12), le_rfl, one_le_lengthOfMonth _ _⟩

/-- The day after has the next number. -/
theorem toDays_next (on : date.OnCalendar) : date.next.toDays = date.toDays + 1 := by
  have hlength := monthLength_eq date.year on.month_pos on.month_le
  obtain ⟨first, last, hday, hlast⟩ := on
  unfold next
  split
  · simp only [toDays, dayOfYear]
    omega
  split
  · simp only [toDays, dayOfYear, daysBeforeMonth_add_one]
    omega
  · next hend hlater =>
    -- Behind the last month all days of the year are past.
    have hmonth : date.month = 12 := by omega
    have hyear := daysBeforeYear_add_one date.year
    have hfirst (leap : Bool) : daysBeforeMonth leap 1 = 0 := rfl
    have hmonths (leap : Bool) :
        daysBeforeMonth leap 12 + monthLength leap 12 = 365 + leap.toNat := by
      cases leap <;> rfl
    have hyearLength := hmonths (isLeapYear date.year)
    rw [hmonth] at hlength hend hlast
    simp only [toDays, dayOfYear, hyear, hfirst, hmonth]
    omega

theorem iterate_next (on : date.OnCalendar) (k : ℕ) :
    (Date.next^[k] date).OnCalendar ∧ (Date.next^[k] date).toDays = date.toDays + k := by
  induction k with
  | zero => exact ⟨on, (Int.add_zero _).symm⟩
  | succ k ih =>
    obtain ⟨hon, hdays⟩ := ih
    rw [Function.iterate_succ_apply']
    refine ⟨hon.next, ?_⟩
    rw [toDays_next hon, hdays]
    push_cast
    omega

/-! ## Order and distance -/

theorem toDays_lt (onA : a.OnCalendar) (onB : b.OnCalendar) (before : a.Before b) :
    a.toDays < b.toDays := by
  have hlast := (valid_iff.mpr onA).2.2.2
  have hpos := onA.day_pos
  have hpos' := onB.day_pos
  cases before with
  | year h =>
    -- The whole year of the first date lies before the year of the second.
    have hplace := dayOfYear_lt (valid_iff.mpr onA)
    have hyears := daysBeforeYear_le (Int.add_one_le_of_lt h)
    rw [daysBeforeYear_add_one] at hyears
    simp only [toDays]
    omega
  | month same h =>
    -- So does its whole month.
    have hmonths := daysBeforeMonth_le (isLeapYear a.year) (Nat.succ_le_of_lt h)
    rw [Nat.succ_eq_add_one, daysBeforeMonth_add_one] at hmonths
    simp only [toDays, dayOfYear, ← same]
    omega
  | day same sameMonth h =>
    simp only [toDays, dayOfYear, ← same, ← sameMonth]
    omega

/-- The numbers of days are ordered as the dates. -/
theorem toDays_lt_iff (onA : a.OnCalendar) (onB : b.OnCalendar) :
    a.toDays < b.toDays ↔ a.Before b := by
  constructor
  · intro h
    rcases before_trichotomy a b with before | rfl | behind
    · exact before
    · exact absurd h (lt_irrefl _)
    · exact absurd h (toDays_lt onB onA behind).not_gt
  · exact toDays_lt onA onB

theorem toDays_inj (onA : a.OnCalendar) (onB : b.OnCalendar) (same : a.toDays = b.toDays) :
    a = b := by
  rcases before_trichotomy a b with before | rfl | behind
  · exact absurd same (toDays_lt onA onB before).ne
  · rfl
  · exact absurd same (toDays_lt onB onA behind).ne'

/-- The distance of two dates is the difference of their numbers. -/
theorem daysFrom_iff (onA : a.OnCalendar) (onB : b.OnCalendar) {n : ℤ} :
    DaysFrom a b n ↔ n = b.toDays - a.toDays := by
  constructor
  · rintro (⟨k, rfl, rfl⟩ | ⟨k, rfl, rfl⟩)
    · rw [(iterate_next onA k).2]
      omega
    · rw [(iterate_next onB k).2]
      omega
  · intro h
    rcases Int.eq_nat_or_neg n with ⟨k, rfl | rfl⟩
    · obtain ⟨hon, hdays⟩ := iterate_next onA k
      exact .inl ⟨k, rfl, toDays_inj hon onB (by omega)⟩
    · obtain ⟨hon, hdays⟩ := iterate_next onB k
      exact .inr ⟨k, rfl, toDays_inj hon onA (by omega)⟩

end SessionAuth.Date
