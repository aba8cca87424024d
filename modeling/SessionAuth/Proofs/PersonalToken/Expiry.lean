import SessionAuth.Proofs.PersonalToken.Creation
import SessionAuth.Proofs.Time.RoundTrip

/-!
# When an expiry date starts

An expiry is written `YYYY-MM-DD`. A text of this shape is read exactly if its digits name a date of
the calendar, and the expiry then lies as many days behind the start of 1970, or before it, as the
date does. So later dates start later. Texts of other shapes that are read name a day as well.

## Main definitions

* `Numeral`, `WrittenDate` — what can be written in the shape `YYYY-MM-DD`

## Main results

* `WrittenDate.parse?_text` — the digits of such a text are taken as they stand
* `WrittenDate.exists_expiryOf`, `WrittenDate.expiryOf_lt_iff` — when and in which order dates start
* `PersonalTokens.expiry_follows_calendar` — expiries follow the calendar
-/

namespace SessionAuth

/-! ## Texts of the shape -/

/-- A number of some width, by its digits. -/
structure Numeral (width : ℕ) where
  digits : List Char
  length_eq : digits.length = width
  isDigit : ∀ c ∈ digits, c.isDigit = true

namespace Numeral

variable {width : ℕ}

/-- The number that digits stand for. -/
def value (numeral : Numeral width) : ℕ := Nat.ofDigitChars 10 numeral.digits 0

theorem digits_ne_nil (numeral : Numeral (width + 1)) : numeral.digits ≠ [] := by
  intro hnil
  have hlength := numeral.length_eq
  rw [hnil] at hlength
  cases hlength

theorem value_lt (numeral : Numeral width) : numeral.value < 10 ^ width := by
  have hvalue := Decimal.ofDigitChars_lt numeral.isDigit 0
  rwa [numeral.length_eq, Nat.zero_add, Nat.one_mul] at hvalue

theorem number?_digits (numeral : Numeral (width + 1)) (rest : List Char) :
    Calendar.number? (width + 1) (numeral.digits ++ rest) = some (numeral.value, rest) := by
  have hread := Calendar.number?_append numeral.digits_ne_nil numeral.isDigit rest
  rwa [numeral.length_eq] at hread

end Numeral

/-- A date written `YYYY-MM-DD`, whether it exists or not. -/
structure WrittenDate where
  year : Numeral 4
  month : Numeral 2
  day : Numeral 2

namespace WrittenDate

variable (written : WrittenDate)

/-- The text that is written. -/
def text : String :=
  String.ofList (written.year.digits ++ '-' :: (written.month.digits ++ '-' :: written.day.digits))

/-- The date that its numbers name. -/
def date : Date := ⟨written.year.value, written.month.value, written.day.value⟩

/-- The digits are taken as they stand. -/
theorem parse?_text : Date.parse? written.text.toList =
    Calendar.date? written.date.year written.date.month written.date.day := by
  have hyear (rest : List Char) : Calendar.year? (written.year.digits ++ rest) =
      some ((written.year.value : ℤ), rest) := by
    rw [Calendar.year?_append written.year.digits_ne_nil written.year.isDigit,
      written.year.number?_digits]
    rfl
  have hday : Calendar.number? 2 written.day.digits = some (written.day.value, []) := by
    have hread := written.day.number?_digits []
    rwa [List.append_nil] at hread
  have hyphen (rest : List Char) : Calendar.expect? '-' ('-' :: rest) = some rest := rfl
  simp only [Date.parse?, text, String.toList_ofList, Option.bind_eq_bind, hyear, Option.bind_some,
    hyphen, written.month.number?_digits, hday, if_true]
  rfl

/-! ## The start of a date -/

variable {written} {other : WrittenDate} {midnight later : Instant}

theorem parse?_text_of_onCalendar (on : written.date.OnCalendar) :
    Date.parse? written.text.toList = some written.date := by
  have hyear := written.year.value_lt
  have hdate : written.date.year = written.year.value := rfl
  rw [parse?_text]
  exact if_pos ⟨Date.valid_iff.mpr on, by omega, by omega⟩

theorem parse?_text_of_not_onCalendar (off : ¬written.date.OnCalendar) :
    Date.parse? written.text.toList = none := by
  rw [parse?_text]
  exact if_neg fun limits => off (Date.valid_iff.mp limits.1)

/-- A date that is not on the calendar is refused. -/
theorem expiryOf_of_not_onCalendar (off : ¬written.date.OnCalendar) :
    PersonalTokens.expiryOf written.text = .error (.notADate written.text) := by
  rw [PersonalTokens.expiryOf, parse?_text_of_not_onCalendar off, Option.bind_none]

/-- What is read is on the calendar, and the expiry is its start. -/
theorem starts_of_expiryOf (h : PersonalTokens.expiryOf written.text = .ok midnight) :
    written.date.OnCalendar ∧ midnight.seconds = 86400 * written.date.toDays ∧
      midnight.nanos = 0 := by
  obtain ⟨date, read, starts⟩ := PersonalTokens.expiryOf_eq_ok_iff.mp h
  by_cases on : written.date.OnCalendar
  · obtain rfl := Option.some.inj ((parse?_text_of_onCalendar on).symm.trans read)
    exact ⟨on, Instant.ofDate?_eq_some_iff.mp starts⟩
  · cases (parse?_text_of_not_onCalendar on).symm.trans read

/-- A date of the calendar is read, and its expiry starts so many days behind the start of 1970 as
the date lies behind its first day. -/
theorem exists_expiryOf (on : written.date.OnCalendar) :
    ∃ midnight days, PersonalTokens.expiryOf written.text = .ok midnight ∧
      midnight.seconds = 86400 * days ∧ midnight.nanos = 0 ∧
      ∀ n, Date.DaysFrom Date.epoch written.date n ↔ n = days := by
  have read := parse?_text_of_onCalendar on
  obtain ⟨midnight, starts⟩ := Calendar.exists_ofDate? read
  obtain ⟨hseconds, hnanos⟩ := Instant.ofDate?_eq_some_iff.mp starts
  refine ⟨midnight, written.date.toDays, PersonalTokens.expiryOf_of_read read starts, hseconds,
    hnanos, ?_⟩
  intro n
  rw [Date.daysFrom_iff Date.onCalendar_epoch on, Date.toDays_epoch, Int.sub_zero]

/-- Expiries are ordered as their dates. -/
theorem expiryOf_lt_iff (h : PersonalTokens.expiryOf written.text = .ok midnight)
    (h' : PersonalTokens.expiryOf other.text = .ok later) :
    midnight < later ↔ written.date.Before other.date := by
  obtain ⟨on, hseconds, hnanos⟩ := starts_of_expiryOf h
  obtain ⟨on', hseconds', hnanos'⟩ := starts_of_expiryOf h'
  rw [← Date.toDays_lt_iff on on', ← Instant.not_le, Instant.le_iff]
  omega

end WrittenDate

namespace PersonalTokens

/-- Expiries follow the calendar. A text `dddd-dd-dd` in digits is read exactly if they name a date
of the calendar, and its expiry is so many days behind the start of 1970, or before it, as the date
is from the first day of 1970; any other text of the shape is refused as no date. The later the
date, the later it starts. And whatever text is read, the expiry is a whole number of days. -/
theorem expiry_follows_calendar :
    (∀ written : WrittenDate,
      (written.date.OnCalendar → ∃ midnight days, expiryOf written.text = .ok midnight ∧
        midnight.seconds = 86400 * days ∧ midnight.nanos = 0 ∧
        ∀ n, Date.DaysFrom Date.epoch written.date n ↔ n = days) ∧
      (¬written.date.OnCalendar → expiryOf written.text = .error (.notADate written.text) ∧
        (AuthError.notADate written.text).kind = .validationError)) ∧
    (∀ (written other : WrittenDate) (midnight later : Instant),
      expiryOf written.text = .ok midnight → expiryOf other.text = .ok later →
      (midnight < later ↔ written.date.Before other.date)) ∧
    ∀ (text : String) (midnight : Instant), expiryOf text = .ok midnight →
      86400 ∣ midnight.seconds ∧ midnight.nanos = 0 := by
  refine ⟨?_, ?_, ?_⟩
  · intro written
    refine ⟨WrittenDate.exists_expiryOf, ?_⟩
    intro off
    exact ⟨WrittenDate.expiryOf_of_not_onCalendar off, rfl⟩
  · intro written other midnight later
    exact WrittenDate.expiryOf_lt_iff
  · intro text midnight h
    obtain ⟨date, -, starts⟩ := expiryOf_eq_ok_iff.mp h
    obtain ⟨hseconds, hnanos⟩ := Instant.ofDate?_eq_some_iff.mp starts
    exact ⟨⟨date.toDays, hseconds⟩, hnanos⟩

end PersonalTokens

namespace LeapDays

/-- A numeral that is written out. -/
def numeral (digits : List Char) (isDigit : digits.all Char.isDigit = true) :
    Numeral digits.length :=
  ⟨digits, rfl, List.all_eq_true.mp isDigit⟩

/-- The last day of February in a year that 400 divides. -/
def kept : WrittenDate :=
  ⟨numeral ['2', '0', '0', '0'] rfl, numeral ['0', '2'] rfl, numeral ['2', '9'] rfl⟩

/-- The same day in a century that 400 does not divide. -/
def dropped : WrittenDate :=
  ⟨numeral ['1', '9', '0', '0'] rfl, numeral ['0', '2'] rfl, numeral ['2', '9'] rfl⟩

/-- The day before the first of 1970. -/
def eve : WrittenDate :=
  ⟨numeral ['1', '9', '6', '9'] rfl, numeral ['1', '2'] rfl, numeral ['3', '1'] rfl⟩

/-- The last day of February exists in 2000 and not in 1900. Days before 1970 are counted downwards,
and a year of five digits behind a sign is read to the day as well. -/
theorem expiry_follows_calendar_on_leap_days :
    kept.date.OnCalendar ∧ ¬dropped.date.OnCalendar ∧ eve.date.OnCalendar ∧
    PersonalTokens.expiryOf "1900-02-29" = .error (.notADate "1900-02-29") ∧
    ∃ midnight earlier far, PersonalTokens.expiryOf "2000-02-29" = .ok midnight ∧
      midnight.seconds = 86400 * 11016 ∧ PersonalTokens.expiryOf "1969-12-31" = .ok earlier ∧
      earlier.seconds = -86400 ∧ earlier < midnight ∧
      PersonalTokens.expiryOf "+12000-2-3" = .ok far ∧ 86400 ∣ far.seconds := by
  have onKept : kept.date.OnCalendar := ⟨by decide, by decide, by decide, by decide⟩
  have onEve : eve.date.OnCalendar := ⟨by decide, by decide, by decide, by decide⟩
  have offDropped : ¬dropped.date.OnCalendar := fun on => absurd on.day_le (by decide)
  obtain ⟨hread, horder, hwhole⟩ := PersonalTokens.expiry_follows_calendar
  obtain ⟨midnight, days, hmidnight, hseconds, -, hdays⟩ := (hread kept).1 onKept
  obtain ⟨earlier, daysEarlier, hearlier, hsecondsEarlier, -, hdaysEarlier⟩ := (hread eve).1 onEve
  have h11016 : Date.DaysFrom Date.epoch kept.date 11016 :=
    (Date.daysFrom_iff Date.onCalendar_epoch onKept).mpr (by decide)
  have hone : Date.DaysFrom Date.epoch eve.date (-1) := .inr ⟨1, rfl, by decide⟩
  have hfar : PersonalTokens.expiryOf "+12000-2-3" =
      .ok ⟨316519056000, 0, by decide, by decide, by decide⟩ :=
    PersonalTokens.expiryOf_of_read
      (show Date.parse? "+12000-2-3".toList = some ⟨12000, 2, 3⟩ by decide +kernel) rfl
  rw [← (hdays _).mp h11016] at hseconds
  rw [← (hdaysEarlier _).mp hone] at hsecondsEarlier
  refine ⟨onKept, offDropped, onEve, ((hread dropped).2 offDropped).1, midnight, earlier, _,
    hmidnight, hseconds, hearlier, hsecondsEarlier, ?_, hfar, (hwhole _ _ hfar).1⟩
  exact (horder eve kept earlier midnight hearlier hmidnight).mpr (.year (by decide))

end LeapDays

end SessionAuth
