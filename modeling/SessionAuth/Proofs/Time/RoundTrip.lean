import Mathlib.Algebra.Group.Nat.Defs
import Mathlib.Data.List.TakeWhile
import Mathlib.Tactic.Common
import SessionAuth.Text.Utf8
import SessionAuth.Time.Rfc3339

/-!
# Written instants are read back

A part of the text of an instant is read back in front of whatever stands behind it, as far as
that cannot be taken for a part of it. Together they give the date, the time of day and the
fraction of a second from which the text was made. Leap seconds are left out, since one is written
as the second behind it, which need not be the sixtieth of its minute.

## Main results

* `Date.year_mem_of_days_mem` — the years of instants are those that are read
* `Calendar.number?_append`, `Calendar.year?_append` — digits are read in front of anything
* `Calendar.year?_renderYear`, `Calendar.number?_padded`, `Instant.fraction?_renderFraction` —
  parts are read back
* `Instant.parse?_render` — an instant is read back from its text
-/

namespace SessionAuth

open Text (dropBlanks isBlank)

/-! ## Numbers -/

theorem Text.dropBlanks_cons {c : Char} (h : isBlank c = false) (rest : List Char) :
    dropBlanks (c :: rest) = c :: rest :=
  List.dropWhile_cons_of_neg (by simp [h])

theorem Text.isBlank_of_isDigit {c : Char} (h : c.isDigit = true) : isBlank c = false := by
  have plain : c.toNat < 128 := by
    simp only [Char.isDigit, Bool.and_eq_true, decide_eq_true_eq] at h
    exact Nat.lt_of_le_of_lt (UInt32.le_iff_toNat_le.mp h.2) (by decide)
  exact Utf8.of_plain (fun c => c.isDigit = true → isBlank c = false) (by decide) plain h

namespace Decimal

theorem length_padded {width n : Nat} (filled : 0 < width) (fits : n < 10 ^ width) :
    (padded width n).length = width := by
  have hdigits := (Nat.length_toDigits_le_iff (by decide) filled).mpr fits
  rw [padded, List.length_append, List.length_replicate, Nat.sub_add_cancel hdigits]

/-- Each zero behind a number makes ten times of it. -/
theorem digits?_padded_append_zeros (width n zeros : Nat) :
    digits? (padded width n ++ List.replicate zeros '0') = some (10 ^ zeros * n) := by
  have hdigits : ∀ c ∈ padded width n ++ List.replicate zeros '0', c.isDigit = true := by
    intro c mem
    rcases List.mem_append.mp mem with hpadded | hzero
    · exact isDigit_of_mem_padded c hpadded
    · rw [List.eq_of_mem_replicate hzero]
      rfl
  rw [digits?_of_isDigit (List.append_ne_nil_of_left_ne_nil (padded_ne_nil width n) _) hdigits,
    Nat.ofDigitChars_append, Nat.ofDigitChars_replicate_zero, ofDigitChars_padded]

/-- Digits add less to a number with that many zeros behind it than one more would. -/
theorem ofDigitChars_lt {digits : List Char} (isDigit : ∀ c ∈ digits, c.isDigit = true) (n : ℕ) :
    Nat.ofDigitChars 10 digits n < (n + 1) * 10 ^ digits.length := by
  induction digits generalizing n with
  | nil => simp
  | cons c digits ih =>
    have hc : c.toNat - '0'.toNat ≤ 9 := by
      have hdigit := isDigit c List.mem_cons_self
      simp only [Char.isDigit, Bool.and_eq_true, decide_eq_true_eq] at hdigit
      have hlast : c.toNat ≤ '9'.toNat := UInt32.le_iff_toNat_le.mp hdigit.2
      exact Nat.sub_le_of_le_add hlast
    have hrest := ih (fun d mem => isDigit d (List.mem_cons_of_mem _ mem))
      (10 * n + (c.toNat - '0'.toNat))
    rw [Nat.ofDigitChars_cons, List.length_cons, pow_succ']
    calc
      _ < (10 * n + (c.toNat - '0'.toNat) + 1) * 10 ^ digits.length := hrest
      _ ≤ ((n + 1) * 10) * 10 ^ digits.length := Nat.mul_le_mul_right _ (by omega)
      _ = (n + 1) * (10 * 10 ^ digits.length) := Nat.mul_assoc _ _ _

end Decimal

namespace Calendar

/-- Digits are no blanks. -/
theorem dropBlanks_append {run : List Char} (filled : run ≠ [])
    (digits : ∀ c ∈ run, c.isDigit = true) (rest : List Char) :
    dropBlanks (run ++ rest) = run ++ rest := by
  obtain ⟨c, more, rfl⟩ := List.exists_cons_of_ne_nil filled
  exact Text.dropBlanks_cons (Text.isBlank_of_isDigit (digits c List.mem_cons_self)) _

/-- The digits in front of what does not start with one. -/
theorem takeWhile_padded (width n : Nat) (rest : List Char)
    (stops : rest.takeWhile Char.isDigit = []) :
    (Decimal.padded width n ++ rest).takeWhile Char.isDigit = Decimal.padded width n := by
  rw [List.takeWhile_append_of_pos Decimal.isDigit_of_mem_padded, stops, List.append_nil]

/-- Digits that fill the width are read in front of anything. -/
theorem number?_append {run : List Char} (filled : run ≠ [])
    (digits : ∀ c ∈ run, c.isDigit = true) (rest : List Char) :
    number? run.length (run ++ rest) = some (Nat.ofDigitChars 10 run 0, rest) := by
  have hrun : ((run ++ rest).take run.length).takeWhile Char.isDigit = run := by
    rw [List.take_left, List.takeWhile_eq_self_iff]
    exact digits
  simp only [number?, dropBlanks_append filled digits, hrun,
    Decimal.digits?_of_isDigit filled digits, Option.map_some, List.drop_left]

/-- A number that fills its width is read back in front of anything. -/
theorem number?_padded {width n : Nat} (filled : 0 < width) (fits : n < 10 ^ width)
    (rest : List Char) : number? width (Decimal.padded width n ++ rest) = some (n, rest) := by
  have hread := number?_append (Decimal.padded_ne_nil width n) Decimal.isDigit_of_mem_padded rest
  rwa [Decimal.length_padded filled fits, Decimal.ofDigitChars_padded] at hread

/-- Without a sign in front a year is a number of up to four digits. -/
theorem year?_append {run : List Char} (filled : run ≠ []) (digits : ∀ c ∈ run, c.isDigit = true)
    (rest : List Char) :
    year? (run ++ rest) = (number? 4 (run ++ rest)).map fun (n, rest) => ((n : Int), rest) := by
  unfold year?
  rw [dropBlanks_append filled digits]
  obtain ⟨c, more, rfl⟩ := List.exists_cons_of_ne_nil filled
  have hc := digits c List.mem_cons_self
  split
  · next heq =>
    obtain ⟨rfl, -⟩ := List.cons.inj heq
    cases hc
  · next heq =>
    obtain ⟨rfl, -⟩ := List.cons.inj heq
    cases hc
  · rfl

/-- A year is read back in front of a hyphen. -/
theorem year?_renderYear (year : Int) (rest : List Char) :
    year? (Instant.renderYear year ++ '-' :: rest) = some (year, '-' :: rest) := by
  unfold Instant.renderYear
  by_cases short : 0 ≤ year ∧ year ≤ 9999
  · rw [if_pos short, year?_append (Decimal.padded_ne_nil _ _) Decimal.isDigit_of_mem_padded,
      number?_padded (by decide) (by omega), Option.map_some]
    simp only [Int.toNat_of_nonneg short.1]
  · have hrun := takeWhile_padded 4 year.natAbs ('-' :: rest) rfl
    rw [if_neg short]
    by_cases negative : year < 0
    · have hminus : isBlank '-' = false := by decide
      have hvalue : -(year.natAbs : Int) = year := by omega
      simp only [if_pos negative, List.cons_append, year?, Text.dropBlanks_cons hminus, hrun,
        Decimal.digits?_padded, List.drop_left]
      exact congrArg (fun value => some (value, '-' :: rest)) hvalue
    · have hplus : isBlank '+' = false := by decide
      have hvalue : (year.natAbs : Int) = year := by omega
      simp only [if_neg negative, List.cons_append, year?, Text.dropBlanks_cons hplus, hrun,
        Decimal.digits?_padded, List.drop_left]
      exact congrArg (fun value => some (value, '-' :: rest)) hvalue

theorem expect?_hyphen (rest : List Char) : expect? '-' (dropBlanks ('-' :: rest)) = some rest := by
  rw [Text.dropBlanks_cons (by decide)]
  rfl

theorem expect?_colon (rest : List Char) : expect? ':' (dropBlanks (':' :: rest)) = some rest := by
  rw [Text.dropBlanks_cons (by decide)]
  rfl

end Calendar

/-! ## Dates -/

/-- No month has more than 31 days. -/
theorem Date.monthLength_le : ∀ leap : Bool, ∀ month ≤ 12, Date.monthLength leap month ≤ 31 := by
  decide

/-- The days of instants lie in the years that are read. -/
theorem Date.year_mem_of_days_mem (days : Int) (first : -96465292 ≤ days)
    (last : days ≤ 95026236) :
    -262143 ≤ (Date.ofDays days).year ∧ (Date.ofDays days).year ≤ 262142 := by
  have hyear : (Date.ofDays days).year = (Date.yearAndPlace (days + Date.epochDay)).1 := rfl
  obtain ⟨cycle, century, four, single, place, hparts, -, hday, hbounds⟩ :=
    Date.exists_parts (days + Date.epochDay)
  unfold Date.epochDay at hday
  rw [hyear, hparts]
  refine ⟨by omega, Int.not_lt.mp fun beyond => ?_⟩
  -- The last day of all is the last of its year, so there is nothing to spare.
  have hcycle : cycle = 655 := by omega
  have hcentury : century = 1 := by omega
  omega

namespace Instant

/-- The date of an instant is one that is read. -/
theorem date?_date (t : Instant) :
    Calendar.date? t.date.year t.date.month t.date.day = some t.date := by
  have hfirst := t.first_le
  have hlast := t.le_last
  obtain ⟨first, last⟩ :=
    Date.year_mem_of_days_mem (t.seconds / 86400) (by omega) (by omega)
  exact if_pos ⟨Date.valid_ofDays _, first, last⟩

/-! ## Fractions of a second -/

/-- Digits behind a dot are nanoseconds when they are filled up to nine. -/
theorem fraction?_padded {width n : Nat} (filled : 0 < width) (counts : width ≤ 9)
    (fits : n < 10 ^ width) {rest : List Char} (stops : rest.takeWhile Char.isDigit = []) :
    fraction? ('.' :: Decimal.padded width n ++ rest) = some (10 ^ (9 - width) * n, rest) := by
  have hlength := Decimal.length_padded filled fits
  have hrun := Calendar.takeWhile_padded width n rest stops
  have hcounted : (Decimal.padded width n).take 9 = Decimal.padded width n :=
    List.take_of_length_le (by omega)
  simp only [fraction?, List.cons_append, hrun, hcounted, hlength,
    Decimal.digits?_padded_append_zeros, Option.bind_some, if_neg (Decimal.padded_ne_nil width n)]
  rw [List.drop_left' hlength]

/-- A fraction of a second is read back in front of the zone. -/
theorem fraction?_renderFraction {nanos : Nat} (h : nanos < 1000000000) :
    fraction? (renderFraction nanos ++ ['Z']) = some (nanos, ['Z']) := by
  have groups {width n : Nat} (filled : 0 < width) (counts : width ≤ 9) (fits : n < 10 ^ width)
      (value : 10 ^ (9 - width) * n = nanos) :
      fraction? ('.' :: Decimal.padded width n ++ ['Z']) = some (nanos, ['Z']) := by
    rw [fraction?_padded filled counts fits rfl, value]
  -- As many groups of three digits are written as are needed.
  unfold renderFraction
  split
  · next none =>
    rw [none]
    rfl
  split
  · next thousands => exact groups (by decide) (by decide) (by omega) (by omega)
  split
  · next thousands => exact groups (by decide) (by decide) (by omega) (by omega)
  · exact groups (by decide) (by decide) (by omega) (by omega)

/-! ## Instants -/

/-- The text of an instant outside of leap seconds. -/
theorem render_eq {t : Instant} (regular : t.Regular) : t.render =
    renderYear t.date.year ++ '-' :: (Decimal.padded 2 t.date.month ++
      '-' :: (Decimal.padded 2 t.date.day ++ 'T' :: (Decimal.padded 2 (t.secondOfDay / 3600) ++
      ':' :: (Decimal.padded 2 (t.secondOfDay / 60 % 60) ++
      ':' :: (Decimal.padded 2 (t.secondOfDay % 60) ++ (renderFraction t.nanos ++ ['Z'])))))) := by
  have hnanos : t.nanos < 1000000000 := regular
  simp only [render, renderDate, if_neg (Nat.not_le.mpr hnanos), Nat.mod_eq_of_lt hnanos,
    List.append_assoc, List.cons_append]

theorem secondOfDay_lt (t : Instant) : t.secondOfDay < 86400 := by
  unfold secondOfDay
  omega

/-- The date and the time of day of an instant make up its seconds. -/
theorem seconds_eq (t : Instant) : t.date.toDays * 86400 + (t.secondOfDay / 3600 : Nat) * 3600 +
    (t.secondOfDay / 60 % 60 : Nat) * 60 + (t.secondOfDay % 60 : Nat) = t.seconds := by
  have hdays : t.date.toDays = t.seconds / 86400 := Date.toDays_ofDays _
  have hsecond : t.secondOfDay = (t.seconds % 86400).toNat := rfl
  omega

/-- An instant outside of leap seconds is read back from its text. -/
theorem parse?_render {t : Instant} (regular : t.Regular) : parse? t.render = some t := by
  obtain ⟨-, hmonth, -, hday⟩ : t.date.Valid := Date.valid_ofDays _
  have hlength := Date.monthLength_le (Date.isLeapYear t.date.year) t.date.month hmonth
  have hsecond := secondOfDay_lt t
  have two {n : Nat} (h : n < 100) (rest : List Char) :
      Calendar.number? 2 (Decimal.padded 2 n ++ rest) = some (n, rest) :=
    Calendar.number?_padded (by decide) h rest
  have zone : zone? (dropBlanks ['Z']) = some (0, []) := by rfl
  rw [render_eq regular, parse?]
  -- The parts are read back one behind the other.
  refine Option.bind_eq_some_iff.mpr ⟨_, Calendar.year?_renderYear _ _, ?_⟩
  refine Option.bind_eq_some_iff.mpr ⟨_, Calendar.expect?_hyphen _, ?_⟩
  refine Option.bind_eq_some_iff.mpr ⟨_, two (by omega) _, ?_⟩
  refine Option.bind_eq_some_iff.mpr ⟨_, Calendar.expect?_hyphen _, ?_⟩
  refine Option.bind_eq_some_iff.mpr ⟨_, two (by omega) _, ?_⟩
  refine Option.bind_eq_some_iff.mpr ⟨_, rfl, ?_⟩
  refine Option.bind_eq_some_iff.mpr ⟨_, two (by omega) _, ?_⟩
  refine Option.bind_eq_some_iff.mpr ⟨_, Calendar.expect?_colon _, ?_⟩
  refine Option.bind_eq_some_iff.mpr ⟨_, two (by omega) _, ?_⟩
  refine Option.bind_eq_some_iff.mpr ⟨_, Calendar.expect?_colon _, ?_⟩
  refine Option.bind_eq_some_iff.mpr ⟨_, two (by omega) _, ?_⟩
  refine Option.bind_eq_some_iff.mpr ⟨_, fraction?_renderFraction regular, ?_⟩
  refine Option.bind_eq_some_iff.mpr ⟨_, zone, ?_⟩
  -- Nothing is left behind the zone.
  refine (if_neg (not_not_intro rfl)).trans ?_
  refine Option.bind_eq_some_iff.mpr ⟨_, date?_date t, ?_⟩
  have hleap : ¬t.secondOfDay % 60 = 60 := by omega
  simp only [if_neg hleap]
  rw [if_pos ⟨by omega, by omega, by omega⟩, seconds_eq, Int.sub_zero, of?_self]

theorem ofText?_toText {t : Instant} (regular : t.Regular) : ofText? t.toText = some t := by
  rw [ofText?, toText, String.toList_ofList, parse?_render regular]

end Instant

end SessionAuth
