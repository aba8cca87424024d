import SessionAuth.Text.Blank
import SessionAuth.Text.Decimal
import SessionAuth.Time.Instant

/-!
# Written instants and dates

An instant is written as date, `T`, time of day and `Z`: `2023-11-14T22:13:20Z`. Years
from 0 to 9999 have four digits, others a sign and at least four. The fraction of a
second has 0, 3, 6 or 9 digits, the fewest that lose nothing; a leap second is second 60.

Reading is more generous. Blanks may stand before each number and around separators, and
the time may be given in another zone. A date alone is written `YYYY-MM-DD`; its parts
may be shorter or, behind a sign, its year longer.

## Main definitions

* `Instant.render` — the text of an instant
* `Instant.parse?` — an instant read from a text
* `Date.parse?` — a date read from a text
-/

namespace SessionAuth

open Text (dropBlanks)

namespace Calendar

/-- A run of at most `width` digits, at least one, behind blanks: its value and the rest. -/
def number? (width : Nat) (text : List Char) : Option (Nat × List Char) :=
  let text := dropBlanks text
  let run := (text.take width).takeWhile Char.isDigit
  (Decimal.digits? run).map fun n => (n, text.drop run.length)

/-- A year behind blanks: up to four digits, or a sign and any number of digits. -/
def year? (text : List Char) : Option (Int × List Char) :=
  match dropBlanks text with
  | '+' :: rest =>
    let run := rest.takeWhile Char.isDigit
    (Decimal.digits? run).map fun n => ((n : Int), rest.drop run.length)
  | '-' :: rest =>
    let run := rest.takeWhile Char.isDigit
    (Decimal.digits? run).map fun n => (-(n : Int), rest.drop run.length)
  | rest => (number? 4 rest).map fun (n, rest) => ((n : Int), rest)

/-- The text behind a character that must come next. -/
def expect? (c : Char) : List Char → Option (List Char)
  | d :: rest => if d = c then some rest else none
  | [] => none

/-- A date that exists and starts within the limits of instants. -/
def date? (year : Int) (month day : Nat) : Option Date :=
  let date : Date := ⟨year, month, day⟩
  if date.Valid ∧ -262143 ≤ year ∧ year ≤ 262142 then some date else none

end Calendar

open Calendar

namespace Date

/-- A date read from year, month and day with hyphens between and nothing behind. -/
def parse? (text : List Char) : Option Date := do
  let (year, rest) ← year? text
  let rest ← expect? '-' rest
  let (month, rest) ← number? 2 rest
  let rest ← expect? '-' rest
  let (day, rest) ← number? 2 rest
  if rest = [] then date? year month day else none

end Date

namespace Instant

/-- The zone of a text: seconds by which its clock is ahead, and what follows. -/
def zone? (text : List Char) : Option (Int × List Char) :=
  match text with
  | c :: rest =>
    if c = 'Z' ∨ c = 'z' then some (0, rest)
    else if ((text.take 3).map Char.toLower) = ['u', 't', 'c'] then some (0, text.drop 3)
    else do
      let sign ← if c = '+' then some 1 else if c = '-' ∨ c = '\u2212' then some (-1) else none
      let hours := rest.take 2
      let rest := (rest.drop 2).dropWhile fun d => d = ':' || Text.isBlank d
      let minutes := rest.take 2
      if hours.length = 2 ∧ minutes.length = 2 then
        let h ← Decimal.digits? hours
        let m ← Decimal.digits? minutes
        if m < 60 ∧ h < 24 then some (sign * (h * 3600 + m * 60 : Int), rest.drop 2) else none
      else none
  | [] => none

/-- The fraction of a second in nanoseconds: a dot and digits, of which nine count. -/
def fraction? (text : List Char) : Option (Nat × List Char) :=
  match text with
  | '.' :: rest =>
    let run := rest.takeWhile Char.isDigit
    let counted := run.take 9
    -- Short fractions are filled up to nanoseconds.
    (Decimal.digits? (counted ++ List.replicate (9 - counted.length) '0')).bind fun n =>
      if run = [] then none else some (n, rest.drop run.length)
  | _ => some (0, text)

/-- An instant read from a date, a time of day and a zone. -/
def parse? (text : List Char) : Option Instant := do
  let (year, rest) ← year? text
  let rest ← expect? '-' (dropBlanks rest)
  let (month, rest) ← number? 2 rest
  let rest ← expect? '-' (dropBlanks rest)
  let (day, rest) ← number? 2 rest
  let rest ← match rest with
    | 'T' :: rest | 't' :: rest | ' ' :: rest => some rest
    | _ => none
  let (hour, rest) ← number? 2 rest
  let rest ← expect? ':' (dropBlanks rest)
  let (minute, rest) ← number? 2 rest
  let rest ← expect? ':' (dropBlanks rest)
  let (second, rest) ← number? 2 rest
  let (nanos, rest) ← fraction? rest
  let (offset, rest) ← zone? (dropBlanks rest)
  if dropBlanks rest ≠ [] then none
  else
    let date ← date? year month day
    if hour < 24 ∧ minute < 60 ∧ second ≤ 60 then
      -- A leap second is the second before it with more than a second of nanoseconds.
      let leap := second = 60
      let seconds := date.toDays * 86400 + hour * 3600 + minute * 60 +
        (if leap then 59 else second : Nat)
      of? (seconds - offset) (if leap then nanos + 1000000000 else nanos)
    else none

/-! ## Writing -/

/-- The text of a year: four digits, or a sign and at least four digits. -/
def renderYear (year : Int) : List Char :=
  if 0 ≤ year ∧ year ≤ 9999 then Decimal.padded 4 year.toNat
  else (if year < 0 then '-' else '+') :: Decimal.padded 4 year.natAbs

/-- The text of a date. -/
def renderDate (date : Date) : List Char :=
  renderYear date.year ++ '-' :: Decimal.padded 2 date.month ++ '-' :: Decimal.padded 2 date.day

/-- The text of a fraction of a second, with the fewest groups of three digits. -/
def renderFraction (nanos : Nat) : List Char :=
  if nanos = 0 then []
  else if nanos % 1000000 = 0 then '.' :: Decimal.padded 3 (nanos / 1000000)
  else if nanos % 1000 = 0 then '.' :: Decimal.padded 6 (nanos / 1000)
  else '.' :: Decimal.padded 9 nanos

/-- The text of an instant. -/
def render (t : Instant) : List Char :=
  let s := t.secondOfDay
  let leap := 1000000000 ≤ t.nanos
  let second := if leap then s % 60 + 1 else s % 60
  renderDate t.date ++ 'T' :: Decimal.padded 2 (s / 3600) ++
    ':' :: Decimal.padded 2 (s / 60 % 60) ++ ':' :: Decimal.padded 2 second ++
    renderFraction (t.nanos % 1000000000) ++ ['Z']

/-- The text of an instant as a string. -/
def toText (t : Instant) : String := String.ofList t.render

/-- An instant read from a string. -/
def ofText? (text : String) : Option Instant := parse? text.toList

end Instant

end SessionAuth
