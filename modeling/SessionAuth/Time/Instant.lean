import SessionAuth.Time.Calendar

/-!
# Instants and durations

An instant is a number of whole seconds since the start of 1970 and a fraction of a
second in nanoseconds. A fraction of a whole second or more marks a leap second, the
sixty-first of its minute. Instants are limited to the years -262143 to 262142.

A duration is a signed number of nanoseconds. Durations that are given in larger units
are limited to what a 64-bit number of milliseconds can hold.

## Main definitions

* `Instant` — a point in time, ordered by `Instant.le`
* `Instant.add?` — an instant moved by a duration, if it stays within the limits
* `Instant.since` — the duration from one instant to another
* `Duration.ofMinutes?`, `Duration.ofDays?`, `Duration.ofMilliseconds?`

## Main results

* `Instant.ofDate?_eq_some_iff` — when a date starts
* `Instant.add?_since` — moving by the distance arrives
-/

namespace SessionAuth

/-- A signed length of time. -/
structure Duration where
  nanoseconds : Int
  deriving DecidableEq, Repr, Inhabited

namespace Duration

/-- The number of nanoseconds in a second. -/
def perSecond : Int := 1000000000

/-- A number of whole seconds. -/
def ofSeconds (seconds : Int) : Duration := ⟨seconds * perSecond⟩

/-- The whole seconds of a duration, its fraction dropped toward zero. -/
def wholeSeconds (d : Duration) : Int := d.nanoseconds.tdiv perSecond

/-- The most milliseconds that a duration given in larger units may have. -/
def maxMilliseconds : Int := 9223372036854775807

/-- A number of milliseconds within the limit. -/
def ofMilliseconds? (milliseconds : Int) : Option Duration :=
  if -maxMilliseconds ≤ milliseconds ∧ milliseconds ≤ maxMilliseconds then
    some ⟨milliseconds * 1000000⟩
  else none

/-- A number of minutes within the limit. -/
def ofMinutes? (minutes : Int64) : Option Duration := ofMilliseconds? (minutes.toInt * 60000)

/-- A number of days within the limit. -/
def ofDays? (days : Int64) : Option Duration := ofMilliseconds? (days.toInt * 86400000)

end Duration

/-- A point in time. -/
structure Instant where
  seconds : Int
  nanos : Nat
  first_le : -8334601228800 ≤ seconds
  le_last : seconds ≤ 8210266876799
  nanos_lt : nanos < 2000000000
  deriving DecidableEq

namespace Instant

/-- The start of 1970. -/
def epoch : Instant := ⟨0, 0, by decide, by decide, by decide⟩

instance : Inhabited Instant := ⟨epoch⟩

/-- The instant of whole seconds and a fraction, if it lies within the limits. -/
def of? (seconds : Int) (nanos : Nat) : Option Instant :=
  if h : -8334601228800 ≤ seconds ∧ seconds ≤ 8210266876799 ∧ nanos < 2000000000 then
    some ⟨seconds, nanos, h.1, h.2.1, h.2.2⟩
  else none

/-- The instant of whole seconds, if it lies within the limits. -/
def ofSeconds? (seconds : Int) : Option Instant := of? seconds 0

/-- Nanoseconds since the start of 1970. -/
def toNanoseconds (t : Instant) : Int := t.seconds * Duration.perSecond + t.nanos

/-- Whether `s` is not after `t`. -/
def le (s t : Instant) : Bool :=
  s.seconds < t.seconds || (s.seconds = t.seconds && s.nanos ≤ t.nanos)

instance : LE Instant := ⟨fun s t => s.le t = true⟩

instance : LT Instant := ⟨fun s t => t.le s = false⟩

instance (s t : Instant) : Decidable (s ≤ t) := inferInstanceAs (Decidable (s.le t = true))

instance (s t : Instant) : Decidable (s < t) := inferInstanceAs (Decidable (t.le s = false))

/-- The instant that lies a number of nanoseconds after the start of 1970. -/
def ofNanoseconds? (n : Int) : Option Instant :=
  of? (n / Duration.perSecond) (n % Duration.perSecond).toNat

/-- An instant moved by a duration, if it stays within the limits. -/
def add? (t : Instant) (d : Duration) : Option Instant :=
  ofNanoseconds? (t.toNanoseconds + d.nanoseconds)

/-- The duration from `s` to `t`. -/
def since (t s : Instant) : Duration := ⟨t.toNanoseconds - s.toNanoseconds⟩

/-- The instant lies in no leap second. -/
def Regular (t : Instant) : Prop := t.nanos < 1000000000

instance (t : Instant) : Decidable t.Regular := inferInstanceAs (Decidable (_ < _))

/-- The start of a date, if it lies within the limits. -/
def ofDate? (date : Date) : Option Instant := ofSeconds? (date.toDays * 86400)

/-- The date on which an instant lies. -/
def date (t : Instant) : Date := Date.ofDays (t.seconds / 86400)

/-- The second of its day at which an instant lies. -/
def secondOfDay (t : Instant) : Nat := (t.seconds % 86400).toNat

protected theorem not_le {s t : Instant} : ¬s ≤ t ↔ t < s := by
  change ¬s.le t = true ↔ s.le t = false
  simp

protected theorem not_lt {s t : Instant} : ¬s < t ↔ t ≤ s := by
  change ¬t.le s = false ↔ t.le s = true
  simp

protected theorem le_iff {s t : Instant} :
    s ≤ t ↔ s.seconds < t.seconds ∨ s.seconds = t.seconds ∧ s.nanos ≤ t.nanos := by
  change s.le t = true ↔ _
  simp [le]

protected theorem le_total (s t : Instant) : s ≤ t ∨ t ≤ s := by
  rw [Instant.le_iff, Instant.le_iff]
  omega

protected theorem le_trans {s t u : Instant} (h : s ≤ t) (h' : t ≤ u) : s ≤ u := by
  rw [Instant.le_iff] at *
  omega

protected theorem le_antisymm {s t : Instant} (h : s ≤ t) (h' : t ≤ s) : s = t := by
  rw [Instant.le_iff] at *
  have parts : s.seconds = t.seconds ∧ s.nanos = t.nanos := by omega
  cases s
  cases t
  rwa [mk.injEq]

/-- An instant that is not later lies in no later second. -/
theorem seconds_le {s t : Instant} (h : s ≤ t) : s.seconds ≤ t.seconds := by
  rw [Instant.le_iff] at h
  omega

theorem of?_self (t : Instant) : of? t.seconds t.nanos = some t := by
  rw [of?, dif_pos ⟨t.first_le, t.le_last, t.nanos_lt⟩]

/-- A date starts on the first of its seconds. -/
theorem ofDate?_eq_some_iff {date : Date} {t : Instant} :
    ofDate? date = some t ↔ t.seconds = 86400 * date.toDays ∧ t.nanos = 0 := by
  rw [ofDate?, ofSeconds?, Int.mul_comm]
  constructor
  · intro h
    unfold of? at h
    split at h
    · cases h
      exact ⟨rfl, rfl⟩
    · cases h
  · rintro ⟨hseconds, hnanos⟩
    rw [← hseconds, ← hnanos, of?_self]

theorem ofNanoseconds?_toNanoseconds {t : Instant} (h : t.Regular) :
    ofNanoseconds? t.toNanoseconds = some t := by
  have hr : t.nanos < 1000000000 := h
  have hs : t.toNanoseconds / Duration.perSecond = t.seconds := by
    simp only [toNanoseconds, Duration.perSecond]; omega
  have hn : (t.toNanoseconds % Duration.perSecond).toNat = t.nanos := by
    simp only [toNanoseconds, Duration.perSecond]; omega
  rw [ofNanoseconds?, hs, hn, of?_self]

/-- Moving an instant by its distance from another arrives at the other. -/
theorem add?_since {s t : Instant} (h : t.Regular) : s.add? (t.since s) = some t := by
  have : s.toNanoseconds + (t.since s).nanoseconds = t.toNanoseconds := by
    simp only [since]; omega
  rw [add?, this, ofNanoseconds?_toNanoseconds h]

end Instant

end SessionAuth
