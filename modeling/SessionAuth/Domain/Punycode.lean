/-!
# Labels in ASCII

A label that holds other characters is written in ASCII as its ASCII characters, a hyphen,
and a row of numbers that say which other characters stand where: each number counts the
places, over all code points from the last one on, that are passed before the next character
is put in. Numbers are written in base 36, the smallest digit first, and end with a digit
below a threshold that adapts to the numbers before.

## Main definitions

* `Punycode.encode` — a label written in ASCII
* `Punycode.decode?` — the label that ASCII characters stand for

## Main results

* `value?_digit` — digits are read as they are written
-/

namespace SessionAuth.Punycode

/-- The digit of a value below 36: first the letters, then the decimal digits. -/
def digit (n : Nat) : Char := Char.ofNat (if n < 26 then 0x61 + n else 0x16 + n)

/-- The value of a digit, its letters of either case. -/
def value? (c : Char) : Option Nat :=
  if 'a' ≤ c ∧ c ≤ 'z' then some (c.toNat - 0x61)
  else if 'A' ≤ c ∧ c ≤ 'Z' then some (c.toNat - 0x41)
  else if '0' ≤ c ∧ c ≤ '9' then some (c.toNat - 0x16)
  else none

theorem value?_digit : ∀ n < 36, value? (digit n) = some n := by decide

/-- The value from which on the digit at a place goes on to the next place. Places count by
36, from 36 on. -/
def threshold (bias place : Nat) : Nat :=
  if place ≤ bias then 1 else if bias + 26 ≤ place then 26 else place - bias

theorem threshold_pos (bias place : Nat) : 1 ≤ threshold bias place := by
  unfold threshold
  split
  · exact Nat.le_refl 1
  · split <;> omega

/-- How often a number can be divided by 35 before it is at most 455, as places, and what is
left of it. -/
def scaled (n places : Nat) : Nat × Nat :=
  if 455 < n then scaled (n / 35) (places + 36) else (n, places)
termination_by n
decreasing_by exact Nat.div_lt_self (by omega) (by omega)

/-- The bias after a number, for a label of `length` characters so far. -/
def adapted (n length : Nat) (isFirst : Bool) : Nat :=
  let n := if isFirst then n / 700 else n / 2
  let (n, places) := scaled (n + n / length) 0
  places + 36 * n / (n + 38)

/-! ### Writing -/

/-- The digits of a number from a place on. -/
def digits (bias place n : Nat) : List Char :=
  let t := threshold bias place
  if n < t then [digit n]
  else digit (t + (n - t) % (36 - t)) :: digits bias (place + 36) ((n - t) / (36 - t))
termination_by n
decreasing_by
  have := threshold_pos bias place
  exact Nat.lt_of_le_of_lt (Nat.div_le_self _ _) (by omega)

/-- Numbers written so far: their digits, the places passed since the last of them, the bias,
and how many characters are dealt with. -/
structure Writing where
  text : List Char
  passed : Nat
  bias : Nat
  handled : Nat

/-- One character of the label is passed, or written if it is the code point in turn. -/
def Writing.visit (basic code : Nat) (s : Writing) (c : Char) : Writing :=
  if c.toNat < code then { s with passed := s.passed + 1 }
  else if c.toNat = code then
    { text := s.text ++ digits s.bias 36 s.passed
      passed := 0
      bias := adapted s.passed (s.handled + 1) (s.handled = basic)
      handled := s.handled + 1 }
  else s

/-- The code points that are not in ASCII, each once and in order. -/
def otherCodePoints (label : List Char) : List Nat :=
  ((label.map Char.toNat).filter (128 ≤ ·)).mergeSort.eraseDups

/-- All characters of each code point in turn, from the code point `start` on. -/
def Writing.run (label : List Char) (basic : Nat) : List Nat → (start : Nat) → Writing → Writing
  | [], _, s => s
  | code :: rest, start, s =>
    -- A step over one code point passes every place among the characters handled so far.
    let s := { s with passed := s.passed + (code - start) * (s.handled + 1) }
    let s := label.foldl (Writing.visit basic code) s
    Writing.run label basic rest (code + 1) { s with passed := s.passed + 1 }

/-- A label written in ASCII. -/
def encode (label : List Char) : List Char :=
  let basic := label.filter fun c => c.toNat < 128
  let numbers := Writing.run label basic.length (otherCodePoints label) 128
    ⟨[], 0, 72, basic.length⟩
  basic ++ (if basic = [] then [] else ['-']) ++ numbers.text

/-! ### Reading -/

/-- A label that is being read: its characters so far, the last code point put in, the place
behind it, the bias, and the number that is being read, with its start, the weight of its
next digit and the place of that digit. -/
structure Reading where
  label : List Char
  code : Nat
  start : Nat
  bias : Nat
  value : Nat
  weight : Nat
  place : Nat

/-- The label when a number has ended: the number is a place in the label and a step to a
further code point. -/
def Reading.put? (s : Reading) : Option Reading :=
  let length := s.label.length + 1
  let code := s.code + s.value / length
  let place := s.value % length
  if code.isValidChar then
    some {
      label := s.label.take place ++ Char.ofNat code :: s.label.drop place
      code := code
      start := place + 1
      bias := adapted (s.value - s.start) length (s.start = 0)
      value := place + 1
      weight := 1
      place := 36 }
  else none

/-- One more digit. -/
def Reading.push? (s : Reading) (c : Char) : Option Reading := do
  let n ← value? c
  let t := threshold s.bias s.place
  let s := { s with value := s.value + n * s.weight }
  if n < t then s.put?
  else return { s with weight := s.weight * (36 - t), place := s.place + 36 }

/-- The ASCII characters and the digits of an encoded label. They are cut at the last hyphen,
unless it stands in front. -/
def split (text : List Char) : List Char × List Char :=
  let digits := (text.reverse.takeWhile (· ≠ '-')).reverse
  let basic := text.take (text.length - digits.length - 1)
  if basic = [] then ([], text) else (basic, digits)

/-- The label that ASCII characters stand for. -/
def decode? (text : List Char) : Option (List Char) := do
  let (basic, digits) := split text
  if basic.any fun c => 128 ≤ c.toNat then none
  let s ← digits.foldlM Reading.push? ⟨basic, 128, 0, 72, 0, 1, 36⟩
  if s.place = 36 then return s.label else none

end SessionAuth.Punycode
