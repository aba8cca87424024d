/-!
# Whole numbers in decimal

A whole number is read from a text that holds nothing else: an optional sign and
at least one digit `0` to `9`. Leading zeros are allowed, spaces are not. A minus
sign is read only where negative numbers exist; for a natural number it is a
fault, even in front of zero.

## Main definitions

* `Decimal.digits?` — a nonempty run of digits
* `Decimal.natural?`, `Decimal.integer?` — a number with an optional sign
* `Decimal.render` — the shortest text of an integer

## Main results

* `digits?_toDigits`, `digits?_padded`, `integer?_render` — reading inverts writing
-/

namespace SessionAuth.Decimal

/-- The value of a run of digits that follow the number `value`. -/
def digitsFrom? (value : Nat) : List Char → Option Nat
  | [] => some value
  | c :: rest =>
    if c.isDigit then digitsFrom? (10 * value + (c.toNat - '0'.toNat)) rest else none

/-- The value of a nonempty run of digits. -/
def digits? : List Char → Option Nat
  | [] => none
  | c :: rest => digitsFrom? 0 (c :: rest)

/-- A natural number, with an optional plus sign. -/
def natural? : List Char → Option Nat
  | '+' :: rest => digits? rest
  | text => digits? text

/-- An integer, with an optional sign. -/
def integer? : List Char → Option Int
  | '+' :: rest => (digits? rest).map Int.ofNat
  | '-' :: rest => (digits? rest).map fun n => -(n : Int)
  | text => (digits? text).map Int.ofNat

/-- An integer no smaller than `low` and no larger than `high`. -/
def integerWithin? (low high : Int) (text : List Char) : Option Int :=
  (integer? text).filter fun n => decide (low ≤ n ∧ n ≤ high)

/-- A natural number no larger than `high`. -/
def naturalWithin? (high : Nat) (text : List Char) : Option Nat :=
  (natural? text).filter fun n => decide (n ≤ high)

/-- A natural number of 32 bits. -/
def natural32? (text : List Char) : Option Nat := naturalWithin? 0xFFFFFFFF text

/-- A natural number of 64 bits. -/
def natural64? (text : List Char) : Option Nat := naturalWithin? 0xFFFFFFFFFFFFFFFF text

/-- A 32-bit integer. -/
def int32? (text : List Char) : Option Int32 :=
  (integerWithin? (-2147483648) 2147483647 text).map Int32.ofInt

/-- A 64-bit integer. -/
def int64? (text : List Char) : Option Int64 :=
  (integerWithin? (-9223372036854775808) 9223372036854775807 text).map Int64.ofInt

/-- The shortest text of an integer: no leading zero, a minus sign below zero. -/
def render : Int → List Char
  | .ofNat n => Nat.toDigits 10 n
  | .negSucc n => '-' :: Nat.toDigits 10 (n + 1)

/-- The last `width` digits of a number, with leading zeros where it is short. -/
def padded (width : Nat) (n : Nat) : List Char :=
  let digits := Nat.toDigits 10 n
  List.replicate (width - digits.length) '0' ++ digits

theorem digitsFrom?_eq_ofDigitChars {text : List Char} (h : ∀ c ∈ text, c.isDigit = true)
    (value : Nat) : digitsFrom? value text = some (Nat.ofDigitChars 10 text value) := by
  induction text generalizing value with
  | nil => rfl
  | cons c rest ih =>
    rw [digitsFrom?, if_pos (h c (by simp)), ih (fun d hd => h d (by simp [hd]))]
    simp [Nat.ofDigitChars]

theorem isDigit_of_mem_toDigits {n : Nat} (c : Char) (h : c ∈ Nat.toDigits 10 n) :
    c.isDigit = true :=
  Nat.isDigit_of_mem_toDigits (by decide) (by decide) h

theorem digits?_of_isDigit {text : List Char} (filled : text ≠ [])
    (h : ∀ c ∈ text, c.isDigit = true) : digits? text = some (Nat.ofDigitChars 10 text 0) := by
  have hread := digitsFrom?_eq_ofDigitChars h 0
  cases text with
  | nil => exact absurd rfl filled
  | cons c rest => exact hread

@[simp] theorem digits?_toDigits (n : Nat) : digits? (Nat.toDigits 10 n) = some n := by
  rw [digits?_of_isDigit Nat.toDigits_ne_nil isDigit_of_mem_toDigits, Nat.ofDigitChars_ten_toDigits]

theorem isDigit_of_mem_padded {width n : Nat} (c : Char) (h : c ∈ padded width n) :
    c.isDigit = true := by
  rcases List.mem_append.mp h with hzero | hdigit
  · rw [List.eq_of_mem_replicate hzero]
    rfl
  · exact isDigit_of_mem_toDigits c hdigit

theorem padded_ne_nil (width n : Nat) : padded width n ≠ [] :=
  List.append_ne_nil_of_right_ne_nil _ Nat.toDigits_ne_nil

theorem ofDigitChars_padded (width n : Nat) : Nat.ofDigitChars 10 (padded width n) 0 = n := by
  rw [padded, Nat.ofDigitChars_append, Nat.ofDigitChars_replicate_zero, Nat.mul_zero,
    Nat.ofDigitChars_ten_toDigits]

/-- Leading zeros do not count. -/
@[simp] theorem digits?_padded (width n : Nat) : digits? (padded width n) = some n := by
  rw [digits?_of_isDigit (padded_ne_nil width n) isDigit_of_mem_padded, ofDigitChars_padded]

/-- A number is written with a digit in front. -/
theorem exists_padded_eq_cons (width n : Nat) :
    ∃ c digits, padded width n = c :: digits ∧ c.isDigit = true := by
  cases htext : padded width n with
  | nil => exact absurd htext (padded_ne_nil width n)
  | cons c digits => exact ⟨c, digits, rfl, isDigit_of_mem_padded c (htext ▸ List.mem_cons_self)⟩

@[simp] theorem natural?_padded (width n : Nat) : natural? (padded width n) = some n := by
  obtain ⟨c, digits, htext, hc⟩ := exists_padded_eq_cons width n
  rw [← digits?_padded width n, htext]
  unfold natural?
  split
  · next heq =>
    obtain ⟨rfl, -⟩ := List.cons.inj heq
    cases hc
  · rfl

theorem integer?_of_head {c : Char} {rest : List Char} (hp : c ≠ '+') (hm : c ≠ '-') :
    integer? (c :: rest) = (digits? (c :: rest)).map Int.ofNat := by
  unfold integer?
  split <;> simp_all

@[simp] theorem integer?_render (n : Int) : integer? (render n) = some n := by
  cases n with
  | ofNat n =>
    have hd : ∀ c ∈ Nat.toDigits 10 n, c.isDigit = true := isDigit_of_mem_toDigits
    have hv := digits?_toDigits n
    cases ht : Nat.toDigits 10 n with
    | nil => exact absurd ht (Nat.toDigits_ne_nil)
    | cons c rest =>
      rw [ht] at hd hv
      have hc := hd c (by simp)
      have hp : c ≠ '+' := by rintro rfl; simp at hc
      have hm : c ≠ '-' := by rintro rfl; simp at hc
      rw [render, ht, integer?_of_head hp hm, hv]
      rfl
  | negSucc n =>
    show (digits? (Nat.toDigits 10 (n + 1))).map (fun k => -(k : Int)) = _
    simp [Int.negSucc_eq]

end SessionAuth.Decimal
