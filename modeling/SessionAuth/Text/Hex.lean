import SessionAuth.Text.Utf8

/-!
# Hexadecimal bytes

Each byte is written as two lower-case hexadecimal digits, the high half first.
Reading accepts digits of either case and only an even number of them.

## Main definitions

* `Hex.encode` — the digits of some bytes
* `Hex.decode?` — the bytes of some digits

## Main results

* `decode?_encode` — reading inverts writing
* `decode?_eq_some_iff` — nothing else is read, but for the case of the digits
-/

namespace SessionAuth.Hex

/-- The lower-case digit of a value below 16. -/
def digit (n : Nat) : Char := Char.ofNat (if n < 10 then 0x30 + n else 0x57 + n)

/-- The value of a digit of either case. -/
def value? (c : Char) : Option Nat :=
  let n := c.toNat
  if 0x30 ≤ n ∧ n ≤ 0x39 then some (n - 0x30)
  else if 0x61 ≤ n ∧ n ≤ 0x66 then some (n - 0x57)
  else if 0x41 ≤ n ∧ n ≤ 0x46 then some (n - 0x37)
  else none

/-- The two digits of a byte. -/
def encodeByte (b : UInt8) : List Char := [digit (b.toNat / 16), digit (b.toNat % 16)]

/-- The digits of some bytes, two for each. -/
def encode (bytes : List UInt8) : List Char := bytes.flatMap encodeByte

/-- The bytes that pairs of digits stand for. -/
def decode? : List Char → Option (List UInt8)
  | [] => some []
  | [_] => none
  | high :: low :: rest => do
    let h ← value? high
    let l ← value? low
    let bytes ← decode? rest
    return UInt8.ofNat (16 * h + l) :: bytes

theorem value?_digit : ∀ n < 16, value? (digit n) = some n := by decide

@[simp] theorem decode?_encode (bytes : List UInt8) : decode? (encode bytes) = some bytes := by
  induction bytes with
  | nil => rfl
  | cons b rest ih =>
    have hb : b.toNat < 256 := b.toNat_lt
    have he : encode (b :: rest) =
        digit (b.toNat / 16) :: digit (b.toNat % 16) :: encode rest := rfl
    have hh := value?_digit (b.toNat / 16) (by omega)
    have hl := value?_digit (b.toNat % 16) (by omega)
    have hv : 16 * (b.toNat / 16) + b.toNat % 16 = b.toNat := by omega
    have ho : UInt8.ofNat (16 * (b.toNat / 16) + b.toNat % 16) = b := by rw [hv]; simp
    rw [he, decode?, hh, hl, ih]
    exact congrArg some (congrArg (· :: rest) ho)

@[simp] theorem length_encode (bytes : List UInt8) :
    (encode bytes).length = 2 * bytes.length := by
  induction bytes with
  | nil => rfl
  | cons b rest ih =>
    have he : encode (b :: rest) =
        digit (b.toNat / 16) :: digit (b.toNat % 16) :: encode rest := rfl
    simp only [he, List.length_cons, ih]
    omega

theorem encode_inj {bytes bytes' : List UInt8} : encode bytes = encode bytes' ↔ bytes = bytes' := by
  constructor
  · intro h
    have hbytes := decode?_encode bytes
    rw [h, decode?_encode] at hbytes
    exact (Option.some.inj hbytes).symm
  · exact congrArg encode

/-! ## Digits of either case -/

/-- Digits are plain characters. -/
theorem toNat_lt_of_value? {c : Char} {n : Nat} (h : value? c = some n) : c.toNat < 128 := by
  refine Nat.not_le.mp fun hbeyond => ?_
  unfold value? at h
  simp only at h
  rw [if_neg (by omega), if_neg (by omega), if_neg (by omega)] at h
  cases h

/-- A character that has a value is, in lower case, the digit of that value. -/
theorem toLower_of_value? {c : Char} {n : Nat} (h : value? c = some n) :
    n < 16 ∧ c.toLower = digit n := by
  have hvalue := Utf8.of_plain
    (fun c => (value? c).all (fun n => n < 16 && c.toLower = digit n) = true) (by decide)
    (toNat_lt_of_value? h)
  simp only [h, Option.all_some, Bool.and_eq_true, decide_eq_true_eq] at hvalue
  exact hvalue

/-- The case of a character does not change its value. -/
theorem value?_toLower (c : Char) : value? c.toLower = value? c := by
  by_cases hascii : c.toNat < 128
  · exact Utf8.of_plain (fun c => value? c.toLower = value? c) (by decide) hascii
  · have hsame : c.toLower = c := by
      unfold Char.toLower
      refine dif_neg fun hupper => hascii ?_
      have hlast : c.toNat ≤ 'Z'.toNat := UInt32.le_iff_toNat_le.mp hupper.2
      exact Nat.lt_of_le_of_lt hlast (by decide)
    rw [hsame]

theorem decode?_map_toLower (digits : List Char) :
    decode? (digits.map Char.toLower) = decode? digits := by
  fun_induction decode? digits with
  | case1 => rfl
  | case2 => rfl
  | case3 high low rest ih => simp only [List.map_cons, decode?, value?_toLower, ih]

theorem map_toLower_of_decode? {digits : List Char} {bytes : List UInt8}
    (h : decode? digits = some bytes) : digits.map Char.toLower = encode bytes := by
  fun_induction decode? digits generalizing bytes with
  | case1 =>
    cases h
    rfl
  | case2 => cases h
  | case3 high low rest ih =>
    obtain ⟨m, hm, h⟩ := Option.bind_eq_some_iff.mp h
    obtain ⟨n, hn, h⟩ := Option.bind_eq_some_iff.mp h
    obtain ⟨tail, htail, h⟩ := Option.bind_eq_some_iff.mp h
    obtain rfl := Option.some.inj h
    obtain ⟨hm16, hhigh⟩ := toLower_of_value? hm
    obtain ⟨hn16, hlow⟩ := toLower_of_value? hn
    have hbyte : (UInt8.ofNat (16 * m + n)).toNat = 16 * m + n := by
      rw [UInt8.toNat_ofNat', Nat.mod_eq_of_lt (by omega)]
    have hdiv : (16 * m + n) / 16 = m := by omega
    have hmod : (16 * m + n) % 16 = n := by omega
    have he : encode (UInt8.ofNat (16 * m + n) :: tail) = digit m :: digit n :: encode tail := by
      change encodeByte _ ++ encode tail = _
      rw [encodeByte, hbyte, hdiv, hmod]
      rfl
    rw [List.map_cons, List.map_cons, hhigh, hlow, ih htail, he]

/-- Every character of what can be read is a digit. -/
theorem isSome_value?_of_decode? {digits : List Char} {bytes : List UInt8}
    (h : decode? digits = some bytes) {c : Char} (mem : c ∈ digits) : (value? c).isSome = true := by
  fun_induction decode? digits generalizing bytes with
  | case1 => cases mem
  | case2 => cases h
  | case3 high low rest ih =>
    obtain ⟨m, hm, h⟩ := Option.bind_eq_some_iff.mp h
    obtain ⟨n, hn, h⟩ := Option.bind_eq_some_iff.mp h
    obtain ⟨tail, htail, -⟩ := Option.bind_eq_some_iff.mp h
    rcases List.mem_cons.mp mem with rfl | mem
    · rw [hm, Option.isSome_some]
    rcases List.mem_cons.mp mem with rfl | mem
    · rw [hn, Option.isSome_some]
    · exact ih htail mem

/-- Only plain characters are written. -/
theorem toNat_lt_of_mem_encode {bytes : List UInt8} {c : Char} (mem : c ∈ encode bytes) :
    c.toNat < 128 := by
  have hvalue := isSome_value?_of_decode? (decode?_encode bytes) mem
  obtain ⟨n, hn⟩ := Option.isSome_iff_exists.mp hvalue
  exact toNat_lt_of_value? hn

/-- Digits are read as some bytes where, in lower case, they are what is written of these. -/
theorem decode?_eq_some_iff {digits : List Char} {bytes : List UInt8} :
    decode? digits = some bytes ↔ digits.map Char.toLower = encode bytes := by
  constructor
  · exact map_toLower_of_decode?
  · intro h
    rw [← decode?_map_toLower, h, decode?_encode]

end SessionAuth.Hex
