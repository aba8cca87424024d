/-!
# Base64

Six bits to a character: three bytes become four characters, and a rest of one or
two bytes becomes two or three. The written form of some bytes is unique: the bits
left over in the last character are zero, and a reader refuses any other.

Three alphabets are in use. Tokens take the one that is safe in a URL, without
padding. Key files take the common one, padded with `=` to a multiple of four.
Stored secrets take one of their own.

## Main definitions

* `Base64.Alphabet` — which character stands for which value
* `Base64.encode`, `Base64.decode?` — without padding
* `Base64.decodePadded?` — with padding
* `Base64.urlSafe`, `Base64.common`, `Base64.stored` — the alphabets
-/

namespace SessionAuth.Base64

/-- Sixty-four characters, the place of a character being its value. -/
structure Alphabet where
  /-- The character of a value below 64. -/
  char : Nat → Char
  /-- The value of a character of the alphabet. -/
  value? : Char → Option Nat

/-- The value of a character that lies in the range that starts at `first` and has
`size` members, counted from `base`. -/
def inRange? (first : Char) (size base : Nat) (c : Char) : Option Nat :=
  if first.toNat ≤ c.toNat ∧ c.toNat < first.toNat + size then
    some (base + (c.toNat - first.toNat))
  else none

/-- The member of a range of characters at a place counted from its start. -/
def ofRange (first : Char) (place : Nat) : Char := Char.ofNat (first.toNat + place)

/-- Letters, then digits, then two further characters. -/
def lettersThenDigits (c62 c63 : Char) : Alphabet where
  char n :=
    if n < 26 then ofRange 'A' n
    else if n < 52 then ofRange 'a' (n - 26)
    else if n < 62 then ofRange '0' (n - 52)
    else if n = 62 then c62
    else c63
  value? c :=
    if c = c62 then some 62
    else if c = c63 then some 63
    else (inRange? 'A' 26 0 c).or ((inRange? 'a' 26 26 c).or (inRange? '0' 10 52 c))

/-- The alphabet whose characters need no escape in a URL. -/
def urlSafe : Alphabet := lettersThenDigits '-' '_'

/-- The alphabet of key files. -/
def common : Alphabet := lettersThenDigits '+' '/'

/-- The alphabet of stored secrets: `.` and `/`, then letters, then digits. -/
def stored : Alphabet where
  char n :=
    if n = 0 then '.'
    else if n = 1 then '/'
    else if n < 28 then ofRange 'A' (n - 2)
    else if n < 54 then ofRange 'a' (n - 28)
    else ofRange '0' (n - 54)
  value? c :=
    if c = '.' then some 0
    else if c = '/' then some 1
    else (inRange? 'A' 26 2 c).or ((inRange? 'a' 26 28 c).or (inRange? '0' 10 54 c))

/-- The characters of some bytes. -/
def encode (alphabet : Alphabet) : List UInt8 → List Char
  | [] => []
  | [a] =>
    [alphabet.char (a.toNat / 4), alphabet.char (a.toNat % 4 * 16)]
  | [a, b] =>
    [alphabet.char (a.toNat / 4), alphabet.char (a.toNat % 4 * 16 + b.toNat / 16),
      alphabet.char (b.toNat % 16 * 4)]
  | a :: b :: c :: rest =>
    alphabet.char (a.toNat / 4) :: alphabet.char (a.toNat % 4 * 16 + b.toNat / 16) ::
      alphabet.char (b.toNat % 16 * 4 + c.toNat / 64) :: alphabet.char (c.toNat % 64) ::
      encode alphabet rest

/-- The bytes of six-bit values; `none` if one is left alone or left-over bits are not
zero. -/
def bytesOfValues? : List Nat → Option (List UInt8)
  | [] => some []
  | [_] => none
  | [p, q] => if q % 16 = 0 then some [UInt8.ofNat (p * 4 + q / 16)] else none
  | [p, q, r] =>
    if r % 4 = 0 then
      some [UInt8.ofNat (p * 4 + q / 16), UInt8.ofNat (q % 16 * 16 + r / 4)]
    else none
  | p :: q :: r :: s :: rest =>
    (bytesOfValues? rest).map fun bytes =>
      UInt8.ofNat (p * 4 + q / 16) :: UInt8.ofNat (q % 16 * 16 + r / 4) ::
        UInt8.ofNat (r % 4 * 64 + s) :: bytes

/-- The bytes of a text without padding. -/
def decode? (alphabet : Alphabet) (text : List Char) : Option (List UInt8) :=
  (text.mapM alphabet.value?).bind bytesOfValues?

/-- The bytes of a text padded with `=` to a multiple of four characters. -/
def decodePadded? (alphabet : Alphabet) (text : List Char) : Option (List UInt8) :=
  let body :=
    match text.reverse with
    | '=' :: '=' :: front => front.reverse
    | '=' :: front => front.reverse
    | _ => text
  if text.length % 4 = 0 ∧ (body.length + 3) / 4 = text.length / 4 then decode? alphabet body
  else none

/-! ## Reading inverts writing -/

/-- Every value below 64 is read back from its character. -/
def Alphabet.Reads (alphabet : Alphabet) : Prop :=
  ∀ n < 64, alphabet.value? (alphabet.char n) = some n

theorem urlSafe_reads : urlSafe.Reads := by unfold Alphabet.Reads; decide

theorem stored_reads : stored.Reads := by unfold Alphabet.Reads; decide

theorem mapM_value?_cons {alphabet : Alphabet} (h : alphabet.Reads) {n : Nat} (hn : n < 64)
    {text : List Char} {values : List Nat} (ht : text.mapM alphabet.value? = some values) :
    (alphabet.char n :: text).mapM alphabet.value? = some (n :: values) := by
  simp [h n hn, ht]

/-- The six-bit values of some bytes. -/
def valuesOfBytes : List UInt8 → List Nat
  | [] => []
  | [a] => [a.toNat / 4, a.toNat % 4 * 16]
  | [a, b] => [a.toNat / 4, a.toNat % 4 * 16 + b.toNat / 16, b.toNat % 16 * 4]
  | a :: b :: c :: rest =>
    a.toNat / 4 :: (a.toNat % 4 * 16 + b.toNat / 16) ::
      (b.toNat % 16 * 4 + c.toNat / 64) :: c.toNat % 64 :: valuesOfBytes rest

theorem mapM_value?_encode {alphabet : Alphabet} (h : alphabet.Reads) (bytes : List UInt8) :
    (encode alphabet bytes).mapM alphabet.value? = some (valuesOfBytes bytes) := by
  fun_induction encode alphabet bytes with
  | case1 => rfl
  | case2 a =>
    have ha : a.toNat < 256 := a.toNat_lt
    exact mapM_value?_cons h (by omega) (mapM_value?_cons h (by omega) rfl)
  | case3 a b =>
    have ha : a.toNat < 256 := a.toNat_lt
    have hb : b.toNat < 256 := b.toNat_lt
    exact mapM_value?_cons h (by omega) (mapM_value?_cons h (by omega)
      (mapM_value?_cons h (by omega) rfl))
  | case4 a b c rest ih =>
    have ha : a.toNat < 256 := a.toNat_lt
    have hb : b.toNat < 256 := b.toNat_lt
    have hc : c.toNat < 256 := c.toNat_lt
    exact mapM_value?_cons h (by omega) (mapM_value?_cons h (by omega)
      (mapM_value?_cons h (by omega) (mapM_value?_cons h (by omega) ih)))

theorem bytesOfValues?_valuesOfBytes (bytes : List UInt8) :
    bytesOfValues? (valuesOfBytes bytes) = some bytes := by
  have ofNat_eq : ∀ (x : UInt8) (n : Nat), n = x.toNat → UInt8.ofNat n = x := by
    rintro x n rfl; simp
  fun_induction valuesOfBytes bytes with
  | case1 => rfl
  | case2 a =>
    have ha : a.toNat < 256 := a.toNat_lt
    rw [bytesOfValues?, if_pos (by omega), ofNat_eq a _ (by omega)]
  | case3 a b =>
    have ha : a.toNat < 256 := a.toNat_lt
    have hb : b.toNat < 256 := b.toNat_lt
    rw [bytesOfValues?, if_pos (by omega), ofNat_eq a _ (by omega), ofNat_eq b _ (by omega)]
  | case4 a b c rest ih =>
    have ha : a.toNat < 256 := a.toNat_lt
    have hb : b.toNat < 256 := b.toNat_lt
    have hc : c.toNat < 256 := c.toNat_lt
    rw [bytesOfValues?, ih, ofNat_eq a _ (by omega), ofNat_eq b _ (by omega),
      ofNat_eq c _ (by omega)]
    rfl

/-- Reading without padding inverts writing. -/
theorem decode?_encode {alphabet : Alphabet} (h : alphabet.Reads) (bytes : List UInt8) :
    decode? alphabet (encode alphabet bytes) = some bytes := by
  rw [decode?, mapM_value?_encode h]
  exact bytesOfValues?_valuesOfBytes bytes

/-! ## Characters and lengths -/

/-- Every character of a text that can be read belongs to the alphabet. -/
theorem isSome_value?_of_decode? {alphabet : Alphabet} {text : List Char} {bytes : List UInt8}
    (h : decode? alphabet text = some bytes) {c : Char} (mem : c ∈ text) :
    (alphabet.value? c).isSome = true := by
  obtain ⟨front, back, rfl⟩ := List.append_of_mem mem
  obtain ⟨values, hvalues, -⟩ := Option.bind_eq_some_iff.mp h
  cases hvalue : alphabet.value? c with
  | none => simp [hvalue] at hvalues
  | some n => rfl

/-- Six bits to a character, and the rest of the last one is spare. -/
@[simp] theorem length_encode (alphabet : Alphabet) (bytes : List UInt8) :
    (encode alphabet bytes).length = (4 * bytes.length + 2) / 3 := by
  fun_induction encode alphabet bytes with
  | case1 => rfl
  | case2 a => simp
  | case3 a b => simp
  | case4 a b c rest ih =>
    simp only [List.length_cons, ih]
    omega

/-- The characters of stored secrets are plain ones. -/
theorem toNat_lt_of_isSome_stored {c : Char} (h : (stored.value? c).isSome = true) :
    c.toNat < 128 := by
  have hdot : '.'.toNat < 128 := by decide
  have hslash : '/'.toNat < 128 := by decide
  have hupper : 'A'.toNat + 26 ≤ 128 := by decide
  have hlower : 'a'.toNat + 26 ≤ 128 := by decide
  have hdigit : '0'.toNat + 10 ≤ 128 := by decide
  refine Nat.not_le.mp fun hbeyond => ?_
  -- Beyond the plain characters no range takes the character.
  have houtside : stored.value? c = none := by
    have hne (d : Char) (hd : d.toNat < 128) : c ≠ d := by
      rintro rfl
      omega
    simp only [stored, if_neg (hne '.' hdot), if_neg (hne '/' hslash), inRange?]
    rw [if_neg (by omega), if_neg (by omega), if_neg (by omega)]
    rfl
  rw [houtside] at h
  cases h

end SessionAuth.Base64
