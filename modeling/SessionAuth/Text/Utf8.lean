/-!
# UTF-8

A character is one to four bytes. Reading goes byte by byte and answers a list with
one entry for each character and one empty entry for each fault. A fault is a byte
that cannot start a character, or the longest run of bytes that starts some
character and is not continued as one; the byte that breaks the run is read afresh.

## Main definitions

* `Utf8.encode` — the bytes of a text
* `Utf8.decode` — the characters and faults of some bytes
* `Utf8.text?` — the text of bytes without a fault
* `Utf8.lossy` — the text with `U+FFFD` for each fault

## Main results

* `decode_encode` — reading inverts writing
-/

namespace SessionAuth.Utf8

/-- The bytes of a character. -/
def encodeChar (c : Char) : List UInt8 :=
  let n := c.toNat
  if n < 0x80 then [UInt8.ofNat n]
  else if n < 0x800 then [UInt8.ofNat (0xC0 + n / 64), UInt8.ofNat (0x80 + n % 64)]
  else if n < 0x10000 then
    [UInt8.ofNat (0xE0 + n / 4096), UInt8.ofNat (0x80 + n / 64 % 64),
      UInt8.ofNat (0x80 + n % 64)]
  else
    [UInt8.ofNat (0xF0 + n / 262144), UInt8.ofNat (0x80 + n / 4096 % 64),
      UInt8.ofNat (0x80 + n / 64 % 64), UInt8.ofNat (0x80 + n % 64)]

/-- The bytes of a text. -/
def encode (text : List Char) : List UInt8 := text.flatMap encodeChar

/-- What is known of a character whose bytes are not all read: the bits so far, how
many bytes are owed, and the bounds of the next one. -/
structure Pending where
  bits : Nat
  owed : Nat
  low : Nat
  high : Nat

/-- What the first byte of a character says. -/
inductive Lead where
  | whole (c : Char)
  | start (pending : Pending)
  | fault

/-- The meaning of a byte in first place. The bounds of a second byte rule out long
spellings, surrogates and values beyond `U+10FFFF`. -/
def lead (b : Nat) : Lead :=
  if b < 0x80 then .whole (Char.ofNat b)
  else if b < 0xC2 then .fault
  else if b < 0xE0 then .start ⟨b - 0xC0, 1, 0x80, 0xBF⟩
  else if b < 0xF0 then
    .start ⟨b - 0xE0, 2, if b = 0xE0 then 0xA0 else 0x80, if b = 0xED then 0x9F else 0xBF⟩
  else if b < 0xF5 then
    .start ⟨b - 0xF0, 3, if b = 0xF0 then 0x90 else 0x80, if b = 0xF4 then 0x8F else 0xBF⟩
  else .fault

/-- The characters and faults of the bytes that follow a possibly unfinished character. -/
def decodeFrom : Option Pending → List UInt8 → List (Option Char)
  | none, [] => []
  | some _, [] => [none]
  | none, b :: rest =>
    match lead b.toNat with
    | .whole c => some c :: decodeFrom none rest
    | .start pending => decodeFrom (some pending) rest
    | .fault => none :: decodeFrom none rest
  | some pending, b :: rest =>
    if pending.low ≤ b.toNat ∧ b.toNat ≤ pending.high then
      let bits := pending.bits * 64 + b.toNat % 64
      if pending.owed ≤ 1 then some (Char.ofNat bits) :: decodeFrom none rest
      else decodeFrom (some ⟨bits, pending.owed - 1, 0x80, 0xBF⟩) rest
    else
      match lead b.toNat with
      | .whole c => none :: some c :: decodeFrom none rest
      | .start next => none :: decodeFrom (some next) rest
      | .fault => none :: none :: decodeFrom none rest

/-- The characters and faults of some bytes. -/
def decode (bytes : List UInt8) : List (Option Char) := decodeFrom none bytes

/-- The text of bytes that hold no fault. -/
def text? (bytes : List UInt8) : Option (List Char) := (decode bytes).mapM id

/-- The text of some bytes, with `U+FFFD` in place of each fault. -/
def lossy (bytes : List UInt8) : List Char := (decode bytes).map (·.getD '\uFFFD')

/-- The bytes of a string. -/
def ofString (s : String) : List UInt8 := encode s.toList

/-- The string of bytes that hold no fault. -/
def string? (bytes : List UInt8) : Option String := (text? bytes).map String.ofList

/-- A text cut behind its first `size` bytes, if a character ends there. -/
def cut? : List Char → (size : Nat) → Option (List Char × List Char)
  | text, 0 => some ([], text)
  | [], _ + 1 => none
  | c :: rest, size + 1 =>
    let length := (encodeChar c).length
    if length ≤ size + 1 then
      (cut? rest (size + 1 - length)).map fun (front, back) => (c :: front, back)
    else none

/-! ## Reading inverts writing -/

/-- Reading one written character leaves the rest to be read. -/
theorem decodeFrom_encodeChar (c : Char) (rest : List UInt8) :
    decodeFrom none (encodeChar c ++ rest) = some c :: decodeFrom none rest := by
  have hv : c.toNat < 0xD800 ∨ (0xDFFF < c.toNat ∧ c.toNat < 0x110000) := c.valid
  have hc : Char.ofNat c.toNat = c := Char.ofNat_toNat c
  simp only [encodeChar]
  split
  · next h =>
    have h1 : (UInt8.ofNat c.toNat).toNat = c.toNat := by
      simp only [UInt8.toNat_ofNat']; omega
    simp only [List.cons_append, List.nil_append, decodeFrom, h1, lead, if_pos h, hc]
  · split
    · next h1 h2 =>
      have e1 : (UInt8.ofNat (0xC0 + c.toNat / 64)).toNat = 0xC0 + c.toNat / 64 := by
        simp only [UInt8.toNat_ofNat']; omega
      have e2 : (UInt8.ofNat (0x80 + c.toNat % 64)).toNat = 0x80 + c.toNat % 64 := by
        simp only [UInt8.toNat_ofNat']; omega
      simp only [List.cons_append, List.nil_append, decodeFrom, e1, e2, lead]
      rw [if_neg (by omega), if_neg (by omega), if_pos (by omega)]
      simp only []
      rw [if_pos (by omega), if_pos (by omega)]
      congr 2
      rw [show (0xC0 + c.toNat / 64 - 0xC0) * 64 + (0x80 + c.toNat % 64) % 64 = c.toNat by omega,
        hc]
    · split
      · next h1 h2 h3 =>
        have e1 : (UInt8.ofNat (0xE0 + c.toNat / 4096)).toNat = 0xE0 + c.toNat / 4096 := by
          simp only [UInt8.toNat_ofNat']; omega
        have e2 : (UInt8.ofNat (0x80 + c.toNat / 64 % 64)).toNat = 0x80 + c.toNat / 64 % 64 := by
          simp only [UInt8.toNat_ofNat']; omega
        have e3 : (UInt8.ofNat (0x80 + c.toNat % 64)).toNat = 0x80 + c.toNat % 64 := by
          simp only [UInt8.toNat_ofNat']; omega
        simp only [List.cons_append, List.nil_append, decodeFrom, e1, e2, e3, lead]
        rw [if_neg (by omega), if_neg (by omega), if_neg (by omega), if_pos (by omega)]
        simp only []
        rw [if_pos (by split <;> split <;> omega), if_neg (by omega), if_pos (by omega),
          if_pos (by omega)]
        congr 2
        rw [show ((0xE0 + c.toNat / 4096 - 0xE0) * 64 + (0x80 + c.toNat / 64 % 64) % 64) * 64 +
          (0x80 + c.toNat % 64) % 64 = c.toNat by omega, hc]
      · next h1 h2 h3 =>
        have e1 : (UInt8.ofNat (0xF0 + c.toNat / 262144)).toNat = 0xF0 + c.toNat / 262144 := by
          simp only [UInt8.toNat_ofNat']; omega
        have e2 : (UInt8.ofNat (0x80 + c.toNat / 4096 % 64)).toNat =
            0x80 + c.toNat / 4096 % 64 := by
          simp only [UInt8.toNat_ofNat']; omega
        have e3 : (UInt8.ofNat (0x80 + c.toNat / 64 % 64)).toNat = 0x80 + c.toNat / 64 % 64 := by
          simp only [UInt8.toNat_ofNat']; omega
        have e4 : (UInt8.ofNat (0x80 + c.toNat % 64)).toNat = 0x80 + c.toNat % 64 := by
          simp only [UInt8.toNat_ofNat']; omega
        simp only [List.cons_append, List.nil_append, decodeFrom, e1, e2, e3, e4, lead]
        rw [if_neg (by omega), if_neg (by omega), if_neg (by omega), if_neg (by omega),
          if_pos (by omega)]
        simp only []
        rw [if_pos (by split <;> split <;> omega), if_neg (by omega), if_pos (by omega),
          if_neg (by omega), if_pos (by omega), if_pos (by omega)]
        congr 2
        rw [show (((0xF0 + c.toNat / 262144 - 0xF0) * 64 + (0x80 + c.toNat / 4096 % 64) % 64) * 64 +
          (0x80 + c.toNat / 64 % 64) % 64) * 64 + (0x80 + c.toNat % 64) % 64 = c.toNat by omega, hc]

theorem encode_append (front back : List Char) :
    encode (front ++ back) = encode front ++ encode back :=
  List.flatMap_append

@[simp] theorem decode_encode (text : List Char) : decode (encode text) = text.map some := by
  induction text with
  | nil => rfl
  | cons c rest ih =>
    show decodeFrom none (encodeChar c ++ encode rest) = _
    rw [decodeFrom_encodeChar]
    exact congrArg (some c :: ·) ih

@[simp] theorem text?_encode (text : List Char) : text? (encode text) = some text := by
  rw [text?, decode_encode]
  induction text with
  | nil => rfl
  | cons c rest ih => simp [ih]

@[simp] theorem string?_ofString (s : String) : string? (ofString s) = some s := by
  simp [string?, ofString]

theorem encode_inj {text text' : List Char} : encode text = encode text' ↔ text = text' := by
  constructor
  · intro h
    have htext := text?_encode text
    rw [h, text?_encode] at htext
    exact (Option.some.inj htext).symm
  · exact congrArg encode

theorem ofString_inj {s t : String} : ofString s = ofString t ↔ s = t :=
  encode_inj.trans String.toList_inj

/-! ## Plain characters -/

/-- What is to hold of every plain character can be checked one by one. -/
theorem of_plain (p : Char → Prop) (all : ∀ n < 128, p (Char.ofNat n)) {c : Char}
    (plain : c.toNat < 128) : p c := by
  rw [← Char.ofNat_toNat c]
  exact all c.toNat plain

theorem length_encodeChar {c : Char} (h : c.toNat < 128) : (encodeChar c).length = 1 := by
  unfold encodeChar
  rw [if_pos h]
  rfl

/-- A plain text has as many bytes as characters. -/
theorem length_encode {text : List Char} (plain : ∀ c ∈ text, c.toNat < 128) :
    (encode text).length = text.length := by
  induction text with
  | nil => rfl
  | cons c rest ih =>
    have hrest := ih fun d hd => plain d (List.mem_cons_of_mem _ hd)
    have hc := length_encodeChar (plain c List.mem_cons_self)
    change (encodeChar c ++ encode rest).length = _
    rw [List.length_append, hc, hrest, List.length_cons, Nat.add_comm]

/-- A text is cut behind as many bytes as a plain front has characters. -/
theorem cut?_append {front : List Char} (back : List Char) (plain : ∀ c ∈ front, c.toNat < 128) :
    cut? (front ++ back) front.length = some (front, back) := by
  induction front with
  | nil => cases back <;> rfl
  | cons c front ih =>
    have hc := length_encodeChar (plain c List.mem_cons_self)
    have hrest := ih fun d hd => plain d (List.mem_cons_of_mem _ hd)
    simp [cut?, hc, hrest]

/-! ## The zero byte -/

/-- The bytes of a character that is not plain are not plain either. -/
theorem le_toNat_of_mem_encodeChar {c : Char} (long : 128 ≤ c.toNat) {b : UInt8}
    (mem : b ∈ encodeChar c) : 128 ≤ b.toNat := by
  have hc : c.toNat < 0x110000 := by
    have hvalid : c.toNat < 0xD800 ∨ (0xDFFF < c.toNat ∧ c.toNat < 0x110000) := c.valid
    omega
  simp only [encodeChar] at mem
  rw [if_neg (by omega)] at mem
  -- The first byte is at least 0xC0 and every other one lies between 0x80 and 0xBF.
  split at mem
  · simp only [List.mem_cons, List.not_mem_nil, or_false] at mem
    rcases mem with rfl | rfl <;> rw [UInt8.toNat_ofNat'] <;> omega
  split at mem
  · simp only [List.mem_cons, List.not_mem_nil, or_false] at mem
    rcases mem with rfl | rfl | rfl <;> rw [UInt8.toNat_ofNat'] <;> omega
  · simp only [List.mem_cons, List.not_mem_nil, or_false] at mem
    rcases mem with rfl | rfl | rfl | rfl <;> rw [UInt8.toNat_ofNat'] <;> omega

/-- Only the zero character has a zero byte. -/
theorem zero_mem_encodeChar_iff {c : Char} : 0 ∈ encodeChar c ↔ c = '\x00' := by
  constructor
  · intro mem
    by_cases plain : c.toNat < 128
    · exact of_plain (fun c => 0 ∈ encodeChar c → c = '\x00') (by decide) plain mem
    · exact absurd (le_toNat_of_mem_encodeChar (Nat.not_lt.mp plain) mem) (by decide)
  · rintro rfl
    decide

/-- A text has a zero byte where it holds the zero character. -/
theorem zero_mem_encode_iff {text : List Char} : 0 ∈ encode text ↔ '\x00' ∈ text := by
  simp [encode, List.mem_flatMap, zero_mem_encodeChar_iff]

end SessionAuth.Utf8
