import SessionAuth.Bytes
import SessionAuth.Text.Hex

/-!
# Universally unique identifiers

An identifier is sixteen bytes. It is written as lower-case hexadecimal digits in
groups of 8, 4, 4, 4 and 12 with hyphens between. Reading also accepts the digits
alone, the hyphenated form in braces and the hyphenated form behind `urn:uuid:`,
each with digits of either case.

## Main definitions

* `Uuid` — an identifier
* `Uuid.render` — its hyphenated text
* `Uuid.parse?` — an identifier read from any of its forms
* `Uuid.version4` — the identifier made of 122 free bits

## Main results

* `Uuid.parse?_render` — reading inverts writing
-/

namespace SessionAuth

/-- A universally unique identifier. -/
structure Uuid where
  bytes : List UInt8
  size : bytes.length = 16
  deriving DecidableEq, Repr

namespace Uuid

/-- The identifier whose bytes are all zero. -/
def nil : Uuid := ⟨List.replicate 16 0, rfl⟩

instance : Inhabited Uuid := ⟨nil⟩

/-- Hexadecimal digits cut into the five groups of an identifier. -/
def hyphenated (digits : List Char) : List Char :=
  digits.take 8 ++ '-' :: (digits.drop 8).take 4 ++ '-' :: (digits.drop 12).take 4 ++
    '-' :: (digits.drop 16).take 4 ++ '-' :: digits.drop 20

/-- The hyphenated text of an identifier. -/
def render (id : Uuid) : List Char := hyphenated (Hex.encode id.bytes)

/-- The text of an identifier as a string. -/
def toText (id : Uuid) : String := String.ofList id.render

/-- The digits of a hyphenated text of 36 characters. -/
def digitsOfHyphenated? (text : List Char) : Option (List Char) :=
  let digits := text.take 8 ++ (text.drop 9).take 4 ++ (text.drop 14).take 4 ++
    (text.drop 19).take 4 ++ text.drop 24
  if hyphenated digits = text then some digits else none

/-- The identifier of 32 hexadecimal digits. -/
def ofDigits? (digits : List Char) : Option Uuid :=
  match Hex.decode? digits with
  | none => none
  | some bytes => if h : bytes.length = 16 then some ⟨bytes, h⟩ else none

/-- The digits of any written form: the forms differ in length. -/
def digitsOf? (text : List Char) : Option (List Char) :=
  match text.length with
  | 32 => some text
  | 36 => digitsOfHyphenated? text
  | 38 =>
    if text.head? = some '{' ∧ text.getLast? = some '}' then
      digitsOfHyphenated? (text.tail.dropLast)
    else none
  | 45 =>
    if text.take 9 = "urn:uuid:".toList ∨ text.take 9 = "URN:UUID:".toList then
      digitsOfHyphenated? (text.drop 9)
    else none
  | _ => none

/-- An identifier read from any of its forms. -/
def parse? (text : List Char) : Option Uuid := (digitsOf? text).bind ofDigits?

/-- The identifier of version 4 whose free bits, from the lowest up, are those of `n`:
62 after the variant, 12 after the version, 48 in front. -/
def version4 (n : Nat) : Uuid :=
  let low := n % (1 <<< 62)
  let middle := (n >>> 62) % (1 <<< 12)
  let high := (n >>> 74) % (1 <<< 48)
  ⟨Bytes.bigEndian 16 ((high <<< 80) + ((0x4000 + middle) <<< 64) + ((1 <<< 63) + low)),
    Bytes.length_bigEndian 16 _⟩

/-! ## Reading inverts writing -/

theorem length_digits (id : Uuid) : (Hex.encode id.bytes).length = 32 := by
  simp [id.size]

theorem length_hyphenated {digits : List Char} (h : digits.length = 32) :
    (hyphenated digits).length = 36 := by
  simp [hyphenated, h]

theorem digitsOfHyphenated?_hyphenated {digits : List Char} (h : digits.length = 32) :
    digitsOfHyphenated? (hyphenated digits) = some digits := by
  have key : ∀ (a b c d e : List Char), a.length = 8 → b.length = 4 → c.length = 4 →
      d.length = 4 →
      let text := a ++ '-' :: b ++ '-' :: c ++ '-' :: d ++ '-' :: e
      text.take 8 ++ (text.drop 9).take 4 ++ (text.drop 14).take 4 ++
        (text.drop 19).take 4 ++ text.drop 24 = a ++ b ++ c ++ d ++ e := by
    intro a b c d e ha hb hc hd
    match a, ha, b, hb, c, hc, d, hd with
    | [_, _, _, _, _, _, _, _], _, [_, _, _, _], _, [_, _, _, _], _, [_, _, _, _], _ => simp
  have hcut : digits.take 8 ++ (digits.drop 8).take 4 ++ (digits.drop 12).take 4 ++
      (digits.drop 16).take 4 ++ digits.drop 20 = digits := by
    have h2 := List.take_append_drop 4 (digits.drop 8)
    have h3 := List.take_append_drop 4 (digits.drop 12)
    have h4 := List.take_append_drop 4 (digits.drop 16)
    simp only [List.drop_drop, Nat.reduceAdd] at h2 h3 h4
    simp only [List.append_assoc]
    rw [h4, h3, h2, List.take_append_drop]
  have hk := key (digits.take 8) ((digits.drop 8).take 4) ((digits.drop 12).take 4)
    ((digits.drop 16).take 4) (digits.drop 20) (by simp [h]) (by simp [h]) (by simp [h])
    (by simp [h])
  rw [hcut] at hk
  have hk' : (hyphenated digits).take 8 ++ ((hyphenated digits).drop 9).take 4 ++
      ((hyphenated digits).drop 14).take 4 ++ ((hyphenated digits).drop 19).take 4 ++
      (hyphenated digits).drop 24 = digits := hk
  simp only [digitsOfHyphenated?, hk', if_pos]

@[simp] theorem parse?_render (id : Uuid) : parse? id.render = some id := by
  have hl := length_digits id
  have h36 : id.render.length = 36 := length_hyphenated hl
  have hd : digitsOf? id.render = some (Hex.encode id.bytes) := by
    simp only [digitsOf?, h36]
    exact digitsOfHyphenated?_hyphenated hl
  simp [parse?, hd, ofDigits?, id.size]

end Uuid

end SessionAuth
