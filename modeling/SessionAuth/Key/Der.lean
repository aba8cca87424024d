import SessionAuth.Bytes
import SessionAuth.Text.Utf8
import SessionAuth.Text.Decimal
import SessionAuth.Time.Calendar

/-!
# Tagged binary data

Key files hold data in which every element starts with a tag and the length of its body.
A tag has a class and a number and says whether the body is itself made of elements.

Two readers are at work. One reads a whole file into a tree and is generous about how
lengths are written, but checks the bodies of the common kinds of elements. The other
takes one element with an expected tag from the front of some bytes and insists on the
shortest length.

## Main definitions

* `Der.Node` — an element as far as keys need it
* `Der.nodes?` — the elements of a file
* `Der.take?` — one element with an expected tag
-/

namespace SessionAuth.Der

/-- An element as far as keys need it. -/
inductive Node where
  /-- Elements in sequence. -/
  | sequence (items : List Node)
  /-- A string of bits, filled up to whole bytes. -/
  | bits (bytes : List UInt8)
  /-- A string of bytes. -/
  | octets (bytes : List UInt8)
  /-- A name in the tree of object identifiers. -/
  | identifier (arcs : List Nat)
  /-- Any other element. -/
  | other

/-- The front of an element. -/
structure Header where
  /-- Whether the tag belongs to the class that is common to all data. -/
  universal : Bool
  /-- Whether the body is made of elements. -/
  constructed : Bool
  /-- The number of the tag. -/
  number : Nat
  /-- The body. -/
  body : List UInt8
  /-- What follows the element. -/
  rest : List UInt8

/-- A number in pieces of seven bits, all but the last of which have the top bit set. -/
def sevenBits? (value : Nat) : List UInt8 → Option (Nat × List UInt8)
  | [] => none
  | b :: rest =>
    let value := value * 128 + b.toNat % 128
    if b < 128 then some (value, rest) else sevenBits? value rest

/-- All numbers that are written in pieces of seven bits. -/
def allSevenBits? (value : Nat) : List UInt8 → Option (List Nat)
  | [] => some []
  | b :: rest =>
    let value := value * 128 + b.toNat % 128
    if b < 128 then (allSevenBits? 0 rest).map (value :: ·)
    else if rest = [] then none else allSevenBits? value rest

/-- A length: one byte below 128, or the number of bytes that follow and hold it. -/
def length? : List UInt8 → Option (Nat × List UInt8)
  | [] => none
  | b :: rest =>
    if b < 128 then some (b.toNat, rest)
    else
      let size := b.toNat % 128
      if size ≤ 8 ∧ size ≤ rest.length then
        some (Bytes.ofBigEndian (rest.take size), rest.drop size)
      else none

/-- The front element of some bytes. -/
def header? : List UInt8 → Option Header
  | [] => none
  | b :: rest => do
    let low := b.toNat % 32
    let (number, rest) ← if low = 31 then sevenBits? 0 rest else some (low, rest)
    let (length, rest) ← length? rest
    if length ≤ rest.length then
      some ⟨b.toNat / 64 = 0, b.toNat / 32 % 2 = 1, number, rest.take length, rest.drop length⟩
    else none

/-- The arcs of an object identifier. The first byte holds two of them. -/
def arcs? : List UInt8 → Option (List Nat)
  | [] => none
  | b :: rest =>
    let n := b.toNat
    let first := if n < 40 then 0 else if n < 80 then 1 else 2
    (allSevenBits? 0 rest).map fun arcs => first :: (n - 40 * first) :: arcs

/-- Whether a character may stand in a printable string. -/
def isPrintable (b : UInt8) : Bool :=
  let c := Char.ofNat b.toNat
  c.isAlphanum || " '()+,-./:=?".toList.contains c

/-- Whether bytes spell a date and time of day in digits: a year of four, and two for
month, day, hour, minute and second. -/
def isDateTime (digits : List Char) : Bool :=
  let part start width := Decimal.digits? ((digits.drop start).take width)
  match part 0 4, part 4 2, part 6 2, part 8 2, part 10 2, part 12 2 with
  | some year, some month, some day, some hour, some minute, some second =>
    digits.length = 14 && decide (Date.Valid ⟨year, month, day⟩) && hour < 24 && minute < 60 &&
      second < 60
  | _, _, _, _, _, _ => false

/-- Whether a body is a time with a year of two digits. -/
def isShortTime (body : List UInt8) : Bool :=
  let text := body.map fun b => Char.ofNat b.toNat
  let century := if (Decimal.digits? (text.take 2)).any (50 ≤ ·) then ['1', '9'] else ['2', '0']
  text.length = 13 && text.getLast? = some 'Z' && isDateTime (century ++ text.dropLast)

/-- Whether a body is a time with a year of four digits and perhaps a fraction. -/
def isLongTime (body : List UInt8) : Bool :=
  let text := body.map fun b => Char.ofNat b.toNat
  let fraction := (text.drop 14).dropLast
  text.getLast? = some 'Z' && isDateTime (text.take 14) &&
    (fraction = [] || (fraction.head? = some '.' && fraction.tail.all Char.isDigit &&
      fraction.length ≤ 10))

/-- Whether a body is text in units of two bytes without a lone surrogate. -/
def isWideText : (fuel : Nat) → List UInt8 → Bool
  | 0, _ => true
  | _, [] => true
  | _, [_] => true
  | fuel + 1, a :: _ :: rest =>
    if 0xD8 ≤ a ∧ a < 0xDC then
      match rest with
      | b :: _ :: rest => (0xDC ≤ b && b < 0xE0) && isWideText fuel rest
      | _ => false
    else !(0xDC ≤ a && a < 0xE0) && isWideText fuel rest

/-- The element with a body of a simple kind; `none` if the body is not of that kind. -/
def simple? (number : Nat) (body : List UInt8) : Option Node :=
  let guarded (ok : Bool) := if ok then some Node.other else none
  match number with
  -- Truth values, strings of bits and of bytes, identifiers.
  | 0x01 => guarded (body.length = 1)
  | 0x03 =>
    match body with
    | [] => some (.bits [])
    | unused :: bytes => if unused.toNat ≤ 8 * bytes.length then some (.bits bytes) else none
  | 0x04 => some (.octets body)
  | 0x06 => (arcs? body).map .identifier
  -- Texts of several alphabets, with two kinds of times among them.
  | 0x0C | 0x14 | 0x1C => guarded (Utf8.text? body).isSome
  | 0x13 => guarded (body.all isPrintable)
  | 0x16 => guarded (body.all (· < 128))
  | 0x17 => guarded (isShortTime body)
  | 0x18 => guarded (isLongTime body)
  | 0x1E => guarded (isWideText body.length body)
  | _ => some .other

/-- The elements that some bytes are made of, at least one. Each element takes at least
two bytes, so the number of bytes is fuel enough. -/
def nodesWithin? : (fuel : Nat) → List UInt8 → Option (List Node)
  | 0, _ => none
  | fuel + 1, bytes => do
    let header ← header? bytes
    let node ←
      if !header.universal then some Node.other
      else if header.number = 0x10 then (nodesWithin? fuel header.body).map .sequence
      else if header.number = 0x11 then (nodesWithin? fuel header.body).map fun _ => .other
      else simple? header.number header.body
    if header.rest = [] then return [node]
    else return node :: (← nodesWithin? fuel header.rest)

/-- The elements of a file, at least one. -/
def nodes? (bytes : List UInt8) : Option (List Node) := nodesWithin? (bytes.length + 1) bytes

/-- A length written as short as it can be, below 65536. -/
def shortestLength? : List UInt8 → Option (Nat × List UInt8)
  | 0x81 :: a :: rest => if 128 ≤ a then some (a.toNat, rest) else none
  | 0x82 :: a :: b :: rest =>
    let n := 256 * a.toNat + b.toNat
    if 256 ≤ n then some (n, rest) else none
  | a :: rest => if a < 128 then some (a.toNat, rest) else none
  | [] => none

/-- The body of the element in front, which must have the tag, and what follows it. -/
def take? (tag : UInt8) : List UInt8 → Option (List UInt8 × List UInt8)
  | [] => none
  | b :: rest =>
    if b = tag then
      match shortestLength? rest with
      | some (length, rest) =>
        if length ≤ rest.length then some (rest.take length, rest.drop length) else none
      | none => none
    else none

end SessionAuth.Der
