import SessionAuth.Character.Composition
import SessionAuth.Character.Direction
import SessionAuth.Character.Mark
import SessionAuth.Domain.Mapping
import SessionAuth.Domain.Punycode

/-!
# Domain names in ASCII

A domain name may be written with any letters. Its form in ASCII is found label by label:
characters are replaced by those that they stand for, the text is composed, and a label that
is still not in ASCII is encoded. A label that comes encoded is decoded first, so that it has
to keep the same rules.

## Main definitions

* `Domain.isValid` — a label keeps the rules for its characters
* `Domain.isDirected` — a label keeps the rules for writing directions
* `Domain.ascii?` — the form of a domain name in ASCII
-/

namespace SessionAuth.Domain

open Character (Direction direction)

/-- The characters that one character stands for in a domain name. -/
def images? (c : Char) : Option (List Char) :=
  match standing c with
  | .allowed => some [c]
  | .ignored => some []
  | .replaced images => some images
  | .refused => none

/-- A text with every character replaced by those that it stands for. -/
def mapped? (text : List Char) : Option (List Char) := (text.mapM images?).map List.flatten

/-- Whether a label starts with no mark and holds only characters that are allowed. -/
def isValid (label : List Char) : Bool :=
  !label.head?.any Character.isMark && label.all fun c => standing c = .allowed

/-- What an encoded label starts with. -/
def encodedMark : List Char := ['x', 'n', '-', '-']

/-- A label of a mapped and composed text: an encoded one is decoded, and has to be composed
as it stands. -/
def label? (text : List Char) : Option (List Char) := do
  let label ←
    if encodedMark.isPrefixOf text then
      let label ← Punycode.decode? (text.drop 4)
      if Character.composed label = label then some label else none
    else some text
  if isValid label then return label else none

/-! ### Writing directions -/

/-- Whether a text holds a character that is written from right to left. -/
def isRightToLeft (text : List Char) : Bool :=
  text.any fun c => direction c = .rightToLeft || direction c = .arabicNumber

/-- The last character that is not a mark. -/
def lastDirection? (directions : List Direction) : Option Direction :=
  directions.reverse.find? (· ≠ .mark)

/-- Whether a label of a domain name with text from right to left has one direction: it starts
with a letter, holds nothing of the other direction, ends with a letter or a digit, and holds
digits of one kind. -/
def isDirected (label : List Char) : Bool :=
  let directions := label.map direction
  match directions with
  | [] => true
  | .leftToRight :: rest =>
    rest.all [.leftToRight, .europeanNumber, .neutral, .mark].contains &&
      (lastDirection? directions).any [.leftToRight, .europeanNumber].contains
  | .rightToLeft :: rest =>
    rest.all [.rightToLeft, .arabicNumber, .europeanNumber, .neutral, .mark].contains &&
      (lastDirection? directions).any [.rightToLeft, .europeanNumber, .arabicNumber].contains &&
      !(rest.contains .europeanNumber && rest.contains .arabicNumber)
  | _ :: _ => false

/-! ### The form in ASCII -/

/-- A label in ASCII. -/
def encoded (label : List Char) : List Char :=
  if label.all fun c => c.toNat < 128 then label else encodedMark ++ Punycode.encode label

/-- The form of a domain name in ASCII, if it has one. -/
def ascii? (domain : List Char) : Option (List Char) := do
  let text ← mapped? domain
  let labels ← (Text.fields '.' (Character.composed text)).mapM label?
  if labels.any isRightToLeft && !labels.all isDirected then none
  return Text.joined '.' (labels.map encoded)

end SessionAuth.Domain
