import SessionAuth.Text.Fields
import SessionAuth.Text.Hex

/-!
# Character tables

Properties of characters are kept as texts and read from there: a set is written as spans
of hexadecimal code points (`300-36F 483`), a replacement as rows. A row gives the images of
consecutive characters one by one (`BC>31+2044+34,31+2044+32`), or those of characters at
even distances, whose images lie at the same distances (`41-5A>61`, `100-12E/2>101`).

## Main definitions

* `Character.Span`, `Character.spansOf` — sets of characters
* `Character.Row`, `Character.rowsOf` — replacements of characters
-/

namespace SessionAuth.Character

/-- The number that hexadecimal digits stand for; other characters count as zero. -/
def codePoint (digits : List Char) : Nat :=
  digits.foldl (fun n c => 16 * n + (Hex.value? c).getD 0) 0

/-- The pieces of a text between blanks and line ends. -/
def words (text : List Char) : List (List Char) :=
  (Text.fields ' ' (text.map fun c => if c = '\n' then ' ' else c)).filter (· ≠ [])

/-- The characters from `first` to `last`. -/
structure Span where
  first : Nat
  last : Nat

/-- Whether a character lies in a span. -/
def Span.contains (span : Span) (c : Char) : Bool := span.first ≤ c.toNat && c.toNat ≤ span.last

/-- The span that a word stands for. -/
def spanOf (word : List Char) : Span :=
  match Text.cut? ['-'] word with
  | some (first, last) => ⟨codePoint first, codePoint last⟩
  | none => ⟨codePoint word, codePoint word⟩

/-- The spans that a text lists. -/
def spansOf (text : String) : List Span := (words text.toList).map spanOf

/-- Whether a character lies in one of some spans. -/
def isWithin (spans : List Span) (c : Char) : Bool := spans.any fun span => span.contains c

/-- A row of a replacement. -/
inductive Row where
  /-- The characters `first`, `first + step`, … up to `last` become `image`, `image + step`, … -/
  | shifted (first last step image : Nat)
  /-- The characters from `first` on become the images in turn. -/
  | listed (first : Nat) (images : List (List Char))

/-- What a row makes of a character, if it is about that character. -/
def Row.image? (c : Char) : Row → Option (List Char)
  | .shifted first last step image =>
    if first ≤ c.toNat ∧ c.toNat ≤ last ∧ (c.toNat - first) % step = 0 then
      some [Char.ofNat (image + (c.toNat - first))]
    else none
  | .listed first images => if first ≤ c.toNat then images[c.toNat - first]? else none

/-- The characters that hexadecimal code points with plus signs between stand for. -/
def imageOf (word : List Char) : List Char :=
  (Text.fields '+' word).map fun digits => Char.ofNat (codePoint digits)

/-- The row that a word stands for. -/
def rowOf (word : List Char) : Row :=
  match Text.cut? ['>'] word with
  | none => .listed 0 []
  | some (source, target) =>
    match Text.cut? ['-'] source with
    | none => .listed (codePoint source) ((Text.fields ',' target).map imageOf)
    | some (first, rest) =>
      match Text.cut? ['/'] rest with
      | none => .shifted (codePoint first) (codePoint rest) 1 (codePoint target)
      | some (last, step) =>
        .shifted (codePoint first) (codePoint last) (codePoint step) (codePoint target)

/-- The rows that a text lists. -/
def rowsOf (text : String) : List Row := (words text.toList).map rowOf

/-- What the first row about a character makes of it. -/
def image? (rows : List Row) (c : Char) : Option (List Char) := rows.findSome? (Row.image? c)

end SessionAuth.Character
