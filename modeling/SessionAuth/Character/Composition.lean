import SessionAuth.Character.Composition.Table

/-!
# Composed text

A letter with its marks can often be written in several ways. In composed text every
character is first taken apart, the marks behind each letter are put into the order of their
classes, and each mark is then joined to the letter before it where a character for the two
exists.

## Main definitions

* `Character.combiningClass` — zero for characters that start a cluster
* `Character.decomposed` — a text taken apart, its marks in order
* `Character.composed` — a text in its composed form
-/

namespace SessionAuth.Character

/-- The class of a mark; zero for a character that starts a cluster. -/
def combiningClass (c : Char) : Nat :=
  ((markClasses.find? fun entry => isWithin entry.2 c).map (·.1)).getD 0

/-! ### Syllables of Hangul -/

/-- The first syllable. -/
def syllableBase : Nat := 0xAC00

/-- The first leading consonant. -/
def leadBase : Nat := 0x1100

/-- The first vowel. -/
def vowelBase : Nat := 0x1161

/-- The code point before the first trailing consonant. -/
def trailBase : Nat := 0x11A7

/-- The letters of a syllable. There are nineteen leading consonants, twenty-one vowels, and
twenty-eight ways to end, one of them without a trailing consonant. -/
def syllableParts? (c : Char) : Option (List Char) :=
  let n := c.toNat - syllableBase
  if syllableBase ≤ c.toNat ∧ n < 19 * 21 * 28 then
    let trail := if n % 28 = 0 then [] else [Char.ofNat (trailBase + n % 28)]
    some (Char.ofNat (leadBase + n / 588) :: Char.ofNat (vowelBase + n % 588 / 28) :: trail)
  else none

/-- The syllable of a leading consonant and a vowel, or of a syllable without a trailing
consonant and one. -/
def syllable? (a b : Char) : Option Char :=
  let lead := a.toNat - leadBase
  let vowel := b.toNat - vowelBase
  let body := a.toNat - syllableBase
  let trail := b.toNat - trailBase
  if leadBase ≤ a.toNat ∧ lead < 19 ∧ vowelBase ≤ b.toNat ∧ vowel < 21 then
    some (Char.ofNat (syllableBase + (lead * 21 + vowel) * 28))
  else if syllableBase ≤ a.toNat ∧ body < 19 * 21 * 28 ∧ body % 28 = 0 ∧
      trailBase < b.toNat ∧ trail < 28 then
    some (Char.ofNat (a.toNat + trail))
  else none

/-! ### Taking apart -/

/-- The characters that a character stands for, followed up to `depth` times. -/
def parts : (depth : Nat) → Char → List Char
  | 0, c => [c]
  | depth + 1, c =>
    match image? decompositionRows c with
    | some images => images.flatMap (parts depth)
    | none => (syllableParts? c).getD [c]

/-- The characters that a character stands for in the end; four steps are the most that any
character needs. -/
def canonicalParts (c : Char) : List Char := parts 4 c

/-- A mark put before those of higher classes at the end of a reversed text. -/
def insertMark (rank : Nat) (c : Char) : List Char → List Char
  | [] => [c]
  | d :: rest =>
    if rank < combiningClass d then d :: insertMark rank c rest else c :: d :: rest

/-- Marks between two other characters put into the order of their classes, those of one
class in the order in which they come. -/
def inOrder (text : List Char) : List Char :=
  (text.foldl (fun reversed c =>
    let rank := combiningClass c
    if rank = 0 then c :: reversed else insertMark rank c reversed) []).reverse

/-- A text taken apart, its marks in order. -/
def decomposed (text : List Char) : List Char := inOrder (text.flatMap canonicalParts)

/-! ### Putting together -/

/-- The pairs that are put together, with what they become. -/
def compositions : List ((Char × Char) × Char) :=
  decompositionRows.flatMap fun
    | .shifted .. => []
    | .listed first images =>
      images.zipIdx.filterMap fun (image, n) =>
        let c := Char.ofNat (first + n)
        match image with
        | [a, b] => if isWithin uncomposed c then none else some ((a, b), c)
        | _ => none

/-- The one character for two. -/
def composition? (a b : Char) : Option Char :=
  match syllable? a b with
  | some c => some c
  | none => compositions.lookup (a, b)

/-- A text that is being put together: what is finished, in reverse, the character that
started the last cluster, and the marks behind it that were not joined to it, in reverse. -/
structure Cluster where
  done : List Char
  start? : Option Char
  marks : List Char

/-- The characters of a text that is being put together, in reverse. -/
def Cluster.reversed (s : Cluster) : List Char := s.marks ++ s.start?.toList ++ s.done

/-- One more character. It is joined to the start of the cluster unless a mark of its class
or a higher one stands between. -/
def Cluster.push (s : Cluster) (c : Char) : Cluster :=
  let rank := combiningClass c
  let isBlocked := s.marks.head?.any fun m => rank ≤ combiningClass m
  match s.start?.bind fun a => if isBlocked then none else composition? a c with
  | some joined => { s with start? := some joined }
  | none =>
    if rank = 0 then ⟨s.reversed, some c, []⟩ else { s with marks := c :: s.marks }

/-- A text in its composed form. -/
def composed (text : List Char) : List Char :=
  ((decomposed text).foldl Cluster.push ⟨[], none, []⟩).reversed.reverse

end SessionAuth.Character
