import SessionAuth.Text.Base64
import SessionAuth.Text.Blank
import SessionAuth.Text.Fields

/-!
# Labelled blocks of text

Binary data travels in text between the lines `-----BEGIN label-----` and
`-----END label-----`, in base64 that may be broken into lines. Header lines with a colon
may stand in front of the data, with an empty line behind them. Text around the block is
passed over; of several blocks the first counts.

## Main definitions

* `Pem.Block` — a label and some data
* `Pem.parse?` — the first block of a text
-/

namespace SessionAuth.Pem

/-- A label and some data. -/
structure Block where
  label : List Char
  data : List UInt8

/-- Whether a character may stand between the first line and the data. -/
def isSpace (c : Char) : Bool := c = ' ' || c = '\t' || c = '\n' || c = '\r'

/-- The header lines and the data of what stands between the outer lines. -/
def splitHeaders (inner : List Char) : List Char × List Char :=
  match Text.cut? ['\n', '\n'] inner with
  | some parts => parts
  | none => (Text.cut? ['\r', '\n', '\r', '\n'] inner).getD ([], inner)

/-- Whether every header line has a colon. -/
def headersValid (headers : List Char) : Bool :=
  headers = [] || (Text.fields '\n' headers).all (·.contains ':')

/-- The data of lines of base64, each without the blanks at its end. -/
def data? (text : List Char) : Option (List UInt8) :=
  Base64.decodePadded? Base64.common ((Text.fields '\n' text).flatMap Text.trimEnd)

/-- The first block of a text. -/
def parse? (text : List Char) : Option Block := do
  let dashes := "-----".toList
  let (_, rest) ← Text.cut? "-----BEGIN ".toList text
  let (label, rest) ← Text.cut? dashes rest
  let (inner, rest) ← Text.cut? "-----END ".toList (rest.dropWhile isSpace)
  let (closing, _) ← Text.cut? dashes rest
  let (headers, body) := splitHeaders inner
  if label ≠ [] ∧ label = closing then
    let data ← data? body
    if headersValid headers then some ⟨label, data⟩ else none
  else none

end SessionAuth.Pem
