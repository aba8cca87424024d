import SessionAuth.Text.Hex
import SessionAuth.Text.Utf8

/-!
# Percent escapes

A percent sign and two hexadecimal digits stand for a byte. A percent sign that is not
followed by two digits stands for itself. Some bytes may be kept in their escaped form.

## Main definitions

* `Percent.decodeBytes` — bytes with their escapes resolved
* `Percent.decodePath` — a path with its escapes resolved, but for `%`, `/` and `+`
-/

namespace SessionAuth.Percent

/-- The byte that two digits stand for. -/
def byte? (high low : UInt8) : Option UInt8 := do
  let h ← Hex.value? (Char.ofNat high.toNat)
  let l ← Hex.value? (Char.ofNat low.toNat)
  return UInt8.ofNat (16 * h + l)

/-- Bytes with their escapes resolved, but for those of bytes to keep. -/
def decodeBytes (keep : UInt8 → Bool) : List UInt8 → List UInt8
  | b :: high :: low :: rest =>
    if b = 0x25 then
      match byte? high low with
      | some value =>
        if keep value then b :: high :: low :: decodeBytes keep rest
        else value :: decodeBytes keep rest
      | none => b :: decodeBytes keep (high :: low :: rest)
    else b :: decodeBytes keep (high :: low :: rest)
  | bytes => bytes

/-- Bytes with all their escapes resolved. -/
def decodeAll (bytes : List UInt8) : List UInt8 := decodeBytes (fun _ => false) bytes

/-- Whether a byte stays escaped in a path: the percent sign, the slash and the plus sign. -/
def keptInPath (b : UInt8) : Bool := b = 0x25 || b = 0x2F || b = 0x2B

/-- A path with its escapes resolved, but for those that stay. Bytes that are not UTF-8
become replacement characters. -/
def decodePath (path : String) : String :=
  String.ofList (Utf8.lossy (decodeBytes keptInPath (Utf8.ofString path)))

/-- A segment of a path with all its escapes resolved, if that is UTF-8. -/
def decodeSegment? (segment : List Char) : Option (List Char) :=
  Utf8.text? (decodeAll (Utf8.encode segment))

end SessionAuth.Percent
