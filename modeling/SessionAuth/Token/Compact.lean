import SessionAuth.Json.Reader
import SessionAuth.Json.Record
import SessionAuth.Text.Base64
import SessionAuth.Text.Fields
import SessionAuth.Token.Claims
import SessionAuth.Token.Fault

/-!
# Signed tokens as text

A signed token is a text of three parts with dots between: a header, a payload and a
signature, each as base64 in the alphabet for URLs. Header and payload are JSON records.
The header says how the token is signed. The signature is made over the text of the first
two parts.

## Main definitions

* `Compact.Parts` — the three parts
* `Compact.split?`, `Compact.join` — parts and text
* `Compact.readHeader` — the way to sign that a header names
* `Compact.readClaims` — the claims of a payload, and whether it names an audience
-/

namespace SessionAuth.Compact

open Json (Value Field Literal required? optional?)

/-- The parts of a token as they are written. -/
structure Parts where
  header : List Char
  payload : List Char
  signature : List Char
  deriving DecidableEq

/-- The text that is signed: header and payload with a dot between. -/
def Parts.signed (parts : Parts) : List Char := parts.header ++ '.' :: parts.payload

/-- The text of a token. -/
def join (parts : Parts) : List Char := parts.signed ++ '.' :: parts.signature

/-- What stands before and behind the last dot of a text. -/
def splitLast? (text : List Char) : Option (List Char × List Char) :=
  match (Text.fields '.' text).reverse with
  | last :: front@(_ :: _) => some (Text.joined '.' front.reverse, last)
  | _ => none

/-- The parts of a token. Dots count from the end; further ones belong to the header. -/
def split? (text : List Char) : Option Parts := do
  let (signed, signature) ← splitLast? text
  let (header, payload) ← splitLast? signed
  return ⟨header, payload, signature⟩

/-- The ways to sign that a header may name. -/
def algorithms : List String :=
  ["HS256", "HS384", "HS512", "ES256", "ES384", "RS256", "RS384", "RS512", "PS256", "PS384",
    "PS512", "EdDSA"]

/-- The way in which tokens are signed here. -/
def algorithm : String := "EdDSA"

/-- The header of every token that is issued. -/
def header : Value := .record [("typ", .text "JWT"), ("alg", .text algorithm)]

/-- The fields of a header. -/
def headerLayout : List Field :=
  ["typ", "alg", "cty", "jku", "jwk", "kid", "x5u", "x5c", "x5t", "x5t#S256"].map .plain

/-! ## Keys in headers -/

/-- The algorithms that a key may be for. -/
def keyAlgorithms : List String :=
  ["HS256", "HS384", "HS512", "ES256", "ES384", "RS256", "RS384", "RS512", "PS256", "PS384",
    "PS512", "EdDSA", "RSA1_5", "RSA-OAEP", "RSA-OAEP-256"]

/-- Whether a value is a text among some names. -/
def isVariantOf (names : List String) (v : Value) : Bool := v.variant?.any (names.contains ·)

/-- Whether an object holds a text for a name. -/
def hasText (members : List (Literal × Value)) (name : String) : Bool :=
  match Json.member? members name with
  | some (some v) => v.text?.isSome
  | _ => false

/-- Whether an object holds one of some texts for a name. -/
def hasTextIn (members : List (Literal × Value)) (name : String) (texts : List String) : Bool :=
  match Json.member? members name with
  | some (some v) => isVariantOf texts v
  | _ => false

/-- The curves that a key may lie on. -/
def curves : List String := ["P-256", "P-384", "P-521", "Ed25519"]

/-- Whether an object describes a key of one of the types. -/
def hasKeyType (members : List (Literal × Value)) : Bool :=
  (hasTextIn members "kty" ["EC"] && hasTextIn members "crv" curves && hasText members "x" &&
    hasText members "y") ||
  (hasTextIn members "kty" ["RSA"] && hasText members "n" && hasText members "e") ||
  (hasTextIn members "kty" ["OKP"] && hasTextIn members "crv" curves && hasText members "x") ||
  (hasTextIn members "kty" ["oct"] && hasText members "k")

/-- Whether the fields that keys of every type may have are as they must be. -/
def hasCommonFields (members : List (Literal × Value)) : Bool :=
  let holds (name : String) (good : Value → Bool) : Bool :=
    match Json.member? members name with
    | some none => true
    | some (some .null) => true
    | some (some v) => good v
    | none => false
  let isText (v : Value) : Bool := v.text?.isSome
  let isTexts (v : Value) : Bool := (v.list? Value.text?).isSome
  holds "use" isText && holds "key_ops" isTexts && holds "alg" (isVariantOf keyAlgorithms) &&
    holds "kid" isText && holds "x5u" isText && holds "x5c" isTexts && holds "x5t" isText &&
    holds "x5t#S256" isText

/-- How deep a value that is kept whole may be nested inside a record. -/
def maxDepth : Nat := 126

/-- The key that a value describes; of the key itself nothing is kept. -/
def key? : Value → Option Unit
  | v@(.object members) =>
    if v.holdable maxDepth && hasKeyType members && hasCommonFields members then some ()
    else none
  | _ => none

/-! ## Headers and payloads -/

/-- The way to sign that a header names. -/
def readHeader (bytes : List UInt8) : Except TokenFault String :=
  let name? : Option String := do
    let v ← Json.parseBytes? bytes
    match ← v.fields? headerLayout with
    | [typ, alg, cty, jku, jwk, kid, x5u, x5c, x5t, x5t256] =>
      let name ← required? Value.variant? alg
      for text in [typ, cty, jku, kid, x5u, x5t, x5t256] do
        let _ ← optional? Value.text? text
      let _ ← optional? (Value.list? Value.text?) x5c
      let _ ← optional? key? jwk
      -- Any known name can be read; whether it is the right one is for the issuer to say.
      if algorithms.contains name then some name else none
    | _ => none
  match name? with
  | some name => .ok name
  | none => .error .json

/-- What a payload says of its audience. -/
inductive Audience where
  /-- Nothing, or nothing that counts. -/
  | unnamed
  /-- One text or several. -/
  | named
  deriving DecidableEq, Repr

/-- The audience of a member that may be there. A value that cannot be kept whole is passed
over if the fault was found behind it, and spoils the payload otherwise. -/
def audience? : Option Value → Option Audience
  | none => some .unnamed
  | some v =>
    match v with
    | .string (.text _) => some .named
    | .string (.broken atEnd) => if atEnd then some .unnamed else none
    | .array items =>
      if v.holdable maxDepth then
        if items.all (·.text?.isSome) then some .named else some .unnamed
      else none
    | .object _ => if v.holdable maxDepth then some .unnamed else none
    | _ => some .unnamed

/-- The claims of a payload, and what it says of its audience. -/
def readClaims (bytes : List UInt8) : Except TokenFault (Claims × Audience) :=
  let read? : Option (Claims × Audience) := do
    let v ← Json.parseBytes? bytes
    let claims ← Claims.ofJson? v
    match v with
    | .object members => return (claims, ← audience? (← Json.member? members "aud"))
    | _ => none
  match read? with
  | some read => .ok read
  | none => .error .json

/-! ## Texts -/

/-- The text of bytes in a token. -/
def encode (bytes : List UInt8) : List Char := Base64.encode Base64.urlSafe bytes

/-- The bytes of a text in a token. -/
def decode (text : List Char) : Except TokenFault (List UInt8) :=
  match Base64.decode? Base64.urlSafe text with
  | some bytes => .ok bytes
  | none => .error .base64

/-- The text of a JSON value in a token. -/
def encodeJson (v : Value) : List Char := encode (Utf8.encode v.render)

/-- The bytes of the text that is signed. -/
def Parts.signedBytes (parts : Parts) : List UInt8 := Utf8.encode parts.signed

end SessionAuth.Compact
