import SessionAuth.Crypto.Ed25519
import SessionAuth.Key.Der
import SessionAuth.Key.Pem

/-!
# Signing keys

A key pair signs messages with its private half and verifies signatures with its public
half. Both halves are read from labelled blocks of text that hold tagged binary data. A
private half may turn out to be of no use only when it is first asked to sign.

## Main definitions

* `KeyPair` — what the two halves do
* `KeyPair.ofPem` — the pair of a private and a public text
* `KeyPair.ofFiles` — the pair of texts that may be missing
* `KeyFault`, `KeyError` — what is wrong with a key

A key pair is given by what it does, so that what rests on signatures can be said of
every scheme that signs.
-/

namespace SessionAuth

/-- What is wrong with the text of a key. -/
inductive KeyFault where
  /-- The text holds no key of the right kind. -/
  | format
  /-- The key is not of use. -/
  | unusable
  deriving DecidableEq, Repr

/-- What is reported of a fault. -/
def KeyFault.message : KeyFault → String
  | format => "InvalidKeyFormat"
  | unusable => "InvalidEcdsaKey"

/-- Why there is no key pair. -/
inductive KeyError where
  | signing (fault : KeyFault)
  | verification (fault : KeyFault)
  | unreadable (path : String)
  deriving DecidableEq, Repr

/-- What is reported of a missing key pair. -/
def KeyError.message : KeyError → String
  | signing fault => "Invalid signing key: " ++ fault.message
  | verification fault => "Invalid verification key: " ++ fault.message
  | unreadable path => "Failed to read key " ++ path

/-- What the two halves of a key pair do. -/
structure KeyPair where
  /-- The signature of a message. -/
  sign : List UInt8 → Except KeyFault (List UInt8)
  /-- Whether a signature belongs to a message. -/
  verify : (message signature : List UInt8) → Bool

namespace KeyPair

/-- The kinds of key that are told apart. -/
inductive Kind where
  | ellipticCurve
  | rsa
  | edwards
  deriving DecidableEq

/-- The kind of key that an object identifier names. -/
def kindOfArcs? (arcs : List Nat) : Option Kind :=
  if arcs = [1, 2, 840, 10045, 2, 1] then some .ellipticCurve
  else if arcs = [1, 2, 840, 113549, 1, 1, 1] then some .rsa
  else if arcs = [1, 3, 101, 112] then some .edwards
  else none

mutual

/-- The kind of key that the first known identifier in an element names. -/
def kindOfNode? : Der.Node → Option Kind
  | .sequence items => kindOfNodes? items
  | .identifier arcs => kindOfArcs? arcs
  | _ => none

/-- The kind of key that the first known identifier in some elements names. -/
def kindOfNodes? : List Der.Node → Option Kind
  | [] => none
  | node :: rest => (kindOfNode? node).or (kindOfNodes? rest)

end

mutual

/-- The first string of bits or bytes in an element. -/
def stringOfNode? : Der.Node → Option (List UInt8)
  | .sequence items => stringOfNodes? items
  | .bits bytes => some bytes
  | .octets bytes => some bytes
  | _ => none

/-- The first string of bits or bytes in some elements. -/
def stringOfNodes? : List Der.Node → Option (List UInt8)
  | [] => none
  | node :: rest => (stringOfNode? node).or (stringOfNodes? rest)

end

/-- The labels of blocks that hold keys of any kind. -/
def keyLabels : List String := ["PRIVATE KEY", "PUBLIC KEY", "CERTIFICATE"]

/-- The block and the elements of a text that holds a key of the Edwards curve. -/
def edwardsBlock? (text : String) : Option (Pem.Block × List Der.Node) := do
  let block ← Pem.parse? text.toList
  let nodes ← Der.nodes? block.data
  if keyLabels.any (block.label = ·.toList) ∧ kindOfNodes? nodes = some .edwards then
    some (block, nodes)
  else none

/-- The label of private halves. -/
def privateLabel : List Char := "PRIVATE KEY".toList

/-- The binary data of a private half. -/
def privateData? (text : String) : Except KeyFault (List UInt8) :=
  match edwardsBlock? text with
  | some (block, _) => if block.label = privateLabel then .ok block.data else .error .format
  | none => .error .format

/-- The bytes of a public half. -/
def publicBytes? (text : String) : Except KeyFault (List UInt8) :=
  match edwardsBlock? text with
  | some (block, nodes) =>
    if block.label = privateLabel then .error .format
    else
      match stringOfNodes? nodes with
      | some bytes => .ok bytes
      | none => .error .unusable
  | none => .error .format

/-- The name of the signature scheme, as private halves hold it. -/
def schemeName : List UInt8 := [0x06, 0x03, 0x2b, 0x65, 0x70]

/-- The public key that a private half may carry behind its seed. -/
def carriedPublic? (bytes : List UInt8) : Option (List UInt8) := do
  match Der.take? 0xA1 bytes with
  | some (inner, rest) =>
    let (bits, after) ← Der.take? 0x03 inner
    if rest = [] ∧ after = [] ∧ bits.head? = some 0 then some bits.tail else none
  | none =>
    let (bits, rest) ← Der.take? 0x81 bytes
    if rest = [] ∧ bits.head? = some 0 then some bits.tail else none

/-- The seed of a private half. The second version of the format carries the public key
as well, which must belong to the seed. -/
def seed? (data : List UInt8) : Option (List UInt8) := do
  let (body, after) ← Der.take? 0x30 data
  let (version, rest) ← Der.take? 0x02 body
  let (scheme, rest) ← Der.take? 0x30 rest
  let (wrapped, rest) ← Der.take? 0x04 rest
  -- Attributes may stand behind the key; nothing is read from them.
  let rest := ((Der.take? 0xA0 rest).map (·.2)).getD rest
  let (seed, inner) ← Der.take? 0x04 wrapped
  if after = [] ∧ scheme = schemeName ∧ inner = [] ∧ seed.length = 32 then
    if version = [0] then
      if rest = [] then some seed else none
    else if version = [1] then
      if carriedPublic? rest = some (Ed25519.publicKey seed) then some seed else none
    else none
  else none

/-- The pair that signs with the data of a private half and verifies with the bytes of a
public half. -/
def ofData (data key : List UInt8) : KeyPair where
  sign message :=
    match seed? data with
    | some seed => .ok (Ed25519.sign seed message)
    | none => .error .unusable
  verify message signature := Ed25519.verify key message signature

/-- The pair of a private and a public text. A fault in the private one counts first. -/
def ofPem (privateText publicText : String) : Except KeyError KeyPair :=
  match privateData? privateText with
  | .error fault => .error (.signing fault)
  | .ok data =>
    match publicBytes? publicText with
    | .error fault => .error (.verification fault)
    | .ok key => .ok (ofData data key)

/-- A file: its path, and its text if it can be read. -/
structure File where
  path : String
  text? : Option String

/-- The pair of a private and a public file. -/
def ofFiles (privateFile publicFile : File) : Except KeyError KeyPair :=
  match privateFile.text? with
  | none => .error (.unreadable privateFile.path)
  | some privateText =>
    match publicFile.text? with
    | none => .error (.unreadable publicFile.path)
    | some publicText => ofPem privateText publicText

end KeyPair

end SessionAuth
