import SessionAuth.Crypto.Bcrypt
import SessionAuth.Crypto.Sha2
import SessionAuth.Text.Hex

/-!
# Stored secrets

Passwords and tokens are stored as slow hashes. A slow hash takes only the front of a
secret into account, and tokens of one account have long fronts in common, so tokens are
digested first. A stored hash of a token that cannot be read belongs to no token.

## Main definitions

* `SecretHasher` — how secrets are hashed and compared
* `SecretHasher.ofCore` — by a slow function at some cost
-/

namespace SessionAuth

/-- How secrets are hashed and compared. -/
structure SecretHasher where
  hashPassword : (salt : Bcrypt.Salt) → (password : String) → Except Bcrypt.Fault String
  verifyPassword : (password stored : String) → Except Bcrypt.Fault Bool
  hashToken : (salt : Bcrypt.Salt) → (token : String) → Except Bcrypt.Fault String
  verifyToken : (token stored : String) → Bool

namespace SecretHasher

/-- The digest of a token that is hashed in its place: 64 hexadecimal digits. -/
def tokenDigest (token : String) : List UInt8 :=
  Utf8.encode (Hex.encode (Sha2.sha256 (Utf8.ofString token)))

/-- Secrets hashed by a slow function at some cost. -/
def ofCore (core : Bcrypt.Core) (cost : Nat) : SecretHasher where
  hashPassword salt password := Bcrypt.hash core cost salt (Utf8.ofString password)
  verifyPassword password stored := Bcrypt.verify core (Utf8.ofString password) stored
  hashToken salt token := Bcrypt.hash core cost salt (tokenDigest token)
  verifyToken token stored :=
    match Bcrypt.verify core (tokenDigest token) stored with
    | .ok belongs => belongs
    | .error _ => false

/-- Secrets hashed by the slow function in use. -/
def ofCost (cost : Nat) : SecretHasher := ofCore Bcrypt.blowfish cost

end SecretHasher

end SessionAuth
