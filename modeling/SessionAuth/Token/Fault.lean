/-!
# Faults of signed tokens

## Main definitions

* `TokenFault` — why a signed token does not hold
-/

namespace SessionAuth

/-- Why a signed token does not hold. -/
inductive TokenFault where
  /-- It does not have three parts. -/
  | malformed
  /-- A part is not in base64. -/
  | base64
  /-- Header or payload cannot be read. -/
  | json
  /-- The header names another way to sign. -/
  | algorithm
  /-- The signature does not belong to header and payload. -/
  | signature
  /-- A claim is not there, or not as it must be. -/
  | missingClaim (name : String)
  | expired
  | notYetValid
  | issuer
  | audience
  deriving DecidableEq, Repr

/-- What is reported of a fault. -/
def TokenFault.message : TokenFault → String
  | malformed => "InvalidToken"
  | base64 => "Base64 error"
  | json => "JSON error"
  | algorithm => "InvalidAlgorithm"
  | signature => "InvalidSignature"
  | missingClaim name => "Missing required claim: " ++ name
  | expired => "ExpiredSignature"
  | notYetValid => "ImmatureSignature"
  | issuer => "InvalidIssuer"
  | audience => "InvalidAudience"

end SessionAuth
