import SessionAuth.Session
import SessionAuth.Time.Rfc3339

/-!
# The life of a personal token

A personal token is made from the claims of the caller, with a name that no other active
token of theirs has and an expiry that lies ahead. It carries the roles of the claims it
was made from. It works until it is revoked, which can be done once, or until its stored
expiry has passed.

## Main definitions

* `PersonalTokens.create`, `PersonalTokens.revoke` — its start and its end
* `PersonalTokens.read`, `PersonalTokens.list`, `PersonalTokens.findNamed` — its record
* `PersonalTokens.check` — whether it works
-/

namespace SessionAuth

/-- What personal tokens need: an issuer of tokens and a way to store secrets. -/
structure PersonalTokens where
  issuer : TokenIssuer
  hasher : SecretHasher

namespace PersonalTokens

/-- The start of the day that a text names. -/
def expiryOf (text : String) : Except AuthError Instant :=
  match (Date.parse? text.toList).bind Instant.ofDate? with
  | some expiry => .ok expiry
  | none => .error (.notADate text)

/-- Makes a token with a name and an expiry from the claims of the caller. -/
def create (tokens : PersonalTokens) (occasion : Occasion) (caller : Claims)
    (name expiry : String) : Action CreatedToken := do
  if (← Action.ask (.findActiveToken caller.subject name)).isSome then
    throw (.tokenNameTaken name)
  let expiresAt ← Action.ofExcept (expiryOf expiry)
  if expiresAt ≤ occasion.now then throw .expiryPast
  let issued ← Action.lift IssueFault.toError
    (tokens.issuer.issuePersonal occasion.now occasion.recordId caller.subject
      (expiresAt.since occasion.now) caller.roles)
  let hash ← Action.lift .tokenNotHashed
    (tokens.hasher.hashToken occasion.tokenSalt issued.token)
  let record : PersonalToken := {
    id := occasion.recordId
    owner := caller.subject
    name := name
    createdAt := occasion.now
    expiresAt := expiresAt
    tokenHash := hash
    revoked := false }
  -- The store looks at the name again: another token may have taken it meanwhile.
  Action.ask (.insertToken record)
  return ⟨record.view, issued.token⟩

/-- The record of an identifier. -/
def read (_ : PersonalTokens) (id : Uuid) : Action PersonalToken := do
  match ← Action.ask (.findToken id) with
  | some record => return record
  | none => throw (.noTokenId id)

/-- The records of an owner, the newest first. -/
def list (_ : PersonalTokens) (owner : Int32) : Action (List PersonalToken) :=
  Action.ask (.tokensOf owner)

/-- The record of an owner that has a name and is not revoked. -/
def findNamed (_ : PersonalTokens) (owner : Int32) (name : String) : Action PersonalToken := do
  match ← Action.ask (.findActiveToken owner name) with
  | some record => return record
  | none => throw (.noTokenName name)

/-- Revokes the token of a record, given the record as it was loaded. -/
def revoke (_ : PersonalTokens) (record : PersonalToken) : Action Unit := do
  if record.revoked then throw .alreadyRevoked
  if !(← Action.ask (.revokeToken record.id)) then throw .alreadyRevoked

/-- Checks that a presented token works: it is the one of the record, the record is not
revoked, and its expiry has not passed. -/
def check (tokens : PersonalTokens) (now : Instant) (record : PersonalToken)
    (presented : String) : Except AuthError Unit :=
  if !tokens.hasher.verifyToken presented record.tokenHash then .error .personalTokenMismatch
  else if record.revoked then .error .personalTokenRevoked
  else if record.expiresAt < now then .error .personalTokenExpired
  else .ok ()

end PersonalTokens

end SessionAuth
