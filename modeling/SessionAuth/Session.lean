import SessionAuth.Occasion
import SessionAuth.Program
import SessionAuth.Secret
import SessionAuth.Token.Issuer

/-!
# Sessions

A session starts with a login, which hands out an access token and a refresh token and
stores the hash of the latter. The refresh token can be exchanged for a new pair once: the
exchange replaces the stored hash, and only if that is still the one the token was compared
with. A logout removes the hash.

## Main definitions

* `Sessions.authenticate` — the account of an email address and a password
* `Sessions.login`, `Sessions.refresh`, `Sessions.exchange`, `Sessions.logout`
-/

namespace SessionAuth

/-- The tokens of a session. -/
structure SessionTokens where
  access : IssuedToken
  refresh : IssuedToken
  deriving DecidableEq

/-- What sessions need: an issuer of tokens and a way to store secrets. -/
structure Sessions where
  issuer : TokenIssuer
  hasher : SecretHasher

/-- The error of a token that cannot be issued. -/
def IssueFault.toError : IssueFault → AuthError
  | lifetime => .lifetimeOutOfRange
  | key fault => .tokenNotSigned fault

/-- Refuses accounts that are banned or locked; being banned counts first. -/
def Account.checkStatus (account : Account) : Except AuthError Unit :=
  if account.banned then .error .banned
  else if account.locked then .error .locked
  else .ok ()

namespace Sessions

/-- The account of an email address and a password. An address without an account and a
wrong password are answered alike. -/
def authenticate (sessions : Sessions) (email password : String) : Action Account := do
  match ← Action.ask (.findByEmail email) with
  | none => throw .wrongCredentials
  | some account =>
    let belongs ← Action.lift .passwordNotVerified
      (sessions.hasher.verifyPassword password account.passwordHash)
    if !belongs then throw .wrongCredentials
    Action.ofExcept account.checkStatus
    return account

/-- New tokens for an account. The access token carries the role of the account. -/
def issuePair (sessions : Sessions) (occasion : Occasion) (account : Account) :
    Except IssueFault SessionTokens := do
  let access ← sessions.issuer.issueAccess occasion.now occasion.accessId account.id [account.role]
  let refresh ← sessions.issuer.issueRefresh occasion.now occasion.refreshId account.id
  return ⟨access, refresh⟩

/-- Starts a session for an account. -/
def login (sessions : Sessions) (occasion : Occasion) (account : Account) :
    Action SessionTokens := do
  let tokens ← Action.lift IssueFault.toError (sessions.issuePair occasion account)
  let hash ← Action.lift .tokenNotHashed
    (sessions.hasher.hashToken occasion.tokenSalt tokens.refresh.token)
  Action.ask (.recordLogin account.id hash occasion.now)
  return tokens

/-- The hash of the refresh token that an account accepts. -/
def acceptedHash (account : Account) : Except AuthError String :=
  match account.refreshHash with
  | some hash => if hash = "" then .error .noSession else .ok hash
  | none => .error .noSession

/-- Exchanges a refresh token for new tokens, given the account as it was loaded. -/
def refresh (sessions : Sessions) (occasion : Occasion) (account : Account)
    (presented : String) : Action SessionTokens := do
  let stored ← Action.ofExcept (acceptedHash account)
  if !sessions.hasher.verifyToken presented stored then throw .refreshTokenMismatch
  let tokens ← Action.lift IssueFault.toError (sessions.issuePair occasion account)
  let hash ← Action.lift .tokenNotHashed
    (sessions.hasher.hashToken occasion.tokenSalt tokens.refresh.token)
  -- The account may have changed since it was loaded, so the store compares once more.
  let swapped ← Action.ask (.swapRefreshHash account.id stored hash occasion.now)
  if !swapped then throw .refreshTokenUsed
  return tokens

/-- Exchanges a refresh token for new tokens of the account that it names. -/
def exchange (sessions : Sessions) (occasion : Occasion) (presented : String) :
    Action (Account × SessionTokens) := do
  let claims ← Action.ofExcept (sessions.issuer.validate occasion.now presented)
  if claims.kind ≠ .refresh then throw .notRefreshToken
  match ← Action.ask (.findAccount claims.subject) with
  | none => throw .unknownSubject
  | some account =>
    Action.ofExcept account.checkStatus
    let tokens ← sessions.refresh occasion account presented
    return (account, tokens)

/-- Ends the session of an account. -/
def logout (_ : Sessions) (occasion : Occasion) (account : Account) : Action Unit :=
  Action.ask (.recordLogout account.id occasion.now)

end Sessions

end SessionAuth
