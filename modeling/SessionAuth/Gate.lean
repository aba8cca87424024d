import SessionAuth.Csrf
import SessionAuth.PersonalToken.Lifecycle
import SessionAuth.Policy
import SessionAuth.Settings

/-!
# The gate

Every request passes the gate before anything is done for it. Exempt paths pass freely.
Other requests need a credential, from the authorisation header or else from the access
cookie, and pass these checks in order, the first failure deciding:

1. there is a credential;
2. it is a token that holds and is no refresh token;
3. the account that it names exists;
4. the account is neither banned nor locked;
5. a credential from a cookie is guarded against forged requests;
6. a personal token works by its record;
7. the policy allows one of the roles of the token, counting only roles that the account
   still covers.

## Main definitions

* `GateRequest` — what the gate sees of a request
* `Caller` — what the gate established of a request that passed
* `Gate.authorize` — the gate
-/

namespace SessionAuth

/-- What the gate sees of a request. -/
structure GateRequest where
  method : String
  path : String
  bearer : Option String
  accessCookie : Option String
  csrfCookie : Option String
  csrfHeader : Option String

/-- The credential of a request and where it came from. Empty texts do not count. -/
def GateRequest.credential? (request : GateRequest) : Option (String × CredentialSource) :=
  match request.bearer.filter (· ≠ "") with
  | some token => some (token, .header)
  | none => (request.accessCookie.filter (· ≠ "")).map fun token => (token, .cookie)

/-- What the gate established of a request that passed. -/
structure Caller where
  claims : Claims
  account : Account
  source : CredentialSource
  deriving DecidableEq

/-- How a request passes. -/
inductive GateOutcome where
  | exempt
  | allowed (caller : Caller)
  deriving DecidableEq

/-- What the gate decides by. -/
structure Gate where
  settings : AuthSettings
  issuer : TokenIssuer
  hasher : SecretHasher
  policy : PolicyEngine

namespace Gate

/-- The guard against forged requests. -/
def guard (gate : Gate) : CsrfGuard := ⟨gate.settings.csrfSecret, gate.settings.csrfHeader⟩

/-- The claims of a credential that may authorise requests. -/
def claimsOf (gate : Gate) (now : Instant) (token : String) : Except AuthError Claims :=
  match gate.issuer.validate now token with
  | .error e => .error e
  | .ok claims => if claims.kind = .refresh then .error .refreshTokenAsCredential else .ok claims

/-- Checks a request with a credential from a cookie. -/
def checkForgery (gate : Gate) (request : GateRequest) (token : String)
    (source : CredentialSource) : Except AuthError Unit :=
  if CsrfGuard.applies source request.method then
    gate.guard.verify token request.csrfCookie request.csrfHeader
  else .ok ()

/-- Checks a personal token by its record. -/
def checkPersonal (gate : Gate) (now : Instant) (claims : Claims) (token : String) :
    Action Unit := do
  match ← Action.askBounded (.findToken claims.id) with
  | none => throw .unknownPersonalToken
  | some record =>
    if record.owner ≠ claims.subject then throw .unknownPersonalToken
    Action.ofExcept (PersonalTokens.check ⟨gate.issuer, gate.hasher⟩ now record token)

/-- The roles of a token that its account still covers. -/
def effectiveRoles (claims : Claims) (account : Account) : List Role :=
  claims.roles.filter fun role => account.role.covers role

/-- The error in place of one that the policy answered: every failure of the policy makes the
service unavailable. -/
def policyError (error : AuthError) : AuthError :=
  if error.kind = .serviceUnavailable then error else .policyFailed error

/-- Asks the policy for one role after the other until one is allowed. -/
def checkRoles (policy : PolicyEngine) (path method : String) : List Role → Except AuthError Unit
  | [] => .error .insufficientRole
  | role :: rest =>
    match policy.enforce role.name path method with
    | .error error => .error (policyError error)
    | .ok true => .ok ()
    | .ok false => checkRoles policy path method rest

/-- Checks a request that is not exempt. -/
def examine (gate : Gate) (now : Instant) (request : GateRequest) : Action Caller := do
  match request.credential? with
  | none => throw .missingToken
  | some (token, source) =>
    let claims ← Action.ofExcept (gate.claimsOf now token)
    match ← Action.askBounded (.findAccount claims.subject) with
    | none => throw .unknownSubject
    | some account =>
      Action.ofExcept account.checkStatus
      Action.ofExcept (gate.checkForgery request token source)
      if claims.kind = .personal then gate.checkPersonal now claims token
      Action.ofExcept
        (checkRoles gate.policy request.path request.method (effectiveRoles claims account))
      return ⟨claims, account, source⟩

/-- Lets a request pass or refuses it. -/
def authorize (gate : Gate) (now : Instant) (request : GateRequest) : Action GateOutcome :=
  if gate.settings.isExempt request.path then return .exempt
  else return .allowed (← gate.examine now request)

end Gate

end SessionAuth
