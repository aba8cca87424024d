import SessionAuth.Cookie
import SessionAuth.Form.Body
import SessionAuth.Gate
import SessionAuth.Http.Request
import SessionAuth.Http.Response
import SessionAuth.Http.Route

/-!
# The service

The service answers requests. What each endpoint does is an action, whose error becomes a
response. Endpoints that need a caller get what the gate established.

An account may change the status of accounts that rank below it, and with the highest role
that of any account. A personal token exists for its owner and for administrators.

## Main definitions

* `Service` — settings, issuer, hasher and policy
* `Service.answer` — what an endpoint does
* `App`, `App.handle` — the service behind the gate, or by itself
-/

namespace SessionAuth

/-- What the service works with. -/
structure Service where
  settings : AuthSettings
  issuer : TokenIssuer
  hasher : SecretHasher
  policy : PolicyEngine

namespace Service

/-- The service of some settings, if the lifetimes in them can be represented. -/
def ofSettings? (settings : AuthSettings) (keys : KeyPair) (policy : PolicyEngine) :
    Option Service :=
  (TokenIssuer.ofLifetimes? keys settings.issuer settings.accessMinutes settings.refreshDays).map
    fun issuer => ⟨settings, issuer, .ofCost settings.hashCost, policy⟩

/-- The sessions of the service. -/
def sessions (service : Service) : Sessions := ⟨service.issuer, service.hasher⟩

/-- The personal tokens of the service. -/
def personalTokens (service : Service) : PersonalTokens := ⟨service.issuer, service.hasher⟩

/-- The gate of the service. -/
def gate (service : Service) : Gate :=
  ⟨service.settings, service.issuer, service.hasher, service.policy⟩

/-- The cookies of the service. -/
def cookies (service : Service) : SessionCookies := ⟨!service.settings.isLocal, service.gate.guard⟩

/-- The version that the service reports. -/
def version : String := "0.1.0"

/-! ## What endpoints share -/

/-- The response to the start of a session. -/
def grant (service : Service) (now : Instant) (status : Nat) (userId : Int32)
    (tokens : SessionTokens) : Except AuthError Response := do
  let cookies ← service.cookies.issued now
    ⟨tokens.access.token, tokens.access.claims.expires⟩
    ⟨tokens.refresh.token, tokens.refresh.claims.expires⟩
  return ⟨status, some (SessionGrant.toJson ⟨tokens.access.token, tokens.refresh.token, userId⟩),
    cookies⟩

/-- Goes on with the body of a request, or answers that it cannot be read. -/
def withJson {α : Type} (request : Request) (read? : Json.Value → Option α)
    (next : α → Action Response) : Action Response :=
  match request.json read? with
  | .ok a => next a
  | .error fault => return .empty fault.status

/-- Goes on with what a segment spells, or answers that there is nothing of that name. -/
def withSegment {α : Type} (vary : List Segment) (read? : List Char → Option α)
    (next : α → Action Response) : Action Response :=
  match vary with
  | [segment] =>
    match (Percent.decodeSegment? segment).bind read? with
    | some a => next a
    | none => return .empty 404
  | _ => return .empty 404

/-- Goes on with the caller, or fails where none was established. -/
def withCaller (caller : Option Caller) (next : Caller → Action Response) : Action Response :=
  match caller with
  | some caller => next caller
  | none => throw .noCaller

/-- Fails if fields of a form do not pass their checks. -/
def checkFields (occasion : Occasion) (faults : List FieldFault) : Except AuthError Unit :=
  if faults = [] then .ok () else .error (.invalidFields faults (occasion.wording faults))

/-- Whether a caller owns something or has at least a role. -/
def ownsOrCovers (account : Account) (owner : Int32) (role : Role) : Bool :=
  account.id = owner || account.role.covers role

/-- Fails if a caller does not have at least a role. -/
def requireRole (caller : Caller) (role : Role) : Except AuthError Unit :=
  if caller.account.role.covers role then .ok () else .error .insufficientRole

/-! ## The endpoints -/

/-- Reports whether the accounts can be reached. -/
def health (now : Instant) : Action Response := do
  let answer ← ExceptT.lift (Action.askBounded .ping).run
  let reached := match answer with
    | .ok _ => true
    | .error _ => false
  return .json (if reached then 200 else 503) (.record [
    ("status", .text (if reached then "ok" else "degraded")),
    ("store", .text (if reached then "ok" else "unavailable")),
    ("version", .text version),
    ("timestamp", now.toJson)])

/-- Makes an account and starts a session for it. -/
def register (service : Service) (occasion : Occasion) (form : RegistrationForm) :
    Action Response := do
  Action.ofExcept (checkFields occasion form.faults)
  let hash ← Action.lift .passwordNotHashed
    (service.hasher.hashPassword occasion.passwordSalt form.password)
  let account ← Action.ask
    (.createAccount ⟨form.username, form.email, hash, .user⟩ occasion.now)
  let tokens ← service.sessions.login occasion account
  Action.ofExcept (service.grant occasion.now 201 account.id tokens)

/-- Starts a session for an email address and a password. -/
def login (service : Service) (occasion : Occasion) (form : LoginForm) : Action Response := do
  Action.ofExcept (checkFields occasion form.faults)
  let account ← service.sessions.authenticate form.email form.password
  let tokens ← service.sessions.login occasion account
  Action.ofExcept (service.grant occasion.now 200 account.id tokens)

/-- The refresh token of a request: from its body, or else from its cookie. -/
def presentedRefresh (request : Request) : Except AuthError String :=
  -- A body that cannot be read counts as none, so that the cookie is enough.
  let inBody :=
    match request.json RefreshForm.ofJson? with
    | .ok form => form.token
    | .error _ => none
  match (inBody.or (request.cookie? SessionCookies.refreshName)).filter (· ≠ "") with
  | some token => .ok token
  | none => .error .missingRefreshToken

/-- Exchanges a refresh token for new tokens. -/
def refresh (service : Service) (occasion : Occasion) (request : Request) : Action Response := do
  let presented ← Action.ofExcept (presentedRefresh request)
  let (account, tokens) ← service.sessions.exchange occasion presented
  Action.ofExcept (service.grant occasion.now 200 account.id tokens)

/-- Ends the session of the caller. -/
def logout (service : Service) (occasion : Occasion) (caller : Caller) : Action Response := do
  service.sessions.logout occasion caller.account
  return ⟨204, none, service.cookies.cleared⟩

/-- Changes the status of an account. -/
def updateStatus (caller : Caller) (id : Int32) (change : StatusChange) : Action Response := do
  Action.ofExcept (requireRole caller .admin)
  match ← Action.ask (.findAccount id) with
  | none => throw (.noAccount id)
  | some target =>
    -- The highest role may also change accounts of its own rank.
    if caller.account.role ≠ .super ∧ caller.account.role.rank ≤ target.role.rank then
      throw .targetOutranks
    let account ← Action.ask (.updateStatus id change)
    return .json 200 account.toJson

/-- Changes the role of an account. -/
def updateRole (caller : Caller) (id : Int32) (change : RoleChange) : Action Response := do
  Action.ofExcept (requireRole caller .super)
  let account ← Action.ask (.updateRole id change.role)
  return .json 200 account.toJson

/-- Makes a personal token for the caller. -/
def createToken (service : Service) (occasion : Occasion) (caller : Caller) (form : TokenForm) :
    Action Response := do
  Action.ofExcept (checkFields occasion form.faults)
  let created ← service.personalTokens.create occasion caller.claims form.name form.expiry
  return .json 201 created.toJson

/-- Lists the personal tokens of the caller. -/
def listTokens (service : Service) (caller : Caller) : Action Response := do
  let records ← service.personalTokens.list caller.account.id
  return .json 200 (.array (records.map PersonalToken.toJson))

/-- The record of a personal token that a caller may know of. -/
def visibleToken (service : Service) (caller : Caller) (id : Uuid) : Action PersonalToken := do
  let record ← service.personalTokens.read id
  if ownsOrCovers caller.account record.owner .admin then return record
  else throw (.noTokenId id)

/-- Shows a personal token. -/
def readToken (service : Service) (caller : Caller) (id : Uuid) : Action Response := do
  let record ← service.visibleToken caller id
  return .json 200 record.toJson

/-- Revokes a personal token. -/
def revokeToken (service : Service) (caller : Caller) (id : Uuid) : Action Response := do
  let record ← service.visibleToken caller id
  service.personalTokens.revoke record
  return .empty 204

/-- What an endpoint does with a request. The caller is looked for first, then the segment
that varies is read, then the body. -/
def answer (service : Service) (occasion : Occasion) (request : Request)
    (caller : Option Caller) (endpoint : Endpoint) (vary : List Segment) : Action Response :=
  match endpoint with
  | .health => health occasion.now
  | .login => withJson request LoginForm.ofJson? (service.login occasion)
  | .register => withJson request RegistrationForm.ofJson? (service.register occasion)
  | .refresh => service.refresh occasion request
  | .logout => withCaller caller (service.logout occasion)
  | .me => withCaller caller fun caller => return .json 200 caller.account.toJson
  | .updateStatus =>
    withCaller caller fun caller =>
      withSegment vary Decimal.int32? fun id =>
        withJson request StatusChange.ofJson? (updateStatus caller id)
  | .updateRole =>
    withCaller caller fun caller =>
      withSegment vary Decimal.int32? fun id =>
        withJson request RoleChange.ofJson? (updateRole caller id)
  | .createToken =>
    withCaller caller fun caller =>
      withJson request TokenForm.ofJson? (service.createToken occasion caller)
  | .listTokens => withCaller caller service.listTokens
  | .readToken =>
    withCaller caller fun caller => withSegment vary Uuid.parse? (service.readToken caller)
  | .revokeToken =>
    withCaller caller fun caller => withSegment vary Uuid.parse? (service.revokeToken caller)

/-- Leads a request to its endpoint. -/
def dispatch (service : Service) (occasion : Occasion) (request : Request)
    (caller : Option Caller) : Action Response :=
  match Route.find? request.method request.path with
  | some (endpoint, vary) => service.answer occasion request caller endpoint vary
  | none => return .empty 404

/-- Lets a request pass the gate and leads it to its endpoint. -/
def gated (service : Service) (occasion : Occasion) (request : Request) : Action Response := do
  match ← service.gate.authorize occasion.now (request.toGate service.settings.csrfHeader) with
  | .exempt => service.dispatch occasion request none
  | .allowed caller => service.dispatch occasion request (some caller)

end Service

/-- How the service is put up. -/
inductive App where
  /-- The endpoints without the gate. -/
  | bare (service : Service)
  /-- The endpoints behind the gate, perhaps with no service to hand requests to. -/
  | gated (service : Option Service)

namespace App

/-- The action by which a request is answered. -/
def action (app : App) (occasion : Occasion) (request : Request) : Action Response :=
  match app with
  | bare service => service.dispatch occasion request none
  | gated none => throw .noService
  | gated (some service) => service.gated occasion request

/-- Answers a request; an error becomes its response. -/
def handle (app : App) (occasion : Occasion) (request : Request) : Program Response := do
  match ← (app.action occasion request).run with
  | .ok response => return response
  | .error error => return error.response

end App

end SessionAuth
