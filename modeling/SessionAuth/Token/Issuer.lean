import SessionAuth.Error
import SessionAuth.Time.Instant
import SessionAuth.Token.Compact

/-!
# Issuing and accepting tokens

An issuer signs tokens in its name and accepts tokens that it could have signed: the
header names its way to sign, the signature belongs to header and payload, the payload
holds claims of this issuer for no particular audience, and the time is not past the expiry
nor before the start by more than a minute.

## Main definitions

* `TokenIssuer` — keys, name and lifetimes
* `TokenIssuer.issue` — a signed token and its claims
* `TokenIssuer.decode` — the claims of a token that holds, or why it does not hold
* `TokenIssuer.validate` — the same with one error for all that may be wrong
-/

namespace SessionAuth

/-- A signed token and its claims. -/
structure IssuedToken where
  token : String
  claims : Claims
  deriving DecidableEq

/-- Why a token cannot be issued. -/
inductive IssueFault where
  /-- The token would hold beyond the limits of time. -/
  | lifetime
  /-- The key does not sign. -/
  | key (fault : KeyFault)
  deriving DecidableEq, Repr

/-- Whoever signs and accepts tokens. -/
structure TokenIssuer where
  keys : KeyPair
  name : String
  accessLifetime : Duration
  refreshLifetime : Duration

namespace TokenIssuer

/-- The seconds for which a token is accepted before its start and behind its expiry. -/
def leeway : Int := 60

/-- The issuer with lifetimes in minutes and days, if these can be represented. -/
def ofLifetimes? (keys : KeyPair) (name : String) (accessMinutes refreshDays : Int64) :
    Option TokenIssuer := do
  let access ← Duration.ofMinutes? accessMinutes
  let refresh ← Duration.ofDays? refreshDays
  return ⟨keys, name, access, refresh⟩

/-- The token of some claims under a key pair. -/
def sign (keys : KeyPair) (claims : Claims) : Except KeyFault String := do
  let header := Compact.encodeJson Compact.header
  let payload := Compact.encodeJson claims.toJson
  let parts : Compact.Parts := ⟨header, payload, []⟩
  let signature ← keys.sign parts.signedBytes
  return String.ofList (Compact.join { parts with signature := Compact.encode signature })

/-- The claims of a token that is issued at an instant for a length of time. -/
def claimsFor? (issuer : TokenIssuer) (now : Instant) (kind : TokenKind) (subject : Int32)
    (id : Uuid) (lifetime : Duration) (roles : List Role) : Option Claims :=
  (now.add? lifetime).map fun expiry => {
    subject := subject
    issuer := issuer.name
    issuedAt := Int64.ofInt now.seconds
    notBefore := Int64.ofInt now.seconds
    expires := Int64.ofInt expiry.seconds
    id := id
    kind := kind
    roles := roles }

/-- A token issued at an instant for a length of time. -/
def issue (issuer : TokenIssuer) (now : Instant) (kind : TokenKind) (subject : Int32)
    (id : Uuid) (lifetime : Duration) (roles : List Role) : Except IssueFault IssuedToken :=
  match issuer.claimsFor? now kind subject id lifetime roles with
  | none => .error .lifetime
  | some claims =>
    match sign issuer.keys claims with
    | .error fault => .error (.key fault)
    | .ok token => .ok ⟨token, claims⟩

/-- A token that authorises requests with some roles. -/
def issueAccess (issuer : TokenIssuer) (now : Instant) (id : Uuid) (subject : Int32)
    (roles : List Role) : Except IssueFault IssuedToken :=
  issuer.issue now .access subject id issuer.accessLifetime roles

/-- A token that can be exchanged for new ones. It carries no roles. -/
def issueRefresh (issuer : TokenIssuer) (now : Instant) (id : Uuid) (subject : Int32) :
    Except IssueFault IssuedToken :=
  issuer.issue now .refresh subject id issuer.refreshLifetime []

/-- A token with a chosen lifetime, under the identifier of its record. -/
def issuePersonal (issuer : TokenIssuer) (now : Instant) (id : Uuid) (subject : Int32)
    (lifetime : Duration) (roles : List Role) : Except IssueFault IssuedToken :=
  issuer.issue now .personal subject id lifetime roles

/-- The payload of a token whose header and signature are in order. -/
def verifiedPayload (issuer : TokenIssuer) (text : String) : Except TokenFault (List Char) :=
  match Compact.split? text.toList with
  | none => .error .malformed
  | some parts => do
    let algorithm ← Compact.readHeader (← Compact.decode parts.header)
    if algorithm ≠ Compact.algorithm then throw .algorithm
    let signature ← Compact.decode parts.signature
    if !issuer.keys.verify parts.signedBytes signature then throw .signature
    return parts.payload

/-- Checks the claims of a token against the name of the issuer and the time. The expiry
counts first, then the start, the issuer and the audience. -/
def checkClaims (issuer : TokenIssuer) (now : Instant) (claims : Claims)
    (audience : Compact.Audience) : Except TokenFault Unit :=
  let expires := claims.expires.toInt
  let notBefore := claims.notBefore.toInt
  if expires < 0 then .error (.missingClaim "exp")
  else if notBefore < 0 then .error (.missingClaim "nbf")
  -- A clock within the leeway of its start cannot tell, and nothing is accepted then.
  else if now.seconds < leeway ∨ expires < now.seconds - leeway then .error .expired
  else if now.seconds + leeway < notBefore then .error .notYetValid
  else if claims.issuer ≠ issuer.name then .error .issuer
  else if audience = .named then .error .audience
  else .ok ()

/-- The claims of a token that holds at an instant, or why it does not hold. -/
def decode (issuer : TokenIssuer) (now : Instant) (text : String) : Except TokenFault Claims := do
  let payload ← issuer.verifiedPayload text
  let (claims, audience) ← Compact.readClaims (← Compact.decode payload)
  issuer.checkClaims now claims audience
  return claims

/-- The claims of a token that holds at an instant. Any other token is invalid. -/
def validate (issuer : TokenIssuer) (now : Instant) (text : String) : Except AuthError Claims :=
  (issuer.decode now text).mapError .invalidToken

theorem validate_eq_ok_iff_decode {issuer : TokenIssuer} {now : Instant} {text : String}
    {claims : Claims} : issuer.validate now text = .ok claims ↔
      issuer.decode now text = .ok claims := by
  unfold validate
  cases issuer.decode now text with
  | ok found => constructor <;> rintro ⟨⟩ <;> rfl
  | error fault => exact iff_of_false nofun nofun

/-- Whatever is wrong with a token, it is reported as an invalid token. -/
theorem exists_fault_of_validate {issuer : TokenIssuer} {now : Instant} {text : String}
    {e : AuthError} (h : issuer.validate now text = .error e) :
    ∃ fault, e = .invalidToken fault ∧ issuer.decode now text = .error fault := by
  unfold validate at h
  cases hdecode : issuer.decode now text with
  | ok claims =>
    rw [hdecode] at h
    cases h
  | error fault =>
    rw [hdecode] at h
    exact ⟨fault, (Except.error.inj h).symm, rfl⟩

end TokenIssuer

end SessionAuth
