import SessionAuth.Json.Record
import SessionAuth.Role
import SessionAuth.Time.Instant
import SessionAuth.Uuid

/-!
# Claims

What a signed token says: whose token it is, who issued it, when it starts and ceases to
hold, which token it is, what it is good for and which roles it carries.

## Main definitions

* `TokenKind` — what a token is good for
* `Claims` — what a token says
* `Claims.toJson`, `Claims.ofJson?` — claims as a JSON record
-/

namespace SessionAuth

open Json (Value Field required? defaulted?)

/-- The role that a JSON value names. -/
def Role.ofJson? (v : Value) : Option Role :=
  v.variant?.bind fun name => (Role.parse name).toOption

/-- The name of a role as JSON. -/
def Role.toJson (role : Role) : Value := .text role.name

/-- The identifier that a JSON value spells. -/
def Uuid.ofJson? (v : Value) : Option Uuid := v.text?.bind fun text => Uuid.parse? text.toList

/-- The text of an identifier as JSON. -/
def Uuid.toJson (id : Uuid) : Value := .text id.toText

/-- What a token is good for: to authorise requests for a short time, to be exchanged for
new tokens, or to authorise requests for as long as its owner chose. -/
inductive TokenKind where
  | access
  | refresh
  | personal
  deriving DecidableEq, Repr

namespace TokenKind

/-- The name of a kind. -/
def name : TokenKind → String
  | access => "access"
  | refresh => "refresh"
  | personal => "personal"

/-- The kind of a name. -/
def ofName? : String → Option TokenKind
  | "access" => some access
  | "refresh" => some refresh
  | "personal" => some personal
  | _ => none

@[simp] theorem ofName?_name (kind : TokenKind) : ofName? kind.name = some kind := by
  cases kind <;> rfl

end TokenKind

/-- What a token says. Times are in seconds since the start of 1970. -/
structure Claims where
  subject : Int32
  issuer : String
  issuedAt : Int64
  notBefore : Int64
  expires : Int64
  id : Uuid
  kind : TokenKind
  roles : List Role
  deriving DecidableEq

namespace Claims

/-- The instant at which the claims cease to hold; the start of 1970 where there is no such
instant. -/
def expiry (claims : Claims) : Instant := (Instant.ofSeconds? claims.expires.toInt).getD .epoch

/-- The fields of claims. -/
def layout : List Field :=
  [.plain "sub", .plain "iss", .plain "iat", .plain "nbf", .plain "exp", .plain "jti",
    .plain "type", .withDefault "roles"]

/-- Claims read from JSON. -/
def ofJson? (v : Value) : Option Claims := do
  match ← v.fields? layout with
  | [subject, issuer, issuedAt, notBefore, expires, id, kind, roles] =>
    return {
      subject := ← required? Value.int32? subject
      issuer := ← required? Value.text? issuer
      issuedAt := ← required? Value.int64? issuedAt
      notBefore := ← required? Value.int64? notBefore
      expires := ← required? Value.int64? expires
      id := ← required? Uuid.ofJson? id
      kind := ← required? (fun v => v.variant?.bind TokenKind.ofName?) kind
      roles := ← defaulted? [] (Value.list? Role.ofJson?) roles }
  | _ => none

/-- Claims as JSON. Roles are left out where there are none. -/
def toJson (claims : Claims) : Value :=
  .record ([
    ("sub", .int claims.subject.toInt),
    ("iss", .text claims.issuer),
    ("iat", .int claims.issuedAt.toInt),
    ("nbf", .int claims.notBefore.toInt),
    ("exp", .int claims.expires.toInt),
    ("jti", claims.id.toJson),
    ("type", .text claims.kind.name)] ++
    if claims.roles = [] then [] else [("roles", .array (claims.roles.map Role.toJson))])

end Claims

end SessionAuth
