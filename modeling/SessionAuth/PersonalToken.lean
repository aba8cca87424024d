import SessionAuth.Account

/-!
# Personal tokens

A token that an account holder makes for a program of theirs: it has a name of its own and
a chosen expiry and may be revoked. What is kept of it is a record with the hash of the
token; the token itself is handed out once, when it is made.

## Main definitions

* `PersonalToken` — the record of a token
* `PersonalToken.View` — the record without the hash
* `CreatedToken` — the view of a new token together with the token
-/

namespace SessionAuth

open Json (Value Field required? optional? defaulted?)

/-- The record of a personal token. -/
structure PersonalToken where
  /-- The identifier of the record and of the token. -/
  id : Uuid
  owner : Int32
  name : String
  createdAt : Instant
  expiresAt : Instant
  tokenHash : String
  revoked : Bool
  deriving DecidableEq

/-- The record of a personal token without the hash. -/
structure PersonalToken.View where
  id : Uuid
  owner : Int32
  name : String
  createdAt : Instant
  expiresAt : Instant
  revoked : Bool
  deriving DecidableEq

/-- A new token and the view of its record. -/
structure CreatedToken where
  view : PersonalToken.View
  token : String
  deriving DecidableEq

namespace PersonalToken

/-- The record without the hash. -/
def view (record : PersonalToken) : View :=
  ⟨record.id, record.owner, record.name, record.createdAt, record.expiresAt, record.revoked⟩

/-- The fields of a record. -/
def layout : List Field :=
  [.plain "id", .plain "user_id", .plain "name", .plain "created_at", .plain "expires_at",
    .withDefault "token_hash", .plain "revoked"]

/-- A record read from JSON. -/
def ofJson? (v : Value) : Option PersonalToken := do
  match ← v.fields? layout with
  | [id, owner, name, createdAt, expiresAt, tokenHash, revoked] =>
    return {
      id := ← required? Uuid.ofJson? id
      owner := ← required? Value.int32? owner
      name := ← required? Value.text? name
      createdAt := ← required? Instant.ofJson? createdAt
      expiresAt := ← required? Instant.ofJson? expiresAt
      tokenHash := ← defaulted? "" Value.text? tokenHash
      revoked := ← required? Value.bool? revoked }
  | _ => none

namespace View

/-- The members of a view as JSON. -/
def members (view : View) : List (String × Value) := [
  ("id", view.id.toJson),
  ("user_id", .int view.owner.toInt),
  ("name", .text view.name),
  ("created_at", view.createdAt.toJson),
  ("expires_at", view.expiresAt.toJson),
  ("revoked", .bool view.revoked)]

/-- A view as JSON. -/
def toJson (view : View) : Value := .record view.members

/-- The fields of a view. -/
def layout : List Field :=
  [.plain "id", .plain "user_id", .plain "name", .plain "created_at", .plain "expires_at",
    .plain "revoked"]

/-- A view read from JSON. -/
def ofJson? (v : Value) : Option View := do
  match ← v.fields? layout with
  | [id, owner, name, createdAt, expiresAt, revoked] =>
    return {
      id := ← required? Uuid.ofJson? id
      owner := ← required? Value.int32? owner
      name := ← required? Value.text? name
      createdAt := ← required? Instant.ofJson? createdAt
      expiresAt := ← required? Instant.ofJson? expiresAt
      revoked := ← required? Value.bool? revoked }
  | _ => none

end View

/-- A record as JSON, without its hash. -/
def toJson (record : PersonalToken) : Value := record.view.toJson

end PersonalToken

namespace CreatedToken

/-- A new token as JSON: the members of the view and the token. -/
def toJson (created : CreatedToken) : Value :=
  .record (created.view.members ++ [("token", .text created.token)])

/-- How deep the values in the object of a new token may be nested. -/
def maxDepth : Nat := 126

/-- A new token read from JSON. Members are kept whole until all are read, since they
belong to the view or to the token; there is no array for it. -/
def ofJson? : Value → Option CreatedToken
  | .object members => do
    -- The token is read directly, every other member only once all are known.
    let whole := members.all fun (name, v) =>
      name = .text "token" || (name.text?.isSome && v.holdable maxDepth)
    let token ← Json.member? members "token"
    let token ← required? Value.text? token
    let view ← PersonalToken.View.ofJson? (.object members)
    if whole then return ⟨view, token⟩ else none
  | _ => none

end CreatedToken

end SessionAuth
