import SessionAuth.Json.Record
import SessionAuth.Token.Claims
import SessionAuth.Time.Rfc3339

/-!
# Accounts

An account has a name and an email address, a role, the marks of being banned or locked,
and the times of its last session events. It keeps the hash of its password and the hash
of the one refresh token that is still accepted; neither is ever written out.

## Main definitions

* `Account` — an account
* `NewAccount` — what an account is made from
* `StatusChange`, `RoleChange` — what may be asked to change
* `Account.toJson`, `Account.ofJson?` — accounts as JSON
-/

namespace SessionAuth

open Json (Value Field required? optional? defaulted?)

/-- An account. -/
structure Account where
  id : Int32
  username : String
  email : String
  passwordHash : String
  role : Role
  banned : Bool
  locked : Bool
  /-- The hash of the refresh token that is accepted, while there is a session. -/
  refreshHash : Option String
  lastLogin : Option Instant
  lastLogout : Option Instant
  lastRefresh : Option Instant
  createdAt : Instant
  deriving DecidableEq

/-- What an account is made from. -/
structure NewAccount where
  username : String
  email : String
  passwordHash : String
  role : Role
  deriving DecidableEq

/-- Marks to set or clear; a missing one stays as it is. -/
structure StatusChange where
  banned : Option Bool
  locked : Option Bool
  deriving DecidableEq

/-- A role to take on. -/
structure RoleChange where
  role : Role
  deriving DecidableEq

/-- The instant that a JSON value spells. -/
def Instant.ofJson? (v : Value) : Option Instant := v.text?.bind Instant.ofText?

/-- The text of an instant as JSON. -/
def Instant.toJson (t : Instant) : Value := .text t.toText

namespace Account

/-- The account made at an instant under an identifier, without a session. -/
def create (id : Int32) (new : NewAccount) (now : Instant) : Account where
  id := id
  username := new.username
  email := new.email
  passwordHash := new.passwordHash
  role := new.role
  banned := false
  locked := false
  refreshHash := none
  lastLogin := none
  lastLogout := none
  lastRefresh := none
  createdAt := now

/-- The fields of an account. -/
def layout : List Field :=
  [.plain "id", .plain "username", .plain "email", .withDefault "password_hash", .plain "role",
    .plain "banned", .plain "locked", .withDefault "refresh_token_hash",
    .plain "last_login_at", .plain "last_logout_at", .plain "last_refresh_at",
    .plain "created_at"]

/-- An account read from JSON. -/
def ofJson? (v : Value) : Option Account := do
  match ← v.fields? layout with
  | [id, username, email, passwordHash, role, banned, locked, refreshHash, lastLogin, lastLogout,
      lastRefresh, createdAt] =>
    return {
      id := ← required? Value.int32? id
      username := ← required? Value.text? username
      email := ← required? Value.text? email
      passwordHash := ← defaulted? "" Value.text? passwordHash
      role := ← required? Role.ofJson? role
      banned := ← required? Value.bool? banned
      locked := ← required? Value.bool? locked
      refreshHash := ← optional? Value.text? refreshHash
      lastLogin := ← optional? Instant.ofJson? lastLogin
      lastLogout := ← optional? Instant.ofJson? lastLogout
      lastRefresh := ← optional? Instant.ofJson? lastRefresh
      createdAt := ← required? Instant.ofJson? createdAt }
  | _ => none

/-- An account as JSON, without its hashes. -/
def toJson (account : Account) : Value :=
  let time (t : Option Instant) : Value := .optional (t.map Instant.toJson)
  .record [
    ("id", .int account.id.toInt),
    ("username", .text account.username),
    ("email", .text account.email),
    ("role", account.role.toJson),
    ("banned", .bool account.banned),
    ("locked", .bool account.locked),
    ("last_login_at", time account.lastLogin),
    ("last_logout_at", time account.lastLogout),
    ("last_refresh_at", time account.lastRefresh),
    ("created_at", account.createdAt.toJson)]

end Account

namespace StatusChange

/-- A change read from JSON. -/
def ofJson? (v : Value) : Option StatusChange := do
  match ← v.fields? [.plain "banned", .plain "locked"] with
  | [banned, locked] =>
    return ⟨← optional? Value.bool? banned, ← optional? Value.bool? locked⟩
  | _ => none

/-- A change as JSON. -/
def toJson (change : StatusChange) : Value :=
  .record [
    ("banned", .optional (change.banned.map .bool)),
    ("locked", .optional (change.locked.map .bool))]

end StatusChange

namespace RoleChange

/-- A change read from JSON. -/
def ofJson? (v : Value) : Option RoleChange := do
  match ← v.fields? [.plain "role"] with
  | [role] => return ⟨← required? Role.ofJson? role⟩
  | _ => none

/-- A change as JSON. -/
def toJson (change : RoleChange) : Value := .record [("role", change.role.toJson)]

end RoleChange

end SessionAuth
