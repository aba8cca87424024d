import SessionAuth.Crypto.Bcrypt
import SessionAuth.Form.Fault
import SessionAuth.Time.Instant
import SessionAuth.Uuid

/-!
# Occasions

An operation finds a time on the clock and may draw random values. Both are given to it as
one value, so that what it does is determined. So are the words for faulty fields, since what
is listed of them may come in another order each time.

## Main definitions

* `Occasion` — a time and what is drawn then
-/

namespace SessionAuth

/-- A time and what is drawn then. -/
structure Occasion where
  now : Instant
  /-- The identifier of an access token. -/
  accessId : Uuid
  /-- The identifier of a refresh token. -/
  refreshId : Uuid
  /-- The identifier of a personal token. -/
  recordId : Uuid
  /-- The salt of the hash of a password. -/
  passwordSalt : Bcrypt.Salt
  /-- The salt of the hash of a token. -/
  tokenSalt : Bcrypt.Salt
  /-- The words in which faults of fields are told. -/
  wording : List FieldFault → String

end SessionAuth
