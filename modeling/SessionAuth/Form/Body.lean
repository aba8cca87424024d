import SessionAuth.Email.Address
import SessionAuth.Form.Fault
import SessionAuth.Json.Record

/-!
# Forms

What clients send to log in, to register, to make a personal token and to exchange a
refresh token. Each form is read from JSON, and all but the last are checked field by
field; the faults of a field are listed in the order of its checks.

## Main definitions

* `LoginForm`, `RegistrationForm`, `TokenForm`, `RefreshForm`
* `LoginForm.faults`, `RegistrationForm.faults`, `TokenForm.faults` — the failed checks
* `SessionGrant` — what a client is sent when a session starts
-/

namespace SessionAuth

open Json (Value required? optional?)

namespace FieldCheck

/-- Whether a value passes a check for its length. -/
def lengthWithin (min : Nat) (max : Option Nat) (value : String) : Bool :=
  min ≤ value.length && max.all (value.length ≤ ·)

/-- The fault of a field, if its value does not pass. -/
def fault (check : FieldCheck) (field value : String) (passes : Bool) : List FieldFault :=
  if passes then [] else [⟨field, check, value⟩]

/-- The faults of an email address. -/
def emailFaults (value : String) : List FieldFault :=
  email.fault "email" value (Email.isAddress value)

/-- The faults of the length of a field. -/
def lengthFaults (field value : String) (min : Nat) (max : Option Nat) : List FieldFault :=
  (length min max).fault field value (lengthWithin min max value)

end FieldCheck

/-- What a client sends to log in. -/
structure LoginForm where
  email : String
  password : String
  deriving DecidableEq

/-- What a client sends to register. -/
structure RegistrationForm where
  username : String
  email : String
  password : String
  deriving DecidableEq

/-- What a client sends to make a personal token. -/
structure TokenForm where
  name : String
  expiry : String
  deriving DecidableEq

/-- What a client sends to exchange a refresh token; the token may be in a cookie instead. -/
structure RefreshForm where
  token : Option String
  deriving DecidableEq

/-- What a client is sent when a session starts. -/
structure SessionGrant where
  accessToken : String
  refreshToken : String
  userId : Int32
  deriving DecidableEq

/-- The least number of characters in a password. -/
def minPasswordLength : Nat := 6

namespace LoginForm

/-- A form read from JSON. -/
def ofJson? (v : Value) : Option LoginForm := do
  match ← v.fields? [.plain "email", .plain "password"] with
  | [email, password] =>
    return ⟨← required? Value.text? email, ← required? Value.text? password⟩
  | _ => none

/-- The failed checks of a form. -/
def faults (form : LoginForm) : List FieldFault :=
  FieldCheck.emailFaults form.email ++
    FieldCheck.lengthFaults "password" form.password minPasswordLength none

end LoginForm

namespace RegistrationForm

/-- A form read from JSON. -/
def ofJson? (v : Value) : Option RegistrationForm := do
  match ← v.fields? [.plain "username", .plain "email", .plain "password"] with
  | [username, email, password] =>
    return ⟨← required? Value.text? username, ← required? Value.text? email,
      ← required? Value.text? password⟩
  | _ => none

/-- Whether a character may stand in the name of an account. -/
def isUsernameCharacter (c : Char) : Bool := c.isAlphanum || c = '_' || c = '-'

/-- The check of the characters of the name of an account. -/
def usernameCheck : FieldCheck :=
  .characters "Username must be alphanumeric, underscores, or hyphens"

/-- The failed checks of a form. -/
def faults (form : RegistrationForm) : List FieldFault :=
  FieldCheck.lengthFaults "username" form.username 3 (some 32) ++
    usernameCheck.fault "username" form.username
      (form.username ≠ "" && form.username.toList.all isUsernameCharacter) ++
    FieldCheck.emailFaults form.email ++
    FieldCheck.lengthFaults "password" form.password minPasswordLength none

end RegistrationForm

namespace TokenForm

/-- A form read from JSON. -/
def ofJson? (v : Value) : Option TokenForm := do
  match ← v.fields? [.plain "name", .plain "expires_at"] with
  | [name, expiry] => return ⟨← required? Value.text? name, ← required? Value.text? expiry⟩
  | _ => none

/-- The failed checks of a form. -/
def faults (form : TokenForm) : List FieldFault :=
  FieldCheck.lengthFaults "name" form.name 1 (some 64)

end TokenForm

namespace RefreshForm

/-- A form read from JSON. -/
def ofJson? (v : Value) : Option RefreshForm := do
  match ← v.fields? [.plain "refresh_token"] with
  | [token] => return ⟨← optional? Value.text? token⟩
  | _ => none

end RefreshForm

namespace SessionGrant

/-- A grant read from JSON. -/
def ofJson? (v : Value) : Option SessionGrant := do
  match ← v.fields? [.plain "access_token", .plain "refresh_token", .plain "user_id"] with
  | [access, refresh, userId] =>
    return ⟨← required? Value.text? access, ← required? Value.text? refresh,
      ← required? Value.int32? userId⟩
  | _ => none

/-- A grant as JSON. -/
def toJson (grant : SessionGrant) : Value :=
  .record [
    ("access_token", .text grant.accessToken),
    ("refresh_token", .text grant.refreshToken),
    ("user_id", .int grant.userId.toInt)]

end SessionGrant

end SessionAuth
