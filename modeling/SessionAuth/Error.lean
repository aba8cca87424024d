import SessionAuth.Crypto.Bcrypt
import SessionAuth.Crypto.Hmac
import SessionAuth.Form.Fault
import SessionAuth.Key.Pair
import SessionAuth.Token.Fault
import SessionAuth.Uuid

/-!
# Errors

Whatever keeps an operation from succeeding has a cause. The cause determines a kind, by
which a client can tell errors apart, and a message. The kind determines the HTTP status.
Of failures of the server itself a client is told only that they occurred.

## Main definitions

* `ErrorKind` — the kinds, with `ErrorKind.code` and `ErrorKind.status`
* `AuthError` — the causes, with `AuthError.kind` and `AuthError.message`
* `AuthError.publicMessage` — the message for clients
-/

namespace SessionAuth

/-- The kinds of error. -/
inductive ErrorKind where
  /-- A credential is malformed, forged, out of its time or missing. -/
  | tokenInvalid
  /-- A token is not the one that is stored. -/
  | tokenMismatch
  /-- A personal token was revoked. -/
  | tokenRevoked
  /-- A personal token is past its stored expiry. -/
  | tokenExpired
  /-- Email address and password do not belong together. -/
  | unauthorized
  | accountBanned
  | accountLocked
  /-- The role is not enough. -/
  | forbidden
  | csrfHeaderMissing
  | cookieMissing
  | csrfInvalid
  /-- Something exists already, or was done already. -/
  | conflict
  /-- A personal token is to expire before it starts. -/
  | expiresAtPast
  /-- There is nothing of an identifier or name. -/
  | notExist
  | badRequest
  | validationError
  /-- A store or the policy does not answer as it should. -/
  | serviceUnavailable
  | internal
  deriving DecidableEq, Repr

namespace ErrorKind

/-- All kinds. -/
def all : List ErrorKind :=
  [tokenInvalid, tokenMismatch, tokenRevoked, tokenExpired, unauthorized, accountBanned,
    accountLocked, forbidden, csrfHeaderMissing, cookieMissing, csrfInvalid, conflict,
    expiresAtPast, notExist, badRequest, validationError, serviceUnavailable, internal]

/-- The name of a kind, by which programs tell errors apart. -/
def code : ErrorKind → String
  | tokenInvalid => "token_invalid"
  | tokenMismatch => "token_mismatch"
  | tokenRevoked => "token_revoked"
  | tokenExpired => "token_expired"
  | unauthorized => "unauthorized"
  | accountBanned => "account_banned"
  | accountLocked => "account_locked"
  | forbidden => "forbidden"
  | csrfHeaderMissing => "csrf_header_missing"
  | cookieMissing => "cookie_missing"
  | csrfInvalid => "csrf_invalid"
  | conflict => "conflict"
  | expiresAtPast => "expires_at_past"
  | notExist => "not_exist"
  | badRequest => "bad_request"
  | validationError => "validation_error"
  | serviceUnavailable => "service_unavailable"
  | internal => "internal"

/-- The kind of a name. -/
def ofCode? (code : String) : Option ErrorKind := all.find? (·.code = code)

/-- The HTTP status of a kind. -/
def status : ErrorKind → Nat
  | tokenInvalid | tokenMismatch | tokenRevoked | tokenExpired | unauthorized => 401
  | accountBanned | accountLocked | forbidden | csrfInvalid => 403
  | csrfHeaderMissing | cookieMissing | badRequest => 400
  | conflict => 409
  | expiresAtPast | validationError => 422
  | notExist => 404
  | serviceUnavailable => 503
  | internal => 500

theorem ofCode?_code (kind : ErrorKind) : ofCode? kind.code = some kind := by
  cases kind <;> rfl

end ErrorKind

/-- What keeps an operation from succeeding. -/
inductive AuthError where
  /-- A signed token does not hold. -/
  | invalidToken (fault : TokenFault)
  | missingToken
  | refreshTokenAsCredential
  | notRefreshToken
  | missingRefreshToken
  | unknownSubject
  | unknownPersonalToken
  /-- A handler is asked for a caller that nothing established. -/
  | noCaller
  | noSession
  | refreshTokenMismatch
  | refreshTokenUsed
  | personalTokenMismatch
  | personalTokenRevoked
  | personalTokenExpired
  | wrongCredentials
  | banned
  | locked
  | insufficientRole
  /-- The account whose status is to change does not rank below the caller. -/
  | targetOutranks
  | csrfHeaderMissing (header : String)
  | csrfCookieMissing
  | csrfInvalid
  | tokenNameTaken (name : String)
  | alreadyRevoked
  | emailTaken
  | expiryPast
  | noAccount (id : Int32)
  | noTokenId (id : Uuid)
  | noTokenName (name : String)
  | noRecord
  /-- A text is no expiry date. -/
  | notADate (text : String)
  /-- Fields of a form do not pass their checks, which is told in some words. -/
  | invalidFields (faults : List FieldFault) (text : String)
  | storeTimedOut
  /-- A store cannot be reached. -/
  | storeUnreachable (reason : String)
  /-- The database failed in a way of which nothing is told. -/
  | database
  /-- The policy failed with an error of its own. -/
  | policyFailed (cause : AuthError)
  | passwordNotHashed (fault : Bcrypt.Fault)
  | passwordNotVerified (fault : Bcrypt.Fault)
  | tokenNotHashed (fault : Bcrypt.Fault)
  /-- A hash failed outside of any operation. -/
  | hashing (fault : Bcrypt.Fault)
  | tokenNotSigned (fault : KeyFault)
  /-- The secret that guards against forged requests makes no key. -/
  | badCsrfSecret (fault : Hmac.KeyFault)
  | lifetimeOutOfRange
  | badKey (error : KeyError)
  | settingMissing (name : String)
  | settingNotANumber (name : String)
  /-- The application has no services to hand a request to. -/
  | noService
  /-- An error that a store or the policy reports in its own words. -/
  | reported (kind : ErrorKind) (message : String)
  deriving DecidableEq, Repr

namespace AuthError

/-- The kind of an error. -/
def kind : AuthError → ErrorKind
  | invalidToken _ | missingToken | refreshTokenAsCredential | notRefreshToken
  | missingRefreshToken | unknownSubject | unknownPersonalToken | noCaller => .tokenInvalid
  | noSession | refreshTokenMismatch | refreshTokenUsed | personalTokenMismatch => .tokenMismatch
  | personalTokenRevoked => .tokenRevoked
  | personalTokenExpired => .tokenExpired
  | wrongCredentials => .unauthorized
  | banned => .accountBanned
  | locked => .accountLocked
  | insufficientRole | targetOutranks => .forbidden
  | csrfHeaderMissing _ => .csrfHeaderMissing
  | csrfCookieMissing => .cookieMissing
  | csrfInvalid => .csrfInvalid
  | tokenNameTaken _ | alreadyRevoked | emailTaken => .conflict
  | expiryPast => .expiresAtPast
  | noAccount _ | noTokenId _ | noTokenName _ | noRecord => .notExist
  | notADate _ | invalidFields _ _ => .validationError
  | storeTimedOut | storeUnreachable _ | database | policyFailed _ => .serviceUnavailable
  | passwordNotHashed _ | passwordNotVerified _ | tokenNotHashed _ | hashing _
  | tokenNotSigned _ | badCsrfSecret _ | lifetimeOutOfRange | badKey _ | settingMissing _
  | settingNotANumber _ | noService => .internal
  | reported kind _ => kind

/-- The message of an error. -/
def message : AuthError → String
  | invalidToken fault => "Invalid token: " ++ fault.message
  | missingToken => "Missing token"
  | refreshTokenAsCredential => "Refresh tokens cannot authorize requests"
  | notRefreshToken => "Not a refresh token"
  | missingRefreshToken => "Missing refresh token"
  | unknownSubject => "Unknown subject"
  | unknownPersonalToken => "Unknown personal access token"
  | noCaller => "Request context not found. Ensure AuthMiddleware is active."
  | noSession => "No active session"
  | refreshTokenMismatch => "Refresh token does not match"
  | refreshTokenUsed => "Refresh token already used"
  | personalTokenMismatch => "Personal access token does not match"
  | personalTokenRevoked => "Personal access token was revoked"
  | personalTokenExpired => "Personal access token has expired"
  | wrongCredentials => "Invalid credentials"
  | banned => "Account is banned"
  | locked => "Account is locked"
  | insufficientRole => "Insufficient role for this action"
  | targetOutranks => "Cannot change the status of an account with an equal or higher role"
  | csrfHeaderMissing header => header ++ " header is missing"
  | csrfCookieMissing => "CSRF cookie is missing"
  | csrfInvalid => "CSRF token is invalid"
  | tokenNameTaken name => "A token named '" ++ name ++ "' already exists"
  | alreadyRevoked => "Token is already revoked"
  | emailTaken => "Email already registered"
  | expiryPast => "expires_at must be in the future"
  | noAccount id => "User " ++ toString id.toInt ++ " does not exist"
  | noTokenId id => "Token " ++ id.toText ++ " does not exist"
  | noTokenName name => "Token '" ++ name ++ "' does not exist"
  | noRecord => "Record not found"
  | notADate text => "expires_at must be a YYYY-MM-DD date, got '" ++ text ++ "'"
  | invalidFields _ text => text
  | storeTimedOut => "store lookup timed out"
  | storeUnreachable reason => reason
  | database => "database"
  | policyFailed cause => "policy engine: " ++ cause.kind.code ++ ": " ++ cause.message
  | passwordNotHashed fault => "Failed to hash password: " ++ fault.message
  | passwordNotVerified fault => "Failed to verify password: " ++ fault.message
  | tokenNotHashed fault => "Failed to hash token: " ++ fault.message
  | hashing fault => "bcrypt: " ++ fault.message
  | tokenNotSigned fault => "Failed to generate token: " ++ fault.message
  | badCsrfSecret fault => "Invalid CSRF secret: " ++ fault.message
  | lifetimeOutOfRange => "Token lifetime out of range"
  | badKey error => error.message
  | settingMissing name => name ++ " must be set"
  | settingNotANumber name => name ++ " must be a number"
  | noService => "AppState is not registered"
  | reported _ message => message

/-- The name of the kind of an error. -/
def code (error : AuthError) : String := error.kind.code

/-- The HTTP status of an error. -/
def status (error : AuthError) : Nat := error.kind.status

/-- The message that a client is shown. Failures of the server keep their cause to
themselves. -/
def publicMessage (error : AuthError) : String :=
  match error.kind with
  | .serviceUnavailable => "Service temporarily unavailable"
  | .internal => "Internal server error"
  | _ => error.message

end AuthError

end SessionAuth
