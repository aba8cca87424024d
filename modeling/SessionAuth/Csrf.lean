import SessionAuth.Crypto.Hmac
import SessionAuth.Error
import SessionAuth.Text.Hex
import SessionAuth.Text.Utf8

/-!
# Requests forged across sites

A browser sends cookies along with requests that other sites cause. So a request that may
change something and is authorised by a cookie must also repeat, in a header, a value that
only pages of this site can know: a code made from the access token with a secret of the
server. The same value is handed out in a cookie that scripts may read.

## Main definitions

* `CredentialSource` — where a credential came from
* `CsrfGuard` — the secret and the name of the header
* `CsrfGuard.tokenFor` — the value that goes with an access token
* `CsrfGuard.applies`, `CsrfGuard.verify` — which requests are checked, and how
-/

namespace SessionAuth

/-- Where a credential came from. -/
inductive CredentialSource where
  | header
  | cookie
  deriving DecidableEq, Repr

/-- The name of a source. -/
def CredentialSource.name : CredentialSource → String
  | header => "header"
  | cookie => "cookie"

/-- The methods that are meant to change nothing. -/
def safeMethods : List String := ["GET", "HEAD", "OPTIONS", "TRACE"]

/-- The secret and the name of the header. -/
structure CsrfGuard where
  secret : String
  header : String

namespace CsrfGuard

/-- Whether requests with a credential from a source and with a method are checked. -/
def applies (source : CredentialSource) (method : String) : Bool :=
  source = .cookie && !safeMethods.contains method

/-- The code that goes with an access token. The secret must make a key. -/
def codeFor (guard : CsrfGuard) (accessToken : String) : Except AuthError (List UInt8) :=
  (Hmac.sha256 (Utf8.ofString guard.secret) (Utf8.ofString accessToken)).mapError .badCsrfSecret

/-- The value that goes with an access token: its code in hexadecimal digits. -/
def tokenFor (guard : CsrfGuard) (accessToken : String) : Except AuthError String :=
  (guard.codeFor accessToken).map fun code => String.ofList (Hex.encode code)

/-- Checks the cookie and the header of a request. The cookie must be there, and the header
must hold the code that goes with the access token, in digits of either case. The secret is
used only for a header in digits. -/
def verify (guard : CsrfGuard) (accessToken : String) (cookie header : Option String) :
    Except AuthError Unit :=
  if cookie.getD "" = "" then .error .csrfCookieMissing
  else
    let presented := header.getD ""
    if presented = "" then .error (.csrfHeaderMissing guard.header)
    else
      match Hex.decode? presented.toList with
      | none => .error .csrfInvalid
      | some code => do
        let expected ← guard.codeFor accessToken
        if code = expected then .ok () else .error .csrfInvalid

end CsrfGuard

end SessionAuth
