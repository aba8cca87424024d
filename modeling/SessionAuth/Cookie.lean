import SessionAuth.Csrf
import SessionAuth.Time.Instant

/-!
# Session cookies

The tokens of a session are handed to browsers as cookies. The access token goes along
with every request and the refresh token only with those under `/auth`; scripts can read
neither. A third cookie, which scripts can read, holds the value that guards against
requests forged across sites. A session ends with the same cookies, empty and expired.

## Main definitions

* `Cookie` — a cookie as it is set
* `Cookie.render` — the header text that sets it
* `SessionCookies.issued`, `SessionCookies.cleared` — the cookies of a session and of its end
-/

namespace SessionAuth

/-- A cookie as it is set. All are kept from requests that other sites cause. -/
structure Cookie where
  name : String
  value : String
  path : String
  httpOnly : Bool
  secure : Bool
  /-- The number of seconds for which the cookie is kept. -/
  maxAge : Nat
  deriving DecidableEq, Repr

namespace Cookie

/-- The header text that sets a cookie. -/
def render (cookie : Cookie) : String :=
  cookie.name ++ "=" ++ cookie.value ++
    (if cookie.httpOnly then "; HttpOnly" else "") ++
    "; SameSite=Strict" ++
    (if cookie.secure then "; Secure" else "") ++
    "; Path=" ++ cookie.path ++
    "; Max-Age=" ++ toString cookie.maxAge

/-- Whether the text of a cookie may stand in a header: it has no control characters other
than tabs. -/
def isSendable (cookie : Cookie) : Bool :=
  cookie.render.toList.all fun c => (0x20 ≤ c.toNat && c.toNat ≠ 0x7F) || c = '\t'

end Cookie

/-- A token and the second at which it ceases to hold. -/
structure DatedToken where
  token : String
  expires : Int64
  deriving DecidableEq

/-- How session cookies are made. -/
structure SessionCookies where
  /-- Whether the cookies are kept from connections that are not encrypted. -/
  secure : Bool
  guard : CsrfGuard

namespace SessionCookies

/-- The name of the cookie of the access token. -/
def accessName : String := "access_token"

/-- The name of the cookie of the refresh token. -/
def refreshName : String := "refresh_token"

/-- The name of the cookie of the value that guards against forged requests. -/
def csrfName : String := "csrf_token"

/-- The three cookies with their values and the seconds for which they are kept. -/
def build (cookies : SessionCookies) (access refresh csrf : String)
    (accessAge refreshAge : Nat) : List Cookie := [
  ⟨accessName, access, "/", true, cookies.secure, accessAge⟩,
  ⟨refreshName, refresh, "/auth", true, cookies.secure, refreshAge⟩,
  ⟨csrfName, csrf, "/", false, cookies.secure, accessAge⟩]

/-- The seconds from an instant until a token ceases to hold; none once that is past. -/
def ageAt (now : Instant) (expires : Int64) : Nat := (expires.toInt - now.seconds).toNat

/-- The cookies of a session, if there is a value that goes with its access token. -/
def issued (cookies : SessionCookies) (now : Instant) (access refresh : DatedToken) :
    Except AuthError (List Cookie) := do
  let csrf ← cookies.guard.tokenFor access.token
  return cookies.build access.token refresh.token csrf (ageAt now access.expires)
    (ageAt now refresh.expires)

/-- The cookies of the end of a session. -/
def cleared (cookies : SessionCookies) : List Cookie := cookies.build "" "" "" 0 0

end SessionCookies

end SessionAuth
