import SessionAuth.Cookie
import SessionAuth.Error
import SessionAuth.Json.Value

/-!
# Responses

A response has a status, perhaps a body, and the cookies that it sets. An error is answered
with the name of its kind and the message that clients may see.

## Main definitions

* `Response` — a response
* `AuthError.response` — the response to an error
-/

namespace SessionAuth

/-- A response. -/
structure Response where
  status : Nat
  /-- The body, where there is one that is JSON. -/
  body : Option Json.Value
  cookies : List Cookie

namespace Response

/-- A response without a body. -/
def empty (status : Nat) : Response := ⟨status, none, []⟩

/-- A response with a body. -/
def json (status : Nat) (body : Json.Value) : Response := ⟨status, some body, []⟩

end Response

/-- The body of the response to an error. -/
def AuthError.body (error : AuthError) : Json.Value :=
  .record [("error", .text error.publicMessage), ("code", .text error.code)]

/-- The response to an error. -/
def AuthError.response (error : AuthError) : Response := .json error.status error.body

end SessionAuth
