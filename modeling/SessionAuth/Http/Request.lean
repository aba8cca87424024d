import SessionAuth.Cookie
import SessionAuth.Gate
import SessionAuth.Http.MediaType
import SessionAuth.Json.Reader
import SessionAuth.Text.Blank
import SessionAuth.Text.Percent

/-!
# Requests

A request has a method, a target, headers and a body. The path is the target up to a
question mark or number sign, with its escapes resolved; the router and the gate see the
same path. Names of headers are compared without regard to case. Cookies come in one header,
with semicolons between.

## Main definitions

* `Request` — a request
* `Request.path`, `Request.header?`, `Request.cookie?` — its parts
* `Request.toGate` — what the gate sees of it
* `Request.json` — its body as JSON
-/

namespace SessionAuth

/-- A request. -/
structure Request where
  method : String
  target : String
  headers : List (String × String)
  body : String

namespace Request

/-- The path with its escapes resolved. -/
def path (request : Request) : String :=
  Percent.decodePath
    (String.ofList (request.target.toList.takeWhile fun c => c ≠ '?' && c ≠ '#'))

/-- A name with its letters in lower case. -/
def lowerName (name : String) : List Char := name.toList.map Char.toLower

/-- What the header of a name holds. -/
def rawHeader? (request : Request) (name : String) : Option String :=
  (request.headers.find? fun header => lowerName header.1 = lowerName name).map (·.2)

/-- Whether a character may stand in a header that is read as text. -/
def isVisible (c : Char) : Bool := (0x20 ≤ c.toNat && c.toNat < 0x7F) || c = '\t'

/-- What the header of a name holds, if it is plain text. -/
def header? (request : Request) (name : String) : Option String :=
  (request.rawHeader? name).filter fun value => value.toList.all isVisible

/-- A text without the quotes around it. -/
def unquoted (text : List Char) : List Char :=
  match text with
  | '"' :: rest => if rest.getLast? = some '"' then rest.dropLast else text
  | _ => text

/-- A text with all its escapes resolved, if that is UTF-8. -/
def resolved? (text : List Char) : Option (List Char) := Percent.decodeSegment? text

/-- The name and the value of a cookie as it is sent. -/
def parseCookie? (text : List Char) : Option (List Char × List Char) := do
  let (name, value) ← Text.cut? ['='] text
  let name := Text.trim name
  if name = [] then none
  else return (← resolved? name, ← resolved? (unquoted (Text.trim value)))

/-- All cookies that can be read, in order. -/
def cookies (request : Request) : List (List Char × List Char) :=
  match request.rawHeader? "Cookie" with
  | some text => (Text.fields ';' text.toList).filterMap fun piece => parseCookie? (Text.trim piece)
  | none => []

/-- The value of the first cookie of a name. -/
def cookie? (request : Request) (name : String) : Option String :=
  (request.cookies.find? (·.1 = name.toList)).map fun cookie => String.ofList cookie.2

/-- The token of an authorisation header. -/
def bearer? (request : Request) : Option String := do
  let value ← request.header? "Authorization"
  let scheme := "Bearer ".toList
  if scheme.isPrefixOf value.toList then some (String.ofList (value.toList.drop scheme.length))
  else none

/-- What the gate sees of a request. -/
def toGate (request : Request) (csrfHeader : String) : GateRequest where
  method := request.method
  path := request.path
  bearer := request.bearer?
  accessCookie := request.cookie? SessionCookies.accessName
  csrfCookie := request.cookie? SessionCookies.csrfName
  csrfHeader := request.header? csrfHeader

/-- The most bytes that a body may have. -/
def maxBody : Nat := 2097152

/-- Why a body cannot be read. -/
inductive BodyFault where
  /-- The headers do not announce JSON, or the body is none of the kind asked for. -/
  | malformed
  | tooLarge
  deriving DecidableEq, Repr

/-- The HTTP status of a fault. -/
def BodyFault.status : BodyFault → Nat
  | malformed => 400
  | tooLarge => 413

/-- Whether the headers announce JSON. -/
def announcesJson (request : Request) : Bool :=
  ((request.header? "Content-Type").bind fun type => MediaType.parse? type.toList).any (·.isJson)

/-- The length that the headers announce. -/
def announcedLength? (request : Request) : Option Nat :=
  (request.header? "Content-Length").bind fun text => Decimal.natural64? text.toList

/-- The body read as JSON of some kind. -/
def json {α : Type} (request : Request) (read? : Json.Value → Option α) : Except BodyFault α :=
  if !request.announcesJson then .error .malformed
  else if request.announcedLength?.any (maxBody < ·) || maxBody < request.body.utf8ByteSize then
    .error .tooLarge
  else
    match (Json.parse? request.body.toList).bind read? with
    | some a => .ok a
    | none => .error .malformed

end Request

end SessionAuth
