import SessionAuth.Policy

/-!
# Routes

A route leads from a method and a pattern of path segments to an endpoint. A part of a
pattern is a fixed segment or stands for any one segment that is not empty. No two routes
can match the same request.

## Main definitions

* `Endpoint` — what can be asked of the service
* `Route.table` — the routes
* `Route.find?` — the endpoint of a method and a path, with the segment that varies
-/

namespace SessionAuth

/-- What can be asked of the service. -/
inductive Endpoint where
  | health
  | login
  | register
  | refresh
  | logout
  | me
  | updateStatus
  | updateRole
  | createToken
  | listTokens
  | readToken
  | revokeToken
  deriving DecidableEq, Repr

/-- A part of the pattern of a route. -/
inductive PathPart where
  | fixed (segment : String)
  | variable
  deriving DecidableEq, Repr

/-- A route. -/
structure Route where
  method : String
  parts : List PathPart
  endpoint : Endpoint

namespace Route

/-- Whether segments match the parts of a pattern; if so, those that vary. -/
def capture? : List PathPart → List Segment → Option (List Segment)
  | [], [] => some []
  | .fixed expected :: parts, actual :: path =>
    if actual = expected.toList then capture? parts path else none
  | .variable :: parts, actual :: path =>
    if actual = [] then none else (capture? parts path).map (actual :: ·)
  | _, _ => none

/-- The routes. Every path starts with a slash, so the first segment is empty. -/
def table : List Route :=
  let root := PathPart.fixed ""
  let auth (name : String) : List PathPart := [root, .fixed "auth", .fixed name]
  let users : List PathPart := [root, .fixed "api", .fixed "users"]
  let tokens : List PathPart := [root, .fixed "api", .fixed "tokens"]
  [⟨"GET", [root, .fixed "health"], .health⟩,
    ⟨"POST", auth "login", .login⟩,
    ⟨"POST", auth "register", .register⟩,
    ⟨"POST", auth "refresh", .refresh⟩,
    ⟨"POST", auth "logout", .logout⟩,
    ⟨"GET", users ++ [.fixed "me"], .me⟩,
    ⟨"PUT", users ++ [.variable, .fixed "status"], .updateStatus⟩,
    ⟨"PUT", users ++ [.variable, .fixed "role"], .updateRole⟩,
    ⟨"POST", tokens, .createToken⟩,
    ⟨"GET", tokens, .listTokens⟩,
    ⟨"GET", tokens ++ [.variable], .readToken⟩,
    ⟨"DELETE", tokens ++ [.variable], .revokeToken⟩]

/-- What a route says of a method and a path. -/
def match? (route : Route) (method : String) (path : List Segment) :
    Option (Endpoint × List Segment) :=
  if route.method = method then (capture? route.parts path).map fun vary => (route.endpoint, vary)
  else none

/-- The endpoint of a method and a path, with the segments that vary. -/
def find? (method path : String) : Option (Endpoint × List Segment) :=
  table.findSome? (·.match? method (segments path))

end Route

end SessionAuth
