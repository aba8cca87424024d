import SessionAuth.Http.Request
import SessionAuth.Http.Route

/-!
# Where endpoints are found

Each endpoint is reached by one method and under one path, in which at most one segment
varies.

## Main definitions

* `Endpoint.method`, `Endpoint.segments` — the method and the path of an endpoint
* `Endpoint.places` — how many segments vary in that path
* `Request.Asks` — a request is for an endpoint

## Main results

* `Route.fill_of_capture?` — a captured path is the pattern with its varying segments put in
* `Route.filled_of_find?` — each place that varies is filled
* `Request.asks_of_find?` — a request is led only to the endpoint that it is for
* `Request.Asks.find?_of_places` — a request for an endpoint without such places is led to it
-/

namespace SessionAuth

/-- The method of an endpoint. -/
def Endpoint.method : Endpoint → String
  | health | me | listTokens | readToken => "GET"
  | login | register | refresh | logout | createToken => "POST"
  | updateStatus | updateRole => "PUT"
  | revokeToken => "DELETE"

/-- The path of an endpoint, given the segments that vary. -/
def Endpoint.segments : Endpoint → List Segment → List Segment
  | health, _ => ["", "health"].map String.toList
  | login, _ => ["", "auth", "login"].map String.toList
  | register, _ => ["", "auth", "register"].map String.toList
  | refresh, _ => ["", "auth", "refresh"].map String.toList
  | logout, _ => ["", "auth", "logout"].map String.toList
  | me, _ => ["", "api", "users", "me"].map String.toList
  | updateStatus, vary => ["", "api", "users"].map String.toList ++ vary ++ ["status".toList]
  | updateRole, vary => ["", "api", "users"].map String.toList ++ vary ++ ["role".toList]
  | createToken, _ | listTokens, _ => ["", "api", "tokens"].map String.toList
  | readToken, vary | revokeToken, vary => ["", "api", "tokens"].map String.toList ++ vary

/-- The number of segments that vary in the path of an endpoint. -/
def Endpoint.places : Endpoint → Nat
  | updateStatus | updateRole | readToken | revokeToken => 1
  | health | login | register | refresh | logout | me | createToken | listTokens => 0

/-- A request has the method and the path of an endpoint. -/
def Request.Asks (request : Request) (endpoint : Endpoint) (vary : List Segment) : Prop :=
  request.method = endpoint.method ∧ segments request.path = endpoint.segments vary

namespace Route

/-- A pattern with segments put in where it varies. -/
def fill : List PathPart → List Segment → List Segment
  | [], _ => []
  | .fixed expected :: parts, vary => expected.toList :: fill parts vary
  | .variable :: parts, segment :: vary => segment :: fill parts vary
  | .variable :: _, [] => []

/-- What is captured of a path puts the path together again. -/
theorem fill_of_capture? {parts : List PathPart} {path vary : List Segment}
    (h : capture? parts path = some vary) : path = fill parts vary := by
  -- Each part of the pattern takes one segment, and captures it if it varies.
  induction parts generalizing path vary with
  | nil =>
    cases path with
    | nil => rfl
    | cons segment path => cases h
  | cons part parts ih =>
    cases path with
    | nil => cases part <;> cases h
    | cons segment path =>
      cases part with
      | fixed expected =>
        rw [capture?] at h
        split at h
        · next heq => rw [fill, heq, ← ih h]
        · cases h
      | _ =>
        rw [capture?] at h
        split at h
        · cases h
        · obtain ⟨rest, hrest, rfl⟩ := Option.map_eq_some_iff.mp h
          rw [fill, ← ih hrest]

/-- As many segments vary as the pattern has places for. -/
theorem length_of_capture? {parts : List PathPart} {path vary : List Segment}
    (h : capture? parts path = some vary) : vary.length = parts.count .variable := by
  induction parts generalizing path vary with
  | nil =>
    cases path with
    | nil =>
      cases h
      rfl
    | cons segment path => cases h
  | cons part parts ih =>
    cases path with
    | nil => cases part <;> cases h
    | cons segment path =>
      cases part with
      | fixed expected =>
        rw [capture?] at h
        split at h
        · rw [ih h]
          exact (List.count_cons_of_ne (by simp)).symm
        · cases h
      | _ =>
        rw [capture?] at h
        split at h
        · cases h
        · obtain ⟨rest, hrest, rfl⟩ := Option.map_eq_some_iff.mp h
          rw [List.length_cons, ih hrest, List.count_cons_self]

/-- No segment that varies is empty. -/
theorem nil_notMem_of_capture? {parts : List PathPart} {path vary : List Segment}
    (h : capture? parts path = some vary) : [] ∉ vary := by
  induction parts generalizing path vary with
  | nil =>
    cases path with
    | nil =>
      cases h
      exact List.not_mem_nil
    | cons segment path => cases h
  | cons part parts ih =>
    cases path with
    | nil => cases part <;> cases h
    | cons segment path =>
      cases part with
      | fixed expected =>
        rw [capture?] at h
        split at h
        · exact ih h
        · cases h
      | _ =>
        rw [capture?] at h
        split at h
        · cases h
        · next filled =>
          obtain ⟨rest, hrest, rfl⟩ := Option.map_eq_some_iff.mp h
          rw [List.mem_cons, not_or]
          exact ⟨Ne.symm filled, ih hrest⟩

theorem exists_mem_table {method path : String} {endpoint : Endpoint} {vary : List Segment}
    (h : find? method path = some (endpoint, vary)) :
    ∃ route ∈ table, route.endpoint = endpoint ∧ route.method = method ∧
      capture? route.parts (segments path) = some vary := by
  obtain ⟨route, hmem, hmatch⟩ := List.exists_of_findSome?_eq_some h
  refine ⟨route, hmem, ?_⟩
  rw [match?] at hmatch
  split at hmatch
  · next hmethod =>
    obtain ⟨captured, hcaptured, heq⟩ := Option.map_eq_some_iff.mp hmatch
    cases heq
    exact ⟨rfl, hmethod, hcaptured⟩
  · cases hmatch

/-- A request that is led to an endpoint fills each place that varies in its path. -/
theorem filled_of_find? {method path : String} {endpoint : Endpoint} {vary : List Segment}
    (h : find? method path = some (endpoint, vary)) :
    vary.length = endpoint.places ∧ [] ∉ vary := by
  obtain ⟨route, hmem, rfl, -, hcapture⟩ := exists_mem_table h
  have hplaces : ∀ route ∈ table, route.parts.count .variable = route.endpoint.places := by
    decide
  exact ⟨(length_of_capture? hcapture).trans (hplaces route hmem), nil_notMem_of_capture? hcapture⟩

end Route

/-- A request is led only to the endpoint that it is for. -/
theorem Request.asks_of_find? {request : Request} {endpoint : Endpoint} {vary : List Segment}
    (h : Route.find? request.method request.path = some (endpoint, vary)) :
    request.Asks endpoint vary := by
  obtain ⟨route, hmem, hendpoint, hmethod, hcapture⟩ := Route.exists_mem_table h
  have hpath := Route.fill_of_capture? hcapture
  have hlength := Route.length_of_capture? hcapture
  unfold Request.Asks
  rw [hpath, ← hmethod, ← hendpoint]
  clear hpath hcapture h hendpoint hmethod
  -- No route has more than one place that varies, so three lengths have to be looked at.
  have hone : ∀ route ∈ Route.table, route.parts.count .variable ≤ 1 := by decide
  have hshort := hone route hmem
  simp only [Route.table, List.mem_cons, List.not_mem_nil, or_false] at hmem
  match vary with
  | [] =>
    rcases hmem with rfl | rfl | rfl | rfl | rfl | rfl | rfl | rfl | rfl | rfl | rfl | rfl <;>
      first | exact ⟨rfl, rfl⟩ | exact absurd hlength (by decide)
  | [segment] =>
    rcases hmem with rfl | rfl | rfl | rfl | rfl | rfl | rfl | rfl | rfl | rfl | rfl | rfl <;>
      exact ⟨rfl, rfl⟩
  | _ :: _ :: _ =>
    simp only [List.length_cons] at hlength
    omega

/-- A request for an endpoint whose path does not vary is led to it. -/
theorem Request.Asks.find?_of_places {request : Request} {endpoint : Endpoint}
    (asks : request.Asks endpoint []) (fixed : endpoint.places = 0) :
    Route.find? request.method request.path = some (endpoint, []) := by
  obtain ⟨hmethod, hpath⟩ := asks
  unfold Route.find?
  rw [hmethod, hpath]
  cases endpoint with
  | updateStatus | updateRole | readToken | revokeToken => cases fixed
  | _ => rfl

end SessionAuth
