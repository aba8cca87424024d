import SessionAuth.Proofs.Http.Mediation

/-!
# The role that an endpoint needs

The routes say which path leads to which endpoint, and the rules of the policy say which role a
path needs. Both are laid over the same path segment by segment, but apart from one another. Under
the standard rules they agree: every path that leads to an endpoint needs the role that the
endpoint is for. So whoever passes the gate has that role, and an endpoint that checks it once more
finds it.

## Main definitions

* `Endpoint.leastRole` — the role that an endpoint is for
* `RolePolicy.usersRule`, `RolePolicy.ownRule`, `RolePolicy.roleRule` — the standard rules

## Main results

* `PolicyRule.fits_append_of_isPlain`, `PolicyRule.fits_cons_of_isPlaceholder` — what a pattern
  takes from the front of a path
* `RolePolicy.requiredRole_of_find?` — what the rules ask for is what the endpoint is for
* `Gate.rank_of_run_authorize` — whoever passes has the role that the rules ask for
* `Endpoint.cleared` — the rules and the endpoints never disagree
-/

namespace SessionAuth

/-- The least role that an endpoint is for. -/
def Endpoint.leastRole : Endpoint → Role
  | updateRole => .super
  | updateStatus => .admin
  | health | login | register | refresh | logout | me | createToken | listTokens | readToken
  | revokeToken => .user

/-! ## Patterns of rules -/

namespace PolicyRule

variable {front pattern path : List Segment}

/-- A segment of a pattern stands for itself alone. -/
def IsPlain (segment : Segment) : Prop := segment ≠ [] ∧ isPlaceholder segment = false

instance (segment : Segment) : Decidable (IsPlain segment) := inferInstanceAs (Decidable (_ ∧ _))

/-- An empty segment takes one segment, whatever it is. -/
theorem fits_cons_nil : fits ([] :: pattern) path = fits pattern path.tail := by
  cases path <;> rfl

/-- Segments that stand for themselves alone take these very segments. -/
theorem fits_append_of_isPlain (plain : ∀ segment ∈ front, IsPlain segment) :
    fits (front ++ pattern) path = true ↔
      ∃ rest, path = front ++ rest ∧ fits pattern rest = true := by
  induction front generalizing path with
  | nil => simp
  | cons expected front ih =>
    obtain ⟨nonempty, only⟩ := plain expected List.mem_cons_self
    cases path with
    | nil => simp [fits, nonempty]
    | cons actual path =>
      have hrest := @ih path fun segment mem => plain segment (List.mem_cons_of_mem _ mem)
      rw [List.cons_append, fits, Bool.and_eq_true, hrest]
      simp [segmentFits, nonempty, only, and_assoc]

/-- A segment in braces takes one segment that is not empty. -/
theorem fits_cons_of_isPlaceholder {expected : Segment}
    (placeholder : isPlaceholder expected = true) :
    fits (expected :: pattern) path = true ↔
      ∃ segment rest, segment ≠ [] ∧ path = segment :: rest ∧ fits pattern rest = true := by
  have nonempty : expected ≠ [] := by
    rintro rfl
    cases placeholder
  cases path with
  | nil => simp [fits, nonempty]
  | cons actual path =>
    have htaken : segmentFits expected actual = true ↔ actual ≠ [] := by
      simp only [segmentFits, nonempty, placeholder]
      by_cases heq : actual = expected <;> simp [heq, nonempty]
    rw [fits, Bool.and_eq_true, htaken]
    constructor
    · rintro ⟨filled, hrest⟩
      exact ⟨actual, path, filled, rfl, hrest⟩
    · rintro ⟨_, _, filled, heq, hrest⟩
      cases heq
      exact ⟨filled, hrest⟩

end PolicyRule

/-! ## The standard rules -/

namespace RolePolicy

variable {path action : String}

/-- The rule for everything about accounts. -/
def usersRule : PolicyRule := ⟨"*", "/api/users/", .admin⟩

/-- The rule for the account of the caller. -/
def ownRule : PolicyRule := ⟨"GET", "/api/users/me", .user⟩

/-- The rule for the role of an account. -/
def roleRule : PolicyRule := ⟨"PUT", "/api/users/\x7bid\x7d/role", .super⟩

theorem standard_eq : standard = ⟨[usersRule, ownRule, roleRule]⟩ := by
  decide +kernel

/-- Of the rules that apply the longest one decides. -/
theorem requiredRole_standard (path action : String) :
    standard.requiredRole path action =
      if roleRule.applies path action then .super
      else if ownRule.applies path action then .user
      else if usersRule.applies path action then .admin
      else .user := by
  rw [standard_eq, requiredRole]
  cases hrole : roleRule.applies path action <;> cases hown : ownRule.applies path action <;>
    cases husers : usersRule.applies path action <;>
    simp only [List.filter, hrole, hown, husers] <;> decide +kernel

/-- The segments, behind the first slash, of the path under which accounts lie. -/
def users : List Segment := ["api", "users"].map String.toList

theorem applies_usersRule :
    usersRule.applies path action = true ↔ users <+: (segments path).tail := by
  have hpattern : segments usersRule.pattern = [] :: (users ++ [[]]) := by decide +kernel
  have hany : usersRule.coversAction action = true := rfl
  rw [PolicyRule.applies, hany, Bool.true_and, hpattern, PolicyRule.fits_cons_nil,
    PolicyRule.fits_append_of_isPlain (by decide)]
  -- The empty segment at the end takes whatever follows, or nothing.
  have hend (rest : List Segment) : PolicyRule.fits [[]] rest = true := by
    cases rest <;> rfl
  simp [hend, List.IsPrefix, eq_comm]

theorem applies_ownRule :
    ownRule.applies path action = true ↔ ownRule.coversAction action = true ∧
      users ++ ["me".toList] <+: (segments path).tail := by
  have hpattern : segments ownRule.pattern = [] :: (users ++ ["me".toList] ++ []) := by
    decide +kernel
  rw [PolicyRule.applies, Bool.and_eq_true, hpattern, PolicyRule.fits_cons_nil,
    PolicyRule.fits_append_of_isPlain (by decide)]
  refine and_congr_right fun _ => ?_
  constructor
  · rintro ⟨rest, hpath, -⟩
    exact ⟨rest, hpath.symm⟩
  · rintro ⟨rest, hpath⟩
    exact ⟨rest, hpath.symm, rfl⟩

theorem applies_roleRule :
    roleRule.applies path action = true ↔ roleRule.coversAction action = true ∧
      ∃ segment, segment ≠ [] ∧ users ++ [segment, "role".toList] <+: (segments path).tail := by
  have hpattern : segments roleRule.pattern =
      [] :: (users ++ "\x7bid\x7d".toList :: (["role".toList] ++ [])) := by
    decide +kernel
  have hbraces : PolicyRule.isPlaceholder "\x7bid\x7d".toList = true := by decide
  have hlast : ∀ segment ∈ ["role".toList], PolicyRule.IsPlain segment := by decide
  rw [PolicyRule.applies, Bool.and_eq_true, hpattern, PolicyRule.fits_cons_nil,
    PolicyRule.fits_append_of_isPlain (by decide)]
  refine and_congr_right fun _ => ?_
  constructor
  · rintro ⟨_, hpath, htaken⟩
    obtain ⟨segment, _, filled, rfl, hrole⟩ :=
      (PolicyRule.fits_cons_of_isPlaceholder hbraces).mp htaken
    obtain ⟨rest, rfl, -⟩ := (PolicyRule.fits_append_of_isPlain hlast).mp hrole
    exact ⟨segment, filled, rest, by simp [hpath]⟩
  · rintro ⟨segment, filled, rest, hpath⟩
    have hrole : PolicyRule.fits (["role".toList] ++ []) ("role".toList :: rest) = true :=
      (PolicyRule.fits_append_of_isPlain hlast).mpr ⟨rest, rfl, rfl⟩
    exact ⟨segment :: "role".toList :: rest, by simp [← hpath],
      (PolicyRule.fits_cons_of_isPlaceholder hbraces).mpr ⟨segment, _, filled, rfl, hrole⟩⟩

/-- Outside of the accounts no rule applies, and every role is enough. -/
theorem requiredRole_of_outside (outside : ¬users <+: (segments path).tail) :
    standard.requiredRole path action = .user := by
  rw [requiredRole_standard, if_neg, if_neg, if_neg]
  · rwa [applies_usersRule]
  · rw [applies_ownRule]
    rintro ⟨-, own⟩
    exact outside ((List.prefix_append _ _).trans own)
  · rw [applies_roleRule]
    rintro ⟨-, segment, -, role⟩
    exact outside ((List.prefix_append _ _).trans role)

/-- On a path that leads to an endpoint the rules ask for the role that the endpoint is for. -/
theorem requiredRole_of_find? {request : Request} {endpoint : Endpoint} {vary : List Segment}
    (found : Route.find? request.method request.path = some (endpoint, vary)) :
    standard.requiredRole request.path request.method = endpoint.leastRole := by
  obtain ⟨hmethod, hpath⟩ := Request.asks_of_find? found
  obtain ⟨hlength, hfilled⟩ := Route.filled_of_find? found
  rw [hmethod]
  cases endpoint with
  | updateRole =>
    obtain ⟨segment, rfl⟩ := List.length_eq_one_iff.mp hlength
    have filled : segment ≠ [] := Ne.symm (List.ne_of_not_mem_cons hfilled)
    rw [requiredRole_standard, if_pos]
    · rfl
    · exact applies_roleRule.mpr ⟨by decide, segment, filled, [], by rw [hpath]; rfl⟩
  | updateStatus =>
    obtain ⟨segment, rfl⟩ := List.length_eq_one_iff.mp hlength
    rw [requiredRole_standard, if_neg, if_neg, if_pos]
    · rfl
    · exact applies_usersRule.mpr ⟨[segment, "status".toList], by rw [hpath]; rfl⟩
    · rw [applies_ownRule]
      rintro ⟨action, -⟩
      exact absurd action (by decide)
    -- The last segment tells the rule for the role apart.
    · rw [applies_roleRule, hpath]
      rintro ⟨-, other, -, rest, hrest⟩
      simp [Endpoint.segments, users] at hrest
  | me =>
    rw [requiredRole_standard, if_neg, if_pos]
    · rfl
    · exact applies_ownRule.mpr ⟨by decide, [], by rw [hpath]; rfl⟩
    · rw [applies_roleRule]
      rintro ⟨action, -⟩
      exact absurd action (by decide)
  | health | login | register | refresh | logout | createToken | listTokens | readToken
  | revokeToken =>
    refine requiredRole_of_outside ?_
    rw [hpath]
    rintro ⟨rest, hrest⟩
    simp [Endpoint.segments, users] at hrest

end RolePolicy

/-! ## Behind the gate -/

/-- Whoever passes the gate under a list of rules has the role that they ask for. -/
theorem Gate.rank_of_run_authorize {gate : Gate} {policy : RolePolicy}
    (engine : gate.policy = policy.engine) {now : Instant} {request : GateRequest}
    {backend : Backend} {store after : Store} {caller : Caller}
    (allowed : (gate.authorize now request).run.run backend store =
      some (.ok (.allowed caller), after)) :
    (policy.requiredRole request.path request.method).rank ≤ caller.account.role.rank := by
  have answers (subject resource action : String) : ∃ allowed,
      gate.policy.enforce subject resource action = .ok allowed := by
    rw [engine]
    exact ⟨_, rfl⟩
  have hverdict := verdict_of_decision (decision_of_run_authorize allowed)
  obtain ⟨token, admitted⟩ := (verdict_eq_ok_iff answers store now request caller).mp hverdict
  obtain ⟨role, -, hrank, hrole⟩ := admitted.permitted
  rw [engine] at hrole
  have hallows : policy.allows role.name request.path request.method = true := Except.ok.inj hrole
  rw [RolePolicy.allows, Role.parse_name] at hallows
  exact Nat.le_trans (Role.covers_iff.mp hallows) hrank

theorem Service.requireRole_eq_ok {caller : Caller} {role : Role}
    (rank : role.rank ≤ caller.account.role.rank) : requireRole caller role = .ok () :=
  if_pos (Role.covers_iff.mpr rank)

/-- The rules and the endpoints never disagree. Whatever the target of a request spells and however
it is escaped, if it leads to an endpoint then the standard rules ask for the role that the
endpoint is for: the highest one to change a role, that of an administrator to change a status, and
else any. So behind a gate with these rules the endpoints that check the role of their caller once
more never refuse one, whatever is exempt and whatever fails. -/
theorem Endpoint.cleared {request : Request} {endpoint : Endpoint} {vary : List Segment}
    (found : Route.find? request.method request.path = some (endpoint, vary)) :
    RolePolicy.standard.requiredRole request.path request.method = endpoint.leastRole ∧
    ∀ service : Service, service.policy = RolePolicy.standard.engine →
      ∀ (backend : Backend) (store after : Store) (now : Instant) (caller : Caller),
        (service.gate.authorize now (request.toGate service.settings.csrfHeader)).run.run backend
          store = some (.ok (.allowed caller), after) →
        (endpoint = .updateStatus → Service.requireRole caller .admin = .ok ()) ∧
        (endpoint = .updateRole → Service.requireRole caller .super = .ok ()) := by
  have hrole := RolePolicy.requiredRole_of_find? found
  refine ⟨hrole, ?_⟩
  intro service standard backend store after now caller allowed
  have hrank := Gate.rank_of_run_authorize standard allowed
  -- The gate sees the path that the router sees.
  change (RolePolicy.standard.requiredRole request.path request.method).rank ≤ _ at hrank
  rw [hrole] at hrank
  refine ⟨?_, ?_⟩
  · intro status
    rw [status] at hrank
    exact Service.requireRole_eq_ok hrank
  · intro role
    rw [role] at hrank
    exact Service.requireRole_eq_ok hrank

namespace AdminRequest

/-- A change is asked for over HTTP, with a bearer token. -/
def put (target token : String) : Request :=
  ⟨"PUT", target, [("Authorization", "Bearer " ++ token)], ""⟩

/-- The escaped path of a change of role needs the highest role. That of a change of status, with
the same escape and the name that stands for the caller elsewhere, is open to an administrator. -/
theorem cleared_put_escaped : ∃ (token : String) (caller : Caller),
    Route.find? "PUT" (put "/api/users/7/%72ole" token).path = some (.updateRole, ["7".toList]) ∧
    RolePolicy.standard.requiredRole (put "/api/users/7/%72ole" token).path "PUT" = .super ∧
    Route.find? "PUT" (put "/api/users/me/st%61tus" token).path =
      some (.updateStatus, ["me".toList]) ∧
    (service.gate.authorize now
      ((put "/api/users/me/st%61tus" token).toGate service.settings.csrfHeader)).run.run .healthy
        store = some (.ok (.allowed caller), store) ∧
    Service.requireRole caller .admin = .ok () := by
  obtain ⟨issued, hissued⟩ : ∃ issued,
      TokenIssuer.echo.issueAccess now .nil 7 [.admin, .user] = .ok issued := ⟨_, rfl⟩
  have hrolePath : (put "/api/users/7/%72ole" issued.token).path = "/api/users/7/role" := by
    change Percent.decodePath (String.ofList ("/api/users/7/%72ole".toList.takeWhile _)) = _
    decide +kernel
  have hstatusPath :
      (put "/api/users/me/st%61tus" issued.token).path = "/api/users/me/status" := by
    change Percent.decodePath (String.ofList ("/api/users/me/st%61tus".toList.takeWhile _)) = _
    decide +kernel
  have hrole : Route.find? (put "/api/users/7/%72ole" issued.token).method
      (put "/api/users/7/%72ole" issued.token).path = some (.updateRole, ["7".toList]) := by
    change Route.find? "PUT" _ = _
    rw [hrolePath]
    decide +kernel
  have hstatus : Route.find? (put "/api/users/me/st%61tus" issued.token).method
      (put "/api/users/me/st%61tus" issued.token).path =
        some (.updateStatus, ["me".toList]) := by
    change Route.find? "PUT" _ = _
    rw [hstatusPath]
    decide +kernel
  have hbearer : (put "/api/users/me/st%61tus" issued.token).rawHeader? "Authorization" =
      some ("Bearer " ++ issued.token) := by
    simp [put, Request.rawHeader?]
  have permitted : Gate.checkRoles service.gate.policy
      (put "/api/users/me/st%61tus" issued.token).path
      (put "/api/users/me/st%61tus" issued.token).method [.admin, .user] = .ok () := by
    change Gate.checkRoles _ _ "PUT" _ = _
    rw [hstatusPath]
    decide +kernel
  have hallowed := allowed_of_bearer service.gate rfl hissued hbearer service.settings.csrfHeader
    rfl permitted
  refine ⟨issued.token, _, hrole, (Endpoint.cleared hrole).1, hstatus, hallowed, ?_⟩
  exact ((Endpoint.cleared hstatus).2 service rfl _ _ _ _ _ hallowed).1 rfl

end AdminRequest

end SessionAuth
