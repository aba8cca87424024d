import SessionAuth.Gate
import SessionAuth.Proofs.Execution
import SessionAuth.Proofs.Token.RoundTrip

/-!
# Who passes the gate

A request passes stages in a fixed order: its credential names an account, the account is in
good standing, a cookie is guarded against forged requests, a personal token works by its
record, and the policy allows one of the roles. Each stage is stated as a condition on the
request, the store and the time. Whoever meets all of them is admitted, and whoever does not
is denied for the first stage that fails.

## Main definitions

* `GateRequest.Carries` — the credential that counts, and where it comes from
* `Recognized`, `InGoodStanding`, `Guarded`, `Working`, `Admitted` — the stages, each with all
  before it
* `Denied` — why a request is denied, with the stages that it has passed

## Main results

* `Gate.working_of_verdict` — nobody passes without a credential that works, whatever the policy
* `Gate.admitted_or_denied` — a request is one or the other
* `Gate.exec_examine`, `Gate.exec_authorize` — the examination of a request, and the whole gate,
  leave the store as it is
* `Gate.authorize_iff` — who is exempt, who passes and who is denied for what
-/

namespace SessionAuth

/-! ## Credentials -/

/-- The credential of a request: the bearer token unless it is missing or empty, and else the
access cookie unless that is. -/
inductive GateRequest.Carries (request : GateRequest) : String → CredentialSource → Prop
  | header {token : String} (bearer : request.bearer = some token) (nonempty : token ≠ "") :
      Carries request token .header
  | cookie {token : String} (noBearer : request.bearer.getD "" = "")
      (cookie : request.accessCookie = some token) (nonempty : token ≠ "") :
      Carries request token .cookie

theorem filter_ne_empty_eq_some_iff {text : Option String} {s : String} :
    text.filter (· ≠ "") = some s ↔ text = some s ∧ s ≠ "" := by
  simp [Option.filter_eq_some_iff]

theorem filter_ne_empty_eq_none_iff {text : Option String} :
    text.filter (· ≠ "") = none ↔ text.getD "" = "" := by
  cases text <;> simp

theorem GateRequest.carries_iff {request : GateRequest} {token : String}
    {source : CredentialSource} :
    request.Carries token source ↔ request.credential? = some (token, source) := by
  unfold credential?
  constructor
  · intro h
    cases h with
    | header bearer nonempty => rw [filter_ne_empty_eq_some_iff.mpr ⟨bearer, nonempty⟩]
    | cookie noBearer cookie nonempty =>
      rw [filter_ne_empty_eq_none_iff.mpr noBearer,
        filter_ne_empty_eq_some_iff.mpr ⟨cookie, nonempty⟩]
      rfl
  · intro h
    split at h
    · next bearer hbearer =>
      obtain ⟨rfl, rfl⟩ := Prod.mk.inj (Option.some.inj h)
      obtain ⟨hbearer, nonempty⟩ := filter_ne_empty_eq_some_iff.mp hbearer
      exact .header hbearer nonempty
    · next hbearer =>
      obtain ⟨cookie, hcookie, hsource⟩ := Option.map_eq_some_iff.mp h
      obtain ⟨rfl, rfl⟩ := Prod.mk.inj hsource
      obtain ⟨hcookie, nonempty⟩ := filter_ne_empty_eq_some_iff.mp hcookie
      exact .cookie (filter_ne_empty_eq_none_iff.mp hbearer) hcookie nonempty

/-! ## Stages -/

section Stages

variable (gate : Gate) (store : Store) (now : Instant) (request : GateRequest)

/-- The credential is a token that holds and is no refresh token. -/
structure Accepted (token : String) (source : CredentialSource) (claims : Claims) : Prop where
  carries : request.Carries token source
  valid : gate.issuer.validate now token = .ok claims
  kind : claims.kind ≠ .refresh

/-- The account that the credential names is stored. -/
structure Recognized (token : String) (caller : Caller) : Prop extends
    Accepted gate now request token caller.source caller.claims where
  account : store.account? caller.claims.subject = some caller.account

/-- The account is neither banned nor locked. -/
structure InGoodStanding (token : String) (caller : Caller) : Prop extends
    Recognized gate store now request token caller where
  notBanned : caller.account.banned = false
  notLocked : caller.account.locked = false

/-- A credential from a cookie comes with the code that goes with it, where the method may
change something. -/
structure Guarded (token : String) (caller : Caller) : Prop extends
    InGoodStanding gate store now request token caller where
  unforged : caller.source = .cookie → request.method ∉ safeMethods →
    gate.guard.verify token request.csrfCookie request.csrfHeader = .ok ()

/-- A personal token belongs to a record of its owner that is neither revoked nor past. -/
structure Working (token : String) (caller : Caller) : Prop extends
    Guarded gate store now request token caller where
  record : caller.claims.kind = .personal → ∃ record, store.token? caller.claims.id = some record ∧
    record.owner = caller.claims.subject ∧
    gate.hasher.verifyToken token record.tokenHash = true ∧ record.revoked = false ∧
    now ≤ record.expiresAt

/-- The policy allows a role of the token that is not above that of the account. -/
structure Admitted (token : String) (caller : Caller) : Prop extends
    Working gate store now request token caller where
  permitted : ∃ role ∈ caller.claims.roles, role.rank ≤ caller.account.role.rank ∧
    gate.policy.enforce role.name request.path request.method = .ok true

/-- Why a request is denied: the first stage that it fails, and how. -/
inductive Denied : AuthError → Prop
  | missingToken (none : ∀ token source, ¬request.Carries token source) : Denied .missingToken
  | invalidToken {token : String} {source : CredentialSource} {fault : TokenFault}
      (carries : request.Carries token source)
      (invalid : gate.issuer.validate now token = .error (.invalidToken fault)) :
      Denied (.invalidToken fault)
  | refreshToken {token : String} {source : CredentialSource} {claims : Claims}
      (carries : request.Carries token source)
      (valid : gate.issuer.validate now token = .ok claims) (kind : claims.kind = .refresh) :
      Denied .refreshTokenAsCredential
  | unknownSubject {token : String} {source : CredentialSource} {claims : Claims}
      (accepted : Accepted gate now request token source claims)
      (unknown : store.account? claims.subject = none) : Denied .unknownSubject
  | banned {token : String} {caller : Caller}
      (recognized : Recognized gate store now request token caller)
      (banned : caller.account.banned = true) : Denied .banned
  | locked {token : String} {caller : Caller}
      (recognized : Recognized gate store now request token caller)
      (notBanned : caller.account.banned = false) (locked : caller.account.locked = true) :
      Denied .locked
  | forged {token : String} {caller : Caller} {e : AuthError}
      (standing : InGoodStanding gate store now request token caller)
      (cookie : caller.source = .cookie) (unsafeMethod : request.method ∉ safeMethods)
      (forged : gate.guard.verify token request.csrfCookie request.csrfHeader = .error e) :
      Denied e
  | unknownRecord {token : String} {caller : Caller}
      (guarded : Guarded gate store now request token caller)
      (personal : caller.claims.kind = .personal)
      (unknown : ∀ record, store.token? caller.claims.id = some record →
        record.owner ≠ caller.claims.subject) : Denied .unknownPersonalToken
  | otherToken {token : String} {caller : Caller} {record : PersonalToken}
      (guarded : Guarded gate store now request token caller)
      (personal : caller.claims.kind = .personal)
      (stored : store.token? caller.claims.id = some record)
      (owner : record.owner = caller.claims.subject)
      (other : gate.hasher.verifyToken token record.tokenHash = false) :
      Denied .personalTokenMismatch
  | revoked {token : String} {caller : Caller} {record : PersonalToken}
      (guarded : Guarded gate store now request token caller)
      (personal : caller.claims.kind = .personal)
      (stored : store.token? caller.claims.id = some record)
      (owner : record.owner = caller.claims.subject)
      (same : gate.hasher.verifyToken token record.tokenHash = true)
      (revoked : record.revoked = true) : Denied .personalTokenRevoked
  | expired {token : String} {caller : Caller} {record : PersonalToken}
      (guarded : Guarded gate store now request token caller)
      (personal : caller.claims.kind = .personal)
      (stored : store.token? caller.claims.id = some record)
      (owner : record.owner = caller.claims.subject)
      (same : gate.hasher.verifyToken token record.tokenHash = true)
      (notRevoked : record.revoked = false) (past : record.expiresAt < now) :
      Denied .personalTokenExpired
  | insufficientRole {token : String} {caller : Caller}
      (working : Working gate store now request token caller)
      (refused : ∀ role ∈ caller.claims.roles, role.rank ≤ caller.account.role.rank →
        gate.policy.enforce role.name request.path request.method = .ok false) :
      Denied .insufficientRole

end Stages

section Decisions

variable {gate : Gate} {store : Store} {now : Instant} {request : GateRequest}
  {token : String} {caller : Caller}

/-! ## Single checks -/

theorem Account.checkStatus_eq_ok {account : Account} (notBanned : account.banned = false)
    (notLocked : account.locked = false) : account.checkStatus = .ok () := by
  simp [checkStatus, notBanned, notLocked]

namespace Gate

/-- What the check of a personal token answers on a store. -/
def personalVerdict (gate : Gate) (store : Store) (now : Instant) (claims : Claims)
    (token : String) : Except AuthError Unit :=
  match store.token? claims.id with
  | none => .error .unknownPersonalToken
  | some record =>
    if record.owner ≠ claims.subject then .error .unknownPersonalToken
    else PersonalTokens.check ⟨gate.issuer, gate.hasher⟩ now record token

theorem exec_checkPersonal (claims : Claims) :
    (gate.checkPersonal now claims token).exec store =
      (gate.personalVerdict store now claims token, store) := by
  unfold checkPersonal personalVerdict
  rw [Action.exec_bind, Action.exec_askBounded, Store.respond_findToken]
  cases store.token? claims.id with
  | none => rfl
  | some record =>
    by_cases howner : record.owner ≠ claims.subject
    · simp only [if_pos howner]
      rfl
    · simp only [if_neg howner]
      exact Action.exec_ofExcept _

/-- The policy is asked for one role after the other, and one that is allowed is enough. -/
theorem checkRoles_eq (answers : ∀ subject resource action, ∃ allowed,
      gate.policy.enforce subject resource action = .ok allowed) (path method : String)
    (roles : List Role) :
    (checkRoles gate.policy path method roles = .ok () ∧
      ∃ role ∈ roles, gate.policy.enforce role.name path method = .ok true) ∨
    (checkRoles gate.policy path method roles = .error .insufficientRole ∧
      ∀ role ∈ roles, gate.policy.enforce role.name path method = .ok false) := by
  induction roles with
  | nil => exact Or.inr ⟨rfl, by simp⟩
  | cons role roles ih =>
    obtain ⟨allowed, hallowed⟩ := answers role.name path method
    cases allowed with
    | true => exact Or.inl ⟨by simp [checkRoles, hallowed], role, by simp, hallowed⟩
    | false =>
      -- A role that is refused leaves the decision to those behind it.
      have hskip : checkRoles gate.policy path method (role :: roles) =
          checkRoles gate.policy path method roles := by
        simp [checkRoles, hallowed]
      rw [hskip]
      rcases ih with ⟨hok, other, hmem, hother⟩ | ⟨herror, hall⟩
      · exact Or.inl ⟨hok, other, by simp [hmem], hother⟩
      · exact Or.inr ⟨herror, by simpa [hallowed] using hall⟩

/-! ## The whole examination -/

/-- What is decided of a request once its account is known. -/
def judge (gate : Gate) (store : Store) (now : Instant) (request : GateRequest) (token : String)
    (caller : Caller) : Except AuthError Caller := do
  caller.account.checkStatus
  gate.checkForgery request token caller.source
  if caller.claims.kind = .personal then gate.personalVerdict store now caller.claims token
  checkRoles gate.policy request.path request.method (effectiveRoles caller.claims caller.account)
  return caller

/-- What the examination of a request decides on a store. -/
def verdict (gate : Gate) (store : Store) (now : Instant) (request : GateRequest) :
    Except AuthError Caller :=
  match request.credential? with
  | none => .error .missingToken
  | some (token, source) => do
    let claims ← gate.claimsOf now token
    match store.account? claims.subject with
    | none => .error .unknownSubject
    | some account => gate.judge store now request token ⟨claims, account, source⟩

/-- The examination of a request leaves the store as it is. -/
theorem exec_examine :
    (gate.examine now request).exec store = (gate.verdict store now request, store) := by
  unfold examine verdict
  cases request.credential? with
  | none => rfl
  | some credential =>
    obtain ⟨token, source⟩ := credential
    simp only
    cases gate.claimsOf now token with
    | error e => rfl
    | ok claims =>
      rw [Action.ofExcept_ok, Action.pure_bind, Action.exec_bind, Action.exec_askBounded,
        Store.respond_findAccount]
      change _ = (match store.account? claims.subject with
        | none => Except.error AuthError.unknownSubject
        | some account => gate.judge store now request token ⟨claims, account, source⟩, store)
      cases store.account? claims.subject with
      | none => rfl
      | some account =>
        simp only [judge]
        cases account.checkStatus with
        | error e => rfl
        | ok _ =>
          cases gate.checkForgery request token source with
          | error e => rfl
          | ok _ =>
            -- Only here the examination asks the store again, and only for a personal token.
            change (if claims.kind = .personal then _ else _ : Action Caller).exec store =
              ((if claims.kind = .personal then _ else _ : Except AuthError Caller), store)
            by_cases hkind : claims.kind = .personal
            · rw [if_pos hkind, if_pos hkind, Action.exec_bind, exec_checkPersonal]
              cases gate.personalVerdict store now claims token with
              | error e => rfl
              | ok _ => cases checkRoles gate.policy _ _ (effectiveRoles claims account) <;> rfl
            · rw [if_neg hkind, if_neg hkind]
              cases checkRoles gate.policy _ _ (effectiveRoles claims account) <;> rfl

/-- What the gate decides of a request on a store. -/
def decision (gate : Gate) (store : Store) (now : Instant) (request : GateRequest) :
    Except AuthError GateOutcome :=
  if gate.settings.isExempt request.path then .ok .exempt
  else (gate.verdict store now request).map .allowed

/-- The gate leaves the store as it is. -/
theorem exec_authorize :
    (gate.authorize now request).exec store = (gate.decision store now request, store) := by
  unfold authorize decision
  cases gate.settings.isExempt request.path with
  | true => rfl
  | false =>
    rw [if_neg (by decide), if_neg (by decide), Action.exec_bind, exec_examine]
    cases gate.verdict store now request <;> rfl

theorem isExempt_of_decision (h : gate.decision store now request = .ok .exempt) :
    gate.settings.isExempt request.path = true := by
  unfold decision at h
  split at h
  · assumption
  · cases hverdict : gate.verdict store now request <;> rw [hverdict] at h <;> cases h

/-- Nobody passes as a caller but by the examination. -/
theorem verdict_of_decision {caller : Caller}
    (h : gate.decision store now request = .ok (.allowed caller)) :
    gate.verdict store now request = .ok caller := by
  unfold decision at h
  split at h
  · cases h
  · cases hverdict : gate.verdict store now request <;> rw [hverdict] at h <;> cases h
    rfl

theorem claimsOf_eq_ok {claims : Claims} (valid : gate.issuer.validate now token = .ok claims)
    (kind : claims.kind ≠ .refresh) : gate.claimsOf now token = .ok claims := by
  simp only [claimsOf, valid, if_neg kind]

theorem verdict_of_accepted {source : CredentialSource} {claims : Claims}
    (h : Accepted gate now request token source claims) :
    gate.verdict store now request =
      match store.account? claims.subject with
      | none => .error .unknownSubject
      | some account => gate.judge store now request token ⟨claims, account, source⟩ := by
  rw [verdict, GateRequest.carries_iff.mp h.carries]
  simp only [claimsOf_eq_ok h.valid h.kind]
  rfl

theorem verdict_of_recognized (h : Recognized gate store now request token caller) :
    gate.verdict store now request = gate.judge store now request token caller := by
  rw [verdict_of_accepted h.toAccepted, h.account]

theorem checkForgery_of_guarded (h : Guarded gate store now request token caller) :
    gate.checkForgery request token caller.source = .ok () := by
  unfold checkForgery
  split
  · next happlies =>
    simp only [CsrfGuard.applies, Bool.and_eq_true, decide_eq_true_eq, Bool.not_eq_true',
      List.contains_eq_mem, decide_eq_false_iff_not] at happlies
    exact h.unforged happlies.1 happlies.2
  · rfl

theorem verdict_of_guarded (h : Guarded gate store now request token caller) :
    gate.verdict store now request = (do
      if caller.claims.kind = .personal then
        gate.personalVerdict store now caller.claims token
      checkRoles gate.policy request.path request.method
        (effectiveRoles caller.claims caller.account)
      return caller) := by
  rw [verdict_of_recognized h.toRecognized, judge,
    Account.checkStatus_eq_ok h.notBanned h.notLocked, checkForgery_of_guarded h]
  rfl

/-- A record of somebody else is as good as none. -/
theorem personalVerdict_of_unknown {claims : Claims}
    (unknown : ∀ record, store.token? claims.id = some record → record.owner ≠ claims.subject) :
    gate.personalVerdict store now claims token = .error .unknownPersonalToken := by
  unfold personalVerdict
  cases hstored : store.token? claims.id with
  | none => rfl
  | some record => simp only [if_pos (unknown record hstored)]

theorem verdict_of_unknownRecord (guarded : Guarded gate store now request token caller)
    (personal : caller.claims.kind = .personal)
    (unknown : ∀ record, store.token? caller.claims.id = some record →
      record.owner ≠ caller.claims.subject) :
    gate.verdict store now request = .error .unknownPersonalToken := by
  rw [verdict_of_guarded guarded, if_pos personal, personalVerdict_of_unknown unknown]
  rfl

theorem personalVerdict_of_record {claims : Claims} {record : PersonalToken}
    (stored : store.token? claims.id = some record) (owner : record.owner = claims.subject) :
    gate.personalVerdict store now claims token =
      PersonalTokens.check ⟨gate.issuer, gate.hasher⟩ now record token := by
  simp only [personalVerdict, stored, owner, ne_eq, not_true_eq_false, if_false]

theorem verdict_of_working (h : Working gate store now request token caller) :
    gate.verdict store now request =
      (checkRoles gate.policy request.path request.method
        (effectiveRoles caller.claims caller.account)).map fun _ => caller := by
  rw [verdict_of_guarded h.toGuarded]
  by_cases personal : caller.claims.kind = .personal
  · obtain ⟨record, stored, owner, same, notRevoked, notPast⟩ := h.record personal
    have hcheck : gate.personalVerdict store now caller.claims token = .ok () := by
      rw [personalVerdict_of_record stored owner, PersonalTokens.check, same, notRevoked,
        if_neg (mt Instant.not_le.mpr (not_not_intro notPast))]
      rfl
    rw [if_pos personal, hcheck]
    cases checkRoles gate.policy _ _ (effectiveRoles caller.claims caller.account) <;> rfl
  · rw [if_neg personal]
    cases checkRoles gate.policy _ _ (effectiveRoles caller.claims caller.account) <;> rfl

theorem mem_effectiveRoles {claims : Claims} {account : Account} {role : Role} :
    role ∈ effectiveRoles claims account ↔
      role ∈ claims.roles ∧ role.rank ≤ account.role.rank := by
  simp [effectiveRoles, Role.covers_iff]

/-- A personal token works, or there is a reason to deny it. -/
theorem working_or_denied (guarded : Guarded gate store now request token caller) :
    Working gate store now request token caller ∨ ∃ e, Denied gate store now request e := by
  -- The record is looked at in the order of the checks, so each failure is the first one.
  by_cases personal : caller.claims.kind = .personal
  · by_cases known : ∃ record, store.token? caller.claims.id = some record ∧
        record.owner = caller.claims.subject
    · obtain ⟨record, stored, owner⟩ := known
      cases same : gate.hasher.verifyToken token record.tokenHash with
      | false => exact Or.inr ⟨_, .otherToken guarded personal stored owner same⟩
      | true =>
        cases revoked : record.revoked with
        | true => exact Or.inr ⟨_, .revoked guarded personal stored owner same revoked⟩
        | false =>
          by_cases notPast : now ≤ record.expiresAt
          · exact Or.inl ⟨guarded, fun _ => ⟨record, stored, owner, same, revoked, notPast⟩⟩
          · have past := Instant.not_le.mp notPast
            exact Or.inr ⟨_, .expired guarded personal stored owner same revoked past⟩
    · refine Or.inr ⟨_, .unknownRecord guarded personal fun record stored owner => ?_⟩
      exact known ⟨record, stored, owner⟩
  · exact Or.inl ⟨guarded, fun h => absurd h personal⟩

/-! ## Who got through -/

theorem valid_of_claimsOf {claims : Claims} (h : gate.claimsOf now token = .ok claims) :
    gate.issuer.validate now token = .ok claims ∧ claims.kind ≠ .refresh := by
  unfold claimsOf at h
  split at h
  · cases h
  · next valid =>
    split at h
    · cases h
    · next kind =>
      cases h
      exact ⟨valid, kind⟩

theorem standing_of_checkStatus {account : Account} (h : account.checkStatus = .ok ()) :
    account.banned = false ∧ account.locked = false := by
  unfold Account.checkStatus at h
  cases banned : account.banned <;> cases locked : account.locked <;> simp_all

theorem unforged_of_checkForgery {source : CredentialSource}
    (h : gate.checkForgery request token source = .ok ()) (cookie : source = .cookie)
    (unsafeMethod : request.method ∉ safeMethods) :
    gate.guard.verify token request.csrfCookie request.csrfHeader = .ok () := by
  have happlies : CsrfGuard.applies source request.method = true := by
    simp [CsrfGuard.applies, cookie, unsafeMethod]
  rwa [checkForgery, if_pos happlies] at h

theorem record_of_personalVerdict {claims : Claims}
    (h : gate.personalVerdict store now claims token = .ok ()) :
    ∃ record, store.token? claims.id = some record ∧ record.owner = claims.subject ∧
      gate.hasher.verifyToken token record.tokenHash = true ∧ record.revoked = false ∧
      now ≤ record.expiresAt := by
  unfold personalVerdict at h
  split at h
  · cases h
  · next record stored =>
    split at h
    · cases h
    · next owner =>
      refine ⟨record, stored, Decidable.not_not.mp owner, ?_⟩
      unfold PersonalTokens.check at h
      split at h
      · cases h
      · next same =>
        split at h
        · cases h
        · next notRevoked =>
          split at h
          · cases h
          · next notPast =>
            exact ⟨by simpa using same, by simpa using notRevoked,
              Instant.not_lt.mp notPast⟩

/-- Whoever is judged well has passed every check. -/
theorem checks_of_judge {known : Caller}
    (h : gate.judge store now request token known = .ok caller) :
    known = caller ∧ known.account.checkStatus = .ok () ∧
      gate.checkForgery request token known.source = .ok () ∧
      (known.claims.kind = .personal →
        gate.personalVerdict store now known.claims token = .ok ()) := by
  unfold judge at h
  cases standing : known.account.checkStatus with
  | error e =>
    rw [standing] at h
    cases h
  | ok _ =>
  cases unforged : gate.checkForgery request token known.source with
  | error e =>
    rw [standing, unforged] at h
    cases h
  | ok _ =>
  rw [standing, unforged] at h
  change (if known.claims.kind = .personal then _ else _ : Except AuthError Caller) = _ at h
  -- What is behind the record check ends with the caller itself.
  have last (rest : Except AuthError Unit) (h : (do rest; return known) = Except.ok caller) :
      known = caller := by
    cases rest <;> cases h
    rfl
  by_cases personal : known.claims.kind = .personal
  · rw [if_pos personal] at h
    cases works : gate.personalVerdict store now known.claims token with
    | error e =>
      rw [works] at h
      cases h
    | ok _ =>
      rw [works] at h
      exact ⟨last _ h, rfl, rfl, fun _ => rfl⟩
  · rw [if_neg personal] at h
    exact ⟨last _ h, rfl, rfl, fun h => absurd h personal⟩

/-- Nobody passes the examination but with a credential that works, whatever the policy. -/
theorem working_of_verdict (h : gate.verdict store now request = .ok caller) :
    ∃ token, Working gate store now request token caller := by
  unfold verdict at h
  split at h
  · cases h
  · next token source hcredential =>
    cases hclaims : gate.claimsOf now token with
    | error e =>
      rw [hclaims] at h
      cases h
    | ok claims =>
      rw [hclaims] at h
      change (match store.account? claims.subject with
        | none => _
        | some account => gate.judge store now request token ⟨claims, account, source⟩) = _ at h
      split at h
      · cases h
      · next account known =>
        obtain ⟨rfl, standing, unforged, works⟩ := checks_of_judge h
        obtain ⟨valid, kind⟩ := valid_of_claimsOf hclaims
        obtain ⟨notBanned, notLocked⟩ := standing_of_checkStatus standing
        exact ⟨token, ⟨⟨⟨⟨GateRequest.carries_iff.mpr hcredential, valid, kind⟩, known⟩,
          notBanned, notLocked⟩, unforged_of_checkForgery unforged⟩,
          fun personal => record_of_personalVerdict (works personal)⟩

variable (answers : ∀ subject resource action, ∃ allowed,
  gate.policy.enforce subject resource action = .ok allowed)
include answers

theorem verdict_of_admitted (h : Admitted gate store now request token caller) :
    gate.verdict store now request = .ok caller := by
  rw [verdict_of_working h.toWorking]
  obtain ⟨role, hmem, hrank, hallowed⟩ := h.permitted
  rcases checkRoles_eq answers request.path request.method
    (effectiveRoles caller.claims caller.account) with ⟨hok, -⟩ | ⟨-, hall⟩
  · rw [hok]
    rfl
  -- The role that permits is among those that were asked for.
  · have hrefused := hall role (mem_effectiveRoles.mpr ⟨hmem, hrank⟩)
    rw [hallowed] at hrefused
    cases hrefused

theorem verdict_of_denied {e : AuthError} (h : Denied gate store now request e) :
    gate.verdict store now request = .error e := by
  cases h with
  | missingToken none =>
    cases hcredential : request.credential? with
    | none => rw [verdict, hcredential]
    | some credential => exact absurd (GateRequest.carries_iff.mpr hcredential) (none _ _)
  | invalidToken carries invalid =>
    rw [verdict, GateRequest.carries_iff.mp carries]
    simp only [claimsOf, invalid]
    rfl
  | refreshToken carries valid kind =>
    rw [verdict, GateRequest.carries_iff.mp carries]
    simp only [claimsOf, valid, if_pos kind]
    rfl
  | unknownSubject accepted unknown => rw [verdict_of_accepted accepted, unknown]
  | banned recognized banned =>
    rw [verdict_of_recognized recognized, judge, Account.checkStatus, if_pos banned]
    rfl
  | locked recognized notBanned locked =>
    rw [verdict_of_recognized recognized, judge, Account.checkStatus, notBanned, if_pos locked]
    rfl
  | forged standing cookie unsafeMethod forged =>
    -- The guard looks at cookies only, and only where the method is not a safe one.
    have happlies : CsrfGuard.applies .cookie request.method = true := by
      simp [CsrfGuard.applies, unsafeMethod]
    rw [verdict_of_recognized standing.toRecognized, judge,
      Account.checkStatus_eq_ok standing.notBanned standing.notLocked, cookie, checkForgery,
      if_pos happlies, forged]
    rfl
  | unknownRecord guarded personal unknown =>
    exact verdict_of_unknownRecord guarded personal unknown
  | otherToken guarded personal stored owner other =>
    rw [verdict_of_guarded guarded, if_pos personal, personalVerdict_of_record stored owner,
      PersonalTokens.check, other]
    rfl
  | revoked guarded personal stored owner same revoked =>
    rw [verdict_of_guarded guarded, if_pos personal, personalVerdict_of_record stored owner,
      PersonalTokens.check, same, revoked]
    rfl
  | expired guarded personal stored owner same notRevoked past =>
    rw [verdict_of_guarded guarded, if_pos personal, personalVerdict_of_record stored owner,
      PersonalTokens.check, same, notRevoked, if_pos past]
    rfl
  | @insufficientRole token caller working refused =>
    rw [verdict_of_working working]
    rcases checkRoles_eq answers request.path request.method
      (effectiveRoles caller.claims caller.account) with ⟨-, role, hmem, hallowed⟩ | ⟨herror, -⟩
    · obtain ⟨hrole, hrank⟩ := mem_effectiveRoles.mp hmem
      rw [refused role hrole hrank] at hallowed
      cases hallowed
    · rw [herror]
      rfl

/-- With a working credential the roles decide. -/
theorem admitted_or_denied_of_working (working : Working gate store now request token caller) :
    Admitted gate store now request token caller ∨ ∃ e, Denied gate store now request e := by
  rcases checkRoles_eq answers request.path request.method
    (effectiveRoles caller.claims caller.account) with ⟨-, role, hmem, hallowed⟩ | ⟨-, hall⟩
  · obtain ⟨hrole, hrank⟩ := mem_effectiveRoles.mp hmem
    exact Or.inl ⟨working, role, hrole, hrank, hallowed⟩
  · refine Or.inr ⟨_, .insufficientRole working fun role hrole hrank => ?_⟩
    exact hall role (mem_effectiveRoles.mpr ⟨hrole, hrank⟩)

/-- A request is admitted, or it is denied for the first stage that it fails. -/
theorem admitted_or_denied (store : Store) (now : Instant) (request : GateRequest) :
    (∃ token caller, Admitted gate store now request token caller) ∨
      ∃ e, Denied gate store now request e := by
  -- Behind the guard the credential no longer matters, whether or not the guard applied.
  have decided {token : String} {caller : Caller}
      (guarded : Guarded gate store now request token caller) :
      (∃ token caller, Admitted gate store now request token caller) ∨
        ∃ e, Denied gate store now request e := by
    rcases working_or_denied guarded with working | denied
    · exact (admitted_or_denied_of_working answers working).imp (fun h => ⟨_, _, h⟩) id
    · exact Or.inr denied
  cases hcredential : request.credential? with
  | none =>
    refine Or.inr ⟨_, .missingToken fun token source carries => ?_⟩
    rw [GateRequest.carries_iff, hcredential] at carries
    cases carries
  | some credential =>
    obtain ⟨token, source⟩ := credential
    have carries := GateRequest.carries_iff.mpr hcredential
    cases valid : gate.issuer.validate now token with
    | error e =>
      obtain ⟨fault, rfl, -⟩ := TokenIssuer.exists_fault_of_validate valid
      exact Or.inr ⟨_, .invalidToken carries valid⟩
    | ok claims =>
      by_cases kind : claims.kind = .refresh
      · exact Or.inr ⟨_, .refreshToken carries valid kind⟩
      have accepted : Accepted gate now request token source claims := ⟨carries, valid, kind⟩
      cases known : store.account? claims.subject with
      | none => exact Or.inr ⟨_, .unknownSubject accepted known⟩
      | some account =>
        have recognized : Recognized gate store now request token ⟨claims, account, source⟩ :=
          ⟨accepted, known⟩
        cases banned : account.banned with
        | true => exact Or.inr ⟨_, .banned recognized banned⟩
        | false =>
        cases locked : account.locked with
        | true => exact Or.inr ⟨_, .locked recognized banned locked⟩
        | false =>
          have standing : InGoodStanding gate store now request token ⟨claims, account, source⟩ :=
            ⟨recognized, banned, locked⟩
          by_cases checked : source = .cookie ∧ request.method ∉ safeMethods
          · cases forged : gate.guard.verify token request.csrfCookie request.csrfHeader with
            | error e => exact Or.inr ⟨_, .forged standing checked.1 checked.2 forged⟩
            | ok _ => exact decided ⟨standing, fun _ _ => forged⟩
          · refine decided ⟨standing, ?_⟩
            intro cookie unsafeMethod
            exact absurd ⟨cookie, unsafeMethod⟩ checked

theorem verdict_eq_ok_iff (store : Store) (now : Instant) (request : GateRequest)
    (caller : Caller) : gate.verdict store now request = .ok caller ↔
      ∃ token, Admitted gate store now request token caller := by
  constructor
  · intro h
    rcases admitted_or_denied answers store now request with ⟨token, other, admitted⟩ | ⟨e, denied⟩
    · rw [verdict_of_admitted answers admitted] at h
      cases h
      exact ⟨token, admitted⟩
    · rw [verdict_of_denied answers denied] at h
      cases h
  · rintro ⟨token, admitted⟩
    exact verdict_of_admitted answers admitted

theorem verdict_eq_error_iff (store : Store) (now : Instant) (request : GateRequest)
    (e : AuthError) : gate.verdict store now request = .error e ↔
      Denied gate store now request e := by
  constructor
  · intro h
    rcases admitted_or_denied answers store now request with ⟨token, caller, admitted⟩ | ⟨e, denied⟩
    · rw [verdict_of_admitted answers admitted] at h
      cases h
    · rw [verdict_of_denied answers denied] at h
      cases h
      exact denied
  · exact verdict_of_denied answers

/-- The gate decides by the stages alone. Exempt paths pass, and of the other requests exactly
those pass that are admitted, with the account as it is stored, while every other one is denied
for the first stage that it fails. An answer is always given, and the store stays as it is. -/
theorem authorize_iff (store : Store) (now : Instant) (request : GateRequest) :
    ∃ result, (gate.authorize now request).run.run .healthy store = some (result, store) ∧
      (result = .ok .exempt ↔ gate.settings.isExempt request.path = true) ∧
      (∀ caller, result = .ok (.allowed caller) ↔ gate.settings.isExempt request.path = false ∧
        ∃ token, Admitted gate store now request token caller) ∧
      ∀ e, result = .error e ↔
        gate.settings.isExempt request.path = false ∧ Denied gate store now request e := by
  rw [Program.run_healthy]
  change ∃ result, some ((gate.authorize now request).exec store) = some (result, store) ∧ _
  unfold authorize
  cases exempt : gate.settings.isExempt request.path with
  | true => exact ⟨.ok .exempt, rfl, by simp, by simp, by simp⟩
  | false =>
    rw [if_neg (by decide), Action.exec_bind, exec_examine]
    have hadmitted := verdict_eq_ok_iff answers store now request
    have hdenied := verdict_eq_error_iff answers store now request
    cases hverdict : gate.verdict store now request with
    | ok caller =>
      simp only [hverdict] at hadmitted hdenied
      refine ⟨.ok (.allowed caller), rfl, by simp, ?_, ?_⟩
      · intro other
        rw [← hadmitted]
        simp
      · intro e
        rw [← hdenied]
        simp
    | error e =>
      simp only [hverdict] at hadmitted hdenied
      refine ⟨.error e, rfl, by simp, ?_, ?_⟩
      · intro caller
        rw [← hadmitted]
        simp
      · intro other
        rw [← hdenied]
        simp

end Gate

end Decisions

namespace AdminRequest

/-- A gate with the standard policy that exempts nothing. -/
def gate : Gate where
  settings := ⟨"issuer", 10, 1, "", "", "secret", "X-CSRF-Token", "local", 4, 10, []⟩
  issuer := .echo
  hasher :=
    { hashPassword := fun _ password => .ok password
      verifyPassword := fun password stored => .ok (password = stored)
      hashToken := fun _ token => .ok token
      verifyToken := fun token stored => token = stored }
  policy := RolePolicy.standard.engine

/-- The account of an administrator. -/
def account : Account := Account.create 7 ⟨"name", "mail", "password", .admin⟩ .epoch

/-- A time. -/
def now : Instant := (Instant.ofSeconds? 100).getD .epoch

/-- The list of accounts is asked for, with a bearer token. -/
def request (token : String) : GateRequest :=
  ⟨"GET", "/api/users/", some token, none, none, none⟩

/-- With the access token in the header, an administrator may list the accounts. -/
theorem authorize_admin : ∃ token, ∃ caller : Caller, caller.account = account ∧
    (gate.authorize now (request token)).run.run .healthy ⟨7, [account], []⟩ =
      some (.ok (.allowed caller), ⟨7, [account], []⟩) := by
  obtain ⟨issued, hissued⟩ : ∃ issued,
      TokenIssuer.echo.issueAccess now .nil 7 [.admin, .user] = .ok issued := ⟨_, rfl⟩
  obtain ⟨hclaims, hsign⟩ := TokenIssuer.issue_eq_ok hissued
  obtain ⟨hsubject, hissuer, -, hkind, hroles, -, hstart, hend⟩ :=
    TokenIssuer.claimsFor?_eq_some hclaims
  have hend : issued.claims.expires.toInt = 700 := hend
  have valid : gate.issuer.validate now issued.token = .ok issued.claims := by
    refine (TokenIssuer.validate_sign_eq TokenIssuer.echo_trusts_echo hsign hissuer
      (by rw [hstart]; decide) (by omega) (by decide)).trans ?_
    rw [if_neg (by rw [hend]; decide), if_neg (by rw [hstart]; decide)]
  have carries : (request issued.token).Carries issued.token .header := by
    refine .header rfl ?_
    intro hempty
    obtain ⟨signature, -, hsplit⟩ := TokenIssuer.sign_eq_ok hsign
    rw [hempty] at hsplit
    cases hsplit
  have accepted : Accepted gate _ _ issued.token .header issued.claims :=
    ⟨carries, valid, by rw [hkind]; decide⟩
  have recognized : Recognized gate ⟨7, [account], []⟩ _ _ issued.token
      ⟨issued.claims, account, .header⟩ := ⟨accepted, by rw [hsubject]; rfl⟩
  have working : Working gate ⟨7, [account], []⟩ _ _ issued.token
      ⟨issued.claims, account, .header⟩ :=
    ⟨⟨⟨recognized, rfl, rfl⟩, by simp⟩, by simp [hkind]⟩
  have allowed : RolePolicy.standard.allows "admin" "/api/users/" "GET" = true := by
    decide +kernel
  have admitted : Admitted gate ⟨7, [account], []⟩ _ _ issued.token
      ⟨issued.claims, account, .header⟩ :=
    ⟨working, .admin, by simp [hroles], Nat.le_refl 1, congrArg Except.ok allowed⟩
  have answers (subject resource action : String) : ∃ allowed,
      gate.policy.enforce subject resource action = .ok allowed := ⟨_, rfl⟩
  obtain ⟨result, hrun, -, hallowed, -⟩ :=
    Gate.authorize_iff answers ⟨7, [account], []⟩ now (request issued.token)
  refine ⟨issued.token, ⟨issued.claims, account, .header⟩, rfl, ?_⟩
  rw [← (hallowed ⟨issued.claims, account, .header⟩).mpr ⟨rfl, issued.token, admitted⟩]
  exact hrun

end AdminRequest

end SessionAuth
