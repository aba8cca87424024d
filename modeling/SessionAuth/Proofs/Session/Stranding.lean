import SessionAuth.Proofs.PersonalToken.Creation
import SessionAuth.Proofs.Session.Registration

/-!
# Stranded accounts

A registration makes an account and starts a session for it. What may be wrong with the form, the
password or the address is found out before the account is made, and then nothing changes. The
session comes behind. It fails to start if one of its tokens would end beyond the limits of time, or
if the keys do not sign, and the account is there by then: it is stranded, with no session, and its
address is taken for good, so that the registration cannot be sent again. Lifetimes that a service
accepts may be that long. Where tokens can be issued, a registration that does not succeed changes
nothing.

## Main definitions

* `Service.Strands` — a registration leaves an account although it fails
* `Service.Registered` — what a registration comes to
* `App.Occupied` — an address with which nobody can register

## Main results

* `Service.registered_register` — a registration is refused, strands its account or succeeds
* `App.registers_or_strands` — a registration that fails strands its account or changes nothing, and
  changes nothing where tokens can be issued
-/

namespace SessionAuth

/-! ## The endpoint -/

namespace Service

variable {service : Service} {settings : AuthSettings} {keys : KeyPair} {policy : PolicyEngine}
  {occasion : Occasion} {form : RegistrationForm} {store after : Store} {passwordHash : String}

/-- The account that a registration makes. -/
def newAccount (occasion : Occasion) (form : RegistrationForm) (store : Store)
    (passwordHash : String) : Account :=
  Account.create (store.lastId + 1) ⟨form.username, form.email, passwordHash, .user⟩ occasion.now

/-- A store with the account that a registration makes. -/
def withNewAccount (occasion : Occasion) (form : RegistrationForm) (store : Store)
    (passwordHash : String) : Store :=
  { store with
    lastId := store.lastId + 1
    accounts := store.accounts ++ [newAccount occasion form store passwordHash] }

/-- A registration strands its account: there is nothing wrong with the form, and the account was
made, but no tokens could be issued for it. -/
structure Strands (service : Service) (occasion : Occasion) (form : RegistrationForm)
    (store : Store) (e : AuthError) (after : Store) : Prop where
  valid : form.faults = []
  free : store.accountByEmail? form.email = none
  stranded : ∃ (passwordHash : String) (fault : IssueFault),
    service.hasher.hashPassword occasion.passwordSalt form.password = .ok passwordHash ∧
    service.sessions.issuePair occasion (newAccount occasion form store passwordHash) =
      .error fault ∧
    e = fault.toError ∧ after = withNewAccount occasion form store passwordHash

/-- What a registration comes to: it is refused before anything has changed, or it strands its
account, or it succeeds. -/
inductive Registered (service : Service) (occasion : Occasion) (form : RegistrationForm)
    (store : Store) : Except AuthError Response × Store → Prop
  | refused (e : AuthError) : Registered service occasion form store (.error e, store)
  | stranded {e : AuthError} {after : Store}
      (strands : service.Strands occasion form store e after) :
      Registered service occasion form store (.error e, after)
  | granted {id : Int32} {tokens : SessionTokens} {response : Response} {after : Store}
      (handed : service.grant occasion.now 201 id tokens = .ok response) :
      Registered service occasion form store (.ok response, after)

theorem respond_createAccount_of_free (occasion : Occasion) (passwordHash : String)
    (free : store.accountByEmail? form.email = none) :
    store.respond (.createAccount ⟨form.username, form.email, passwordHash, .user⟩ occasion.now) =
      (.ok (newAccount occasion form store passwordHash),
        withNewAccount occasion form store passwordHash) := by
  rw [Store.respond_createAccount, free]
  rfl

/-- With a valid form and an address that is free the account is made, and what follows is the start
of its session. -/
theorem exec_register_of_free (valid : form.faults = [])
    (hashed : service.hasher.hashPassword occasion.passwordSalt form.password = .ok passwordHash)
    (free : store.accountByEmail? form.email = none) :
    (service.register occasion form).exec store =
      (do
        let tokens ← service.sessions.login occasion (newAccount occasion form store passwordHash)
        Action.ofExcept (service.grant occasion.now 201 (store.lastId + 1) tokens)).exec
          (withNewAccount occasion form store passwordHash) := by
  have passes : checkFields occasion form.faults = .ok () := if_pos valid
  unfold register
  rw [passes, hashed, Action.ofExcept_ok, Action.pure_bind, Action.lift_ok, Action.pure_bind,
    Action.exec_bind, Action.exec_ask, respond_createAccount_of_free _ _ free]
  rfl

/-- Where no tokens can be issued the registration ends with the account in the store. -/
theorem exec_register_of_notIssued {fault : IssueFault} (valid : form.faults = [])
    (hashed : service.hasher.hashPassword occasion.passwordSalt form.password = .ok passwordHash)
    (free : store.accountByEmail? form.email = none)
    (notIssued : service.sessions.issuePair occasion
      (newAccount occasion form store passwordHash) = .error fault) :
    (service.register occasion form).exec store =
      (.error fault.toError, withNewAccount occasion form store passwordHash) := by
  rw [exec_register_of_free valid hashed free]
  unfold Sessions.login
  rw [notIssued]
  rfl

/-- The new account is found under its identifier, unless another account had it before. -/
theorem exists_account?_withNewAccount (occasion : Occasion) (form : RegistrationForm)
    (store : Store) (passwordHash : String) :
    ∃ account, (withNewAccount occasion form store passwordHash).account?
      (newAccount occasion form store passwordHash).id = some account := by
  refine Option.isSome_iff_exists.mp (List.find?_isSome.mpr ⟨_, ?_, decide_eq_true rfl⟩)
  exact List.mem_append_right _ (List.mem_singleton_self _)

/-- A registration is refused, strands its account or succeeds, if the hash of a token is made as
that of a password is. -/
theorem registered_register (occasion : Occasion) (form : RegistrationForm) (store : Store)
    (hashes : ∀ salt password hash, service.hasher.hashPassword salt password = .ok hash →
      ∀ salt token, ∃ hash, service.hasher.hashToken salt token = .ok hash) :
    service.Registered occasion form store ((service.register occasion form).exec store) := by
  by_cases valid : form.faults = []
  case neg =>
    have fails : checkFields occasion form.faults =
        .error (.invalidFields form.faults (occasion.wording form.faults)) := if_neg valid
    unfold register
    rw [fails]
    exact .refused _
  cases hashed : service.hasher.hashPassword occasion.passwordSalt form.password with
  | error fault =>
    have passes : checkFields occasion form.faults = .ok () := if_pos valid
    unfold register
    rw [passes, hashed]
    exact .refused _
  | ok passwordHash =>
    cases free : store.accountByEmail? form.email with
    | some account =>
      rw [exec_register_of_taken valid hashed free]
      exact .refused _
    | none =>
      -- The account is made now, so from here on no error leaves the store as it was.
      cases issued : service.sessions.issuePair occasion
          (newAccount occasion form store passwordHash) with
      | error fault =>
        rw [exec_register_of_notIssued valid hashed free issued]
        exact .stranded ⟨valid, free, passwordHash, fault, hashed, issued, rfl, rfl⟩
      | ok tokens =>
        -- A token is hashed at the cost of the password, and the account is there to be noted.
        obtain ⟨hash, kept⟩ := hashes _ _ _ hashed occasion.tokenSalt tokens.refresh.token
        obtain ⟨account, known⟩ := exists_account?_withNewAccount occasion form store passwordHash
        rw [exec_register_of_free valid hashed free, Action.exec_bind,
          Sessions.exec_login ⟨issued, kept⟩ known]
        obtain ⟨response, handed⟩ := service.exists_grant occasion.now 201 (store.lastId + 1) tokens
        simp only [exec_grant handed]
        exact .granted handed

/-! ## Services of settings -/

/-- A service that was set up hashes at the cost in the settings and signs with the keys. -/
theorem of_ofSettings? (accepted : ofSettings? settings keys policy = some service) :
    service.hasher = .ofCost settings.hashCost ∧ service.issuer.keys = keys := by
  obtain ⟨issuer, read, rfl⟩ := Option.map_eq_some_iff.mp accepted
  obtain ⟨access, -, read⟩ := Option.bind_eq_some_iff.mp read
  obtain ⟨refresh, -, read⟩ := Option.bind_eq_some_iff.mp read
  cases read
  exact ⟨rfl, rfl⟩

end Service

/-- At the cost at which a password was hashed every token can be hashed. -/
theorem SecretHasher.exists_hashToken_of_hashPassword {cost : Nat} {salt : Bcrypt.Salt}
    {password hash : String} (hashed : (ofCost cost).hashPassword salt password = .ok hash)
    (salt' : Bcrypt.Salt) (token : String) :
    ∃ hash', (ofCost cost).hashToken salt' token = .ok hash' :=
  Bcrypt.exists_hash hashed salt' (tokenDigest token)

/-- Where keys sign and tokens end within the limits of time, no account is stranded. -/
theorem Service.Strands.not_inRange {service : Service} {occasion : Occasion}
    {form : RegistrationForm} {store after : Store} {e : AuthError}
    (strands : service.Strands occasion form store e after) (signs : service.issuer.keys.Signs) :
    ¬service.issuer.InRange occasion.now := by
  intro inRange
  obtain ⟨passwordHash, fault, -, notIssued, -⟩ := strands.stranded
  obtain ⟨tokens, issued⟩ : ∃ tokens, service.sessions.issuePair occasion
      (newAccount occasion form store passwordHash) = .ok tokens :=
    Sessions.exists_issuePair signs inRange _
  cases notIssued.symm.trans issued

/-! ## Requests -/

namespace App

variable {app : App} {service : Service} {occasion : Occasion} {request : Request}
  {store after later : Store} {form : RegistrationForm} {e : AuthError}

/-- Nobody can register with an address. This is said of forms that pass their checks and of
requests that the gate, if there is one, lets pass. -/
def Occupied (app : App) (service : Service) (email : String) (store : Store) : Prop :=
  ∀ (occasion : Occasion) (request : Request) (form : RegistrationForm)
    (established : Option Caller), request.Asks .register [] →
    request.json RegistrationForm.ofJson? = .ok form → form.email = email → form.faults = [] →
    app.Dispatches occasion request .healthy store service established →
    ∃ refusal, refusal.status = 409 ∧
      (app.handle occasion request).run .healthy store = some (refusal, store)

/-- The address of a stranded account is taken for good. -/
theorem occupied_of_strands (passwords : service.hasher.KnowsPasswords)
    (strands : service.Strands occasion form store e after)
    (leads : after.Leads (fun _ => True) later) : app.Occupied service form.email later := by
  obtain ⟨passwordHash, fault, hashed, -, -, rfl⟩ := strands.stranded
  have made := Service.respond_createAccount_of_free occasion passwordHash strands.free
  have stored := Store.hasLogin_of_created (congrArg Prod.fst made)
  rw [made] at stored
  obtain ⟨account, found, -, -⟩ := leads.hasLogin stored
  intro again request other established asks body same valid dispatches
  obtain ⟨hash, hashed⟩ := passwords.steady _ _ _ hashed again.passwordSalt other.password
  exact dispatches.refused_of_taken asks body valid hashed (same ▸ found)

/-- A request for a registration that fails strands its account or changes nothing. -/
theorem strands_or_eq (serves : app.service? = some service)
    (hashes : ∀ salt password hash, service.hasher.hashPassword salt password = .ok hash →
      ∀ salt token, ∃ hash, service.hasher.hashToken salt token = .ok hash)
    {response : Response} (asks : request.Asks .register [])
    (ends : (app.handle occasion request).run .healthy store = some (response, after))
    (failed : response.status ≠ 201) :
    after = store ∨ ∃ form e, request.json RegistrationForm.ofJson? = .ok form ∧
      service.Strands occasion form store e after ∧ response = e.response := by
  rcases app.dispatches_or_denied occasion request .healthy store with
    ⟨other, established, dispatches, -⟩ | ⟨e, denied⟩
  case inr =>
    rw [denied] at ends
    exact .inl (Prod.mk.inj (Option.some.inj ends)).2.symm
  obtain rfl := Option.some.inj (serves.symm.trans dispatches.service?_eq)
  cases body : request.json RegistrationForm.ofJson? with
  | error fault =>
    -- A body that cannot be read is answered without a look at the store.
    have answered : (service.answer occasion request established .register []).exec store =
        (.ok (.empty fault.status), store) := by
      simp only [Service.answer, Service.withJson, body]
      rfl
    rw [dispatches.run_handle_of_exec asks rfl answered] at ends
    exact .inl (Prod.mk.inj (Option.some.inj ends)).2.symm
  | ok form =>
    have registered := Service.registered_register occasion form store hashes
    rw [← Service.answer_register established body] at registered
    generalize answered : Action.exec _ store = outcome at registered
    obtain ⟨result, left⟩ := outcome
    rw [dispatches.run_handle_of_exec asks rfl answered] at ends
    obtain ⟨rfl, rfl⟩ := Prod.mk.inj (Option.some.inj ends)
    cases registered with
    | refused e => exact .inl rfl
    | stranded strands => exact .inr ⟨form, _, rfl, strands, rfl⟩
    | granted handed => exact absurd (Service.status_of_grant handed) failed

/-- A registration that fails changes nothing where tokens can be issued, so that it can be sent
again. For every settings that a service accepts: a registration over HTTP that is not answered with
its status leaves the store as it was, if the keys sign and the lifetimes in the settings end within
the limits of time. Else it may strand its account. Then the address is taken for good: whatever is
done to the store later, a registration with the address is refused and changes nothing. -/
theorem registers_or_strands {settings : AuthSettings} {keys : KeyPair} {policy : PolicyEngine}
    (accepted : Service.ofSettings? settings keys policy = some service)
    (serves : app.service? = some service) {response : Response}
    (asks : request.Asks .register [])
    (ends : (app.handle occasion request).run .healthy store = some (response, after))
    (failed : response.status ≠ 201) :
    (keys.Signs → service.issuer.InRange occasion.now → after = store) ∧
    (after = store ∨ ∃ form e, request.json RegistrationForm.ofJson? = .ok form ∧
      service.Strands occasion form store e after ∧ response = e.response ∧
      ∀ later, after.Leads (fun _ => True) later → app.Occupied service form.email later) := by
  obtain ⟨hasher, rfl⟩ := Service.of_ofSettings? accepted
  have hashes (salt : Bcrypt.Salt) (password hash : String)
      (hashed : service.hasher.hashPassword salt password = .ok hash) (salt' : Bcrypt.Salt)
      (token : String) : ∃ hash, service.hasher.hashToken salt' token = .ok hash := by
    rw [hasher] at hashed ⊢
    exact SecretHasher.exists_hashToken_of_hashPassword hashed salt' token
  have passwords : service.hasher.KnowsPasswords :=
    hasher ▸ SecretHasher.knowsPasswords_ofCost settings.hashCost
  rcases strands_or_eq serves hashes asks ends failed with unchanged | ⟨form, e, body, strands, rfl⟩
  · exact ⟨fun _ _ => unchanged, .inl unchanged⟩
  · refine ⟨fun signs inRange => absurd inRange (strands.not_inRange signs), .inr ?_⟩
    exact ⟨form, e, body, strands, rfl, fun _ leads => occupied_of_strands passwords strands leads⟩

end App

namespace OverlongSession

open LoginRequest (occasion)
open NewAccount (form request asks_request json_request)

/-- A service with the exempt paths that are the default, whose access tokens last for some time. -/
def service (minutes : Int64) (access : Duration) : Service where
  settings := { LoginRequest.service.settings with accessMinutes := minutes }
  issuer := ⟨.ofData FarthestToken.keyData [], "issuer", access, ⟨86400000000000⟩⟩
  hasher := .ofCost 4
  policy := RolePolicy.standard.engine

/-- Access tokens last for ten minutes. -/
def brief : Service := service 10 ⟨600000000000⟩

/-- Access tokens last for some 285 thousand years, which is beyond the limits of time. -/
def overlong : Service := service 150000000000 ⟨9000000000000000000000⟩

theorem accepted_brief :
    Service.ofSettings? brief.settings brief.issuer.keys brief.policy = some brief :=
  rfl

theorem accepted_overlong :
    Service.ofSettings? overlong.settings overlong.issuer.keys overlong.policy = some overlong :=
  rfl

theorem signs : brief.issuer.keys.Signs :=
  KeyPair.signs_ofData (show KeyPair.seed? FarthestToken.keyData = some (List.replicate 32 0) by
    decide)

/-- The path of the registration is exempt. -/
theorem dispatches {service : Service} (store : Store)
    (exempt : service.settings.isExempt request.path = true) :
    (App.gated (some service)).Dispatches occasion request .healthy store service none :=
  .exempt (Gate.run_authorize_of_exempt exempt)

theorem valid_form : form.faults = [] := by decide +kernel

variable {passwordHash : String}

/-- No access token can be issued for the account, and the registration fails. -/
theorem run_handle_request (hashed :
      overlong.hasher.hashPassword occasion.passwordSalt form.password = .ok passwordHash) :
    ((App.gated (some overlong)).handle occasion request).run .healthy .empty =
      some (AuthError.lifetimeOutOfRange.response,
        Service.withNewAccount occasion form .empty passwordHash) := by
  have notIssued : overlong.sessions.issuePair occasion
      (Service.newAccount occasion form .empty passwordHash) = .error .lifetime := rfl
  have answered := Service.exec_register_of_notIssued valid_form hashed rfl notIssued
  rw [← Service.answer_register none json_request] at answered
  exact (dispatches .empty (by decide +kernel)).run_handle_of_exec asks_request rfl answered

/-- The registration is answered as a failure of the server, and leaves its account. Sent again, it
is told that the address is taken. -/
theorem strands_new_account : ∃ response after refusal,
    Service.ofSettings? overlong.settings overlong.issuer.keys overlong.policy = some overlong ∧
    ((App.gated (some overlong)).handle occasion request).run .healthy .empty =
      some (response, after) ∧ response.status = 500 ∧
    after.accounts.map (·.email) = ["a@b.c"] ∧
    ((App.gated (some overlong)).handle occasion request).run .healthy after =
      some (refusal, after) ∧ refusal.status = 409 := by
  obtain ⟨passwordHash, hashed⟩ : ∃ passwordHash,
      overlong.hasher.hashPassword occasion.passwordSalt form.password = .ok passwordHash :=
    ⟨_, rfl⟩
  obtain ⟨refusal, status, refused⟩ := (dispatches
    (Service.withNewAccount occasion form .empty passwordHash) (by decide +kernel)).refused_of_taken
      asks_request json_request valid_form hashed rfl
  exact ⟨_, _, refusal, accepted_overlong, run_handle_request hashed, rfl, rfl, refused, status⟩

/-- What is sent to log in is sent to register, where it has too little in it. -/
def incomplete : Request := { LoginRequest.request with target := "/auth/register" }

/-- With brief tokens a registration that fails changes nothing, and with overlong ones it strands
its account. -/
theorem registers_or_strands_new_account :
    (∃ response, ((App.gated (some brief)).handle occasion incomplete).run .healthy
      LoginRequest.store = some (response, LoginRequest.store) ∧ response.status = 400) ∧
    ∃ response after form e, request.json RegistrationForm.ofJson? = .ok form ∧
      ((App.gated (some overlong)).handle occasion request).run .healthy .empty =
        some (response, after) ∧ after ≠ .empty ∧
      overlong.Strands occasion form .empty e after ∧
      (App.gated (some overlong)).Occupied overlong form.email after := by
  constructor
  · obtain ⟨response, after, ends⟩ :=
      App.exists_run (.gated (some brief)) occasion incomplete LoginRequest.store
    have answered : (((App.gated (some brief)).handle occasion incomplete).run .healthy
        LoginRequest.store).map (·.1.status) = some 400 := by
      decide +kernel
    rw [ends] at answered
    have status : response.status = 400 := Option.some.inj answered
    have asks : incomplete.Asks .register [] := by
      have path : segments incomplete.path = Endpoint.register.segments [] := by decide
      exact ⟨rfl, path⟩
    have failed : response.status ≠ 201 := by simp [status]
    obtain ⟨unchanged, -⟩ := App.registers_or_strands accepted_brief rfl asks ends failed
    obtain rfl := unchanged signs ⟨rfl, rfl⟩
    exact ⟨response, ends, status⟩
  · obtain ⟨passwordHash, hashed⟩ : ∃ passwordHash,
        overlong.hasher.hashPassword occasion.passwordSalt form.password = .ok passwordHash :=
      ⟨_, rfl⟩
    have ends := run_handle_request hashed
    obtain ⟨-, outcome⟩ := App.registers_or_strands accepted_overlong rfl asks_request ends
      (by decide)
    have changed : Service.withNewAccount occasion form .empty passwordHash ≠ .empty := by
      simp [Service.withNewAccount, Store.empty]
    obtain ⟨form, e, body, strands, -, occupied⟩ := outcome.resolve_left changed
    exact ⟨_, _, form, e, body, ends, changed, strands, occupied _ .refl⟩

end OverlongSession

end SessionAuth
