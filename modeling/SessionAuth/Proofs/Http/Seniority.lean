import SessionAuth.Proofs.Demand
import SessionAuth.Proofs.Handout
import SessionAuth.Proofs.Session.Freshness

/-!
# Seniority

The status of an account changes on behalf of those who rank above it, and with the highest role
that of any account. The endpoint loads the account, compares the ranks and asks for the change,
which makes two operations, and those of others may fall in between. The change itself is made
whatever the role of the account is by then. So the account is outranked as it was loaded, and it
is outranked still when the change is made, unless it was given another role in the meantime.

## Main definitions

* `Account.Outranks` — an account may change the status of another
* `App.Entitles` — the history by which a request may ask for a change of status

## Main results

* `App.heeds_handle` — a request asks for a change of status only by such a history
* `Pool.Run.role_kept` — an account keeps its role until it is given another one
* `App.outranked_unless_promoted` — whom a change of status is made for outranks the account, as
  long as its role is the one that was loaded
-/

namespace SessionAuth

/-- An account may change the status of another: it has the highest role or ranks above it. -/
def Account.Outranks (caller target : Account) : Prop :=
  caller.role = .super ∨ target.role.rank < caller.role.rank

/-- The history by which a request may ask for a change of the status of an account: the last
answer was the account, and before that the gate had let a caller pass who outranks it. -/
inductive App.Entitles (occasion : Occasion) (request : Request) (id : Int32)
    (past : List Answered) : App → Prop
  | intro {service : Service} {caller : Caller} {target : Account} {before : List Answered}
      (history : past = before ++ [⟨.findAccount id, .ok (some target)⟩])
      (passed : service.gate.LetsPass occasion.now
        (request.toGate service.settings.csrfHeader) before caller)
      (outranks : caller.account.Outranks target) :
      Entitles occasion request id past (.gated (some service))

/-- A change of status is asked for only by a history that entitles to it. -/
def App.Permits (app : App) (occasion : Occasion) (request : Request) (past : List Answered)
    (op : StoreCall) : Prop :=
  ∀ id change, op = .updateStatus id change → app.Entitles occasion request id past

/-! ## What a request asks for -/

section Requests

variable {service : Service} {occasion : Occasion} {request : Request} {past : List Answered}

theorem Service.heeds_updateStatus {caller : Caller} (id : Int32) (change : StatusChange)
    (passed : service.gate.LetsPass occasion.now
      (request.toGate service.settings.csrfHeader) past caller) :
    (updateStatus caller id change).Heeds
      ((App.gated (some service)).Permits occasion request) (fun _ _ => True) past := by
  unfold updateStatus
  refine Action.heeds_ofExcept_bind fun _ _ => ?_
  refine Action.heeds_ask_bind (by rintro _ _ ⟨⟩) fun found => ?_
  cases found with
  | none => exact Action.heeds_throw
  | some target =>
    dsimp only
    split
    · exact Action.heeds_throw
    · next notOutranked =>
      have outranks : caller.account.Outranks target := by
        by_cases highest : caller.account.role = .super
        · exact .inl highest
        · exact .inr (Nat.lt_of_not_le fun above => notOutranked ⟨highest, above⟩)
      refine Action.heeds_ask_bind ?_ fun _ => Action.heeds_pure trivial
      rintro _ _ ⟨⟩
      exact .intro rfl passed outranks

/-- Only one endpoint asks for changes of status, and only on behalf of a caller. -/
theorem Service.heeds_dispatch {app : App} {established : Option Caller}
    (passed : ∀ caller, established = some caller → app = .gated (some service) ∧
      service.gate.LetsPass occasion.now (request.toGate service.settings.csrfHeader) past
        caller) :
    (service.dispatch occasion request established).Heeds (app.Permits occasion request)
      (fun _ _ => True) past := by
  unfold dispatch
  split
  · next endpoint vary _ =>
    by_cases forStatus : endpoint = .updateStatus
    · subst forStatus
      cases established with
      | none => exact Action.heeds_throw
      | some caller =>
        obtain ⟨rfl, letsPass⟩ := passed caller rfl
        refine withSegment_rule (P := (·.Heeds _ _ past)) (Action.heeds_pure trivial) ?_
        refine fun _ id _ _ => ?_
        refine withJson_rule (P := (·.Heeds _ _ past)) (fun _ => Action.heeds_pure trivial) ?_
        exact fun change _ => heeds_updateStatus id change letsPass
    · refine (uses_answer established endpoint vary).heeds
        (Action.yields_of_forall (fun _ _ => trivial) _ _) ?_
      rintro past op asked id change rfl
      cases asked
      exact absurd rfl forStatus
  · exact Action.heeds_pure trivial

/-- A request asks for a change of status only by a history that entitles to it. -/
theorem App.heeds_handle (app : App) (occasion : Occasion) (request : Request) :
    (app.handle occasion request).Heeds (app.Permits occasion request) (fun _ _ => True) [] := by
  refine App.heeds_handle_of_dispatch (by rintro _ _ _ _ ⟨⟩) (by rintro _ _ _ _ ⟨⟩)
    (fun _ _ => trivial) fun service established past passed => ?_
  exact Service.heeds_dispatch passed

end Requests

/-! ## Roles in a run -/

/-- An operation keeps the role of an account, unless it gives it another one. -/
theorem Store.role_respond {store : Store} {id : Int32} {account : Account}
    (stored : store.account? id = some account) (op : StoreCall) :
    ∃ kept, (store.respond op).2.account? id = some kept ∧
      (kept.role = account.role ∨ ∃ answer,
        (⟨op, (store.respond op).1⟩ : Answered) = ⟨.updateRole id kept.role, .ok answer⟩) := by
  have same {after : Store} (accounts : after.accounts = store.accounts) :
      ∃ kept, after.account? id = some kept ∧ kept.role = account.role :=
    ⟨account, by rwa [account?, accounts], rfl⟩
  have changed {other : Int32} {change : Account → Account}
      (keepsId : ∀ account, (change account).id = account.id)
      (keepsRole : ∀ account, (change account).role = account.role) :
      ∃ kept, (store.modifyAccount other change).account? id = some kept ∧
        kept.role = account.role := by
    rw [account?_modifyAccount keepsId, stored]
    refine ⟨_, rfl, ?_⟩
    dsimp only
    split
    · exact keepsRole account
    · rfl
  -- All operations but one keep the role, whatever they are answered.
  have keeps {answered : Answered} {after : Store}
      (h : ∃ kept, after.account? id = some kept ∧ kept.role = account.role) :
      ∃ kept, after.account? id = some kept ∧ (kept.role = account.role ∨ ∃ answer,
        answered = ⟨.updateRole id kept.role, .ok answer⟩) :=
    h.imp fun _ => .imp_right .inl
  cases op with
  | updateRole other role =>
    by_cases hid : id = other
    · subst hid
      refine ⟨{ account with role := role }, ?_, .inr ⟨{ account with role := role }, ?_⟩⟩
      · rw [respond_updateRole, stored]
        dsimp only
        rw [account?_modifyAccount_self, stored, Option.map_some]
        exact fun _ => rfl
      · rw [respond_updateRole, stored]
    · refine keeps ⟨account, ?_, rfl⟩
      rw [respond_updateRole]
      split
      · exact stored
      · dsimp only
        rwa [account?_modifyAccount_of_ne _ hid]
        exact fun _ => rfl
  | createAccount new now =>
    rw [respond_createAccount]
    split
    · exact keeps (same rfl)
    · refine keeps ⟨account, ?_, rfl⟩
      unfold account? at stored ⊢
      rw [List.find?_append, stored, Option.some_or]
  | recordLogin other hash now =>
    rw [respond_recordLogin]
    split
    · exact keeps (changed (fun _ => rfl) fun _ => rfl)
    · exact keeps (same rfl)
  | recordLogout other now =>
    rw [respond_recordLogout]
    split
    · exact keeps (changed (fun _ => rfl) fun _ => rfl)
    · exact keeps (same rfl)
  | swapRefreshHash other expected new now =>
    rw [respond_swapRefreshHash]
    split
    · exact keeps (same rfl)
    · split
      · exact keeps (changed (fun _ => rfl) fun _ => rfl)
      · exact keeps (same rfl)
  | updateStatus other change =>
    rw [respond_updateStatus]
    split
    · exact keeps (same rfl)
    · exact keeps (changed (fun _ => rfl) fun _ => rfl)
  | ping | findAccount | findByEmail => exact keeps (same rfl)
  | insertToken | findToken | tokensOf | findActiveToken | revokeToken =>
    exact keeps (same (accounts_respond rfl).1)

section Runs

variable {ι : Type} [DecidableEq ι] {others : StoreCall → Prop} {id : Int32} {account : Account}

/-- An account keeps its role until it is given another one. -/
theorem Pool.Run.role_kept {α : Type} {start pool : Pool ι α} {log : List (Event ι)}
    (run : Pool.Run others start log pool) (stored : start.store.account? id = some account) :
    ∃ kept, pool.store.account? id = some kept ∧
      (kept.role = account.role ∨
        ∃ event ∈ log, ∃ answer, event.did = ⟨.updateRole id kept.role, .ok answer⟩) := by
  induction run with
  | refl => exact ⟨account, stored, .inl rfl⟩
  | @tail log pool after event run step ih =>
    obtain ⟨between, found, before⟩ := ih
    obtain ⟨hdid, hstore⟩ := step.respond
    obtain ⟨kept, hkept, now⟩ := Store.role_respond found event.did.op
    rw [← hstore] at hkept
    rw [← hdid] at now
    refine ⟨kept, hkept, ?_⟩
    rcases now with same | ⟨answer, given⟩
    · rw [same]
      refine before.imp_right fun ⟨earlier, mem, given⟩ => ⟨earlier, by simp [mem], given⟩
    · exact .inr ⟨event, by simp, answer, given⟩

variable {app : App} {occasion : ι → Occasion} {request : ι → Request} {i : ι}

/-- Whom a change of status is made for outranks the account, as long as its role is the one that
was loaded. In every run of requests and of operations of others, from any store, a request that
changes the status of an account had loaded that account before, and the gate had let a caller pass
who outranks the account as it was loaded. When the change is made, the account is still outranked,
or it was given the role that it has by then in between. -/
theorem App.outranked_unless_promoted {start pool : Pool ι Response}
    (requests : ∀ i, start.thread i = app.handle (occasion i) (request i))
    {front back : List (Event ι)} {change : StatusChange} {answer : Account}
    (run : Pool.Run others start
      (front ++ ⟨some i, ⟨.updateStatus id change, .ok answer⟩⟩ :: back) pool) :
    ∃ (service : Service) (caller : Caller) (target stored : Account)
      (before between : List (Event ι)),
      app = .gated (some service) ∧
      front = before ++ ⟨some i, ⟨.findAccount id, .ok (some target)⟩⟩ :: between ∧
      service.gate.LetsPass (occasion i).now ((request i).toGate service.settings.csrfHeader)
        (doneBy i before) caller ∧
      caller.account.Outranks target ∧
      (start.store.performAll (front.map (·.did.op))).account? id = some stored ∧
      (caller.account.Outranks stored ∨
        ∃ event ∈ between, ∃ answer, event.did = ⟨.updateRole id stored.role, .ok answer⟩) := by
  have heeds : (start.thread i).Heeds (app.Permits (occasion i) (request i)) (fun _ _ => True)
      [] := by
    rw [requests i]
    exact app.heeds_handle (occasion i) (request i)
  have entitles := run.permits rfl heeds id change rfl
  generalize hpast : doneBy i front = past at entitles
  cases entitles with
  | @intro service caller target earlier history passed outranks =>
    subst history
    obtain ⟨before, ⟨_, _⟩, between, rfl, rfl, rfl, rfl, -⟩ := exists_of_doneBy hpast
    -- The account is there with its role from when it was loaded until the change is made.
    obtain ⟨atWrite, -, upto, -, -⟩ := run.exists_split
    obtain ⟨atLoad, loaded, -, load, rest⟩ := upto.exists_split
    obtain ⟨hdid, hstore⟩ := load.respond
    simp only [Store.respond_findAccount, Answered.mk.injEq, heq_eq_eq, true_and,
      Except.ok.injEq] at hdid hstore
    obtain ⟨stored, hstored, kept⟩ := rest.role_kept (by rw [hstore, ← hdid])
    rw [upto.store_eq] at hstored
    refine ⟨service, caller, target, stored, before, between, rfl, rfl, passed, outranks, hstored,
      kept.imp_left fun same => ?_⟩
    rwa [Account.Outranks, same]

end Runs

namespace PromotedTarget

open AdminRequest (service occasion now)

/-- An account that was made with a role. -/
def account (id : Int32) (email : String) (role : Role) : Account :=
  .create id ⟨"name", email, "password", role⟩ .epoch

/-- The account of an administrator. -/
def admin : Account := account 2 "b@b.c" .admin

/-- The last account as it is loaded. -/
def loaded : Account := account 3 "c@b.c" .user

/-- One account of each role. -/
def store : Store := ⟨3, [account 1 "a@b.c" .super, admin, loaded], []⟩

/-- A change is asked for, with a bearer token. -/
def put (target body token : String) : Request where
  method := "PUT"
  target := target
  headers := [("Authorization", "Bearer " ++ token), ("Content-Type", "application/json")]
  body := body

/-- The last account is to be banned, and to be given the highest role. -/
def requests (banning promoting : String) : Bool → Request
  | false => put "/api/users/3/status" "\x7b\"banned\": true\x7d" banning
  | true => put "/api/users/3/role" "\x7b\"role\": \"super\"\x7d" promoting

/-- The service behind the gate. -/
def app : App := .gated (some service)

/-- Both requests, on the store with the three accounts. -/
def start (banning promoting : String) : Pool Bool Response :=
  ⟨store, fun i => app.handle occasion (requests banning promoting i)⟩

/-- The gate lets the holder of an account pass whose role is enough. -/
theorem exec_authorize (holder : Account) {issued : IssuedToken} {target body : String}
    (known : store.account? holder.id = some holder)
    (standing : holder.banned = false ∧ holder.locked = false)
    (signed : TokenIssuer.echo.issueAccess now .nil holder.id [holder.role] = .ok issued)
    (enough : (RolePolicy.standard.requiredRole (put target "" "").path "PUT").rank ≤
      holder.role.rank) :
    (service.gate.authorize occasion.now
      ((put target body issued.token).toGate service.settings.csrfHeader)).run.exec store =
        (.ok (.allowed ⟨issued.claims, holder, .header⟩), store) := by
  have covered : [holder.role].filter (fun role => holder.role.covers role) = [holder.role] := by
    simp
  have permitted : Gate.checkRoles service.gate.policy (put target body issued.token).path "PUT"
      ([holder.role].filter fun role => holder.role.covers role) = .ok () := by
    rw [covered]
    exact RolePolicy.checkRoles_engine _ enough
  exact AdminRequest.exec_authorize_of_bearer service.gate rfl known standing.1 standing.2 signed
    (by simp [put, Request.rawHeader?]) _ rfl permitted

variable {banning promoting : IssuedToken}

/-- The first request is led to the change of status. -/
theorem dispatch_false (token promoting : String) (caller : Caller) :
    service.dispatch occasion (requests token promoting false) (some caller) =
      Service.updateStatus caller 3 ⟨some true, none⟩ := by
  have found : Route.find? (requests token promoting false).method
      (requests token promoting false).path = some (.updateStatus, ["3".toList]) := by
    change Route.find? "PUT" (requests "" "" false).path = _
    decide +kernel
  have body : (requests token promoting false).json StatusChange.ofJson? =
      .ok ⟨some true, none⟩ := by
    refine Request.json_of_bearer rfl ?_ ?_
    · change (requests "" "" false).body.utf8ByteSize ≤ _
      decide +kernel
    · change (Json.parse? (requests "" "" false).body.toList).bind StatusChange.ofJson? = _
      decide +kernel
  have segment : (Percent.decodeSegment? "3".toList).bind Decimal.int32? = some 3 := by
    decide +kernel
  rw [Service.dispatch_of_find? _ found]
  simp only [Service.answer, Service.withCaller, Service.withSegment, segment, Service.withJson,
    body]

/-- The second request is led to the change of role. -/
theorem dispatch_true (banning token : String) (caller : Caller) :
    service.dispatch occasion (requests banning token true) (some caller) =
      Service.updateRole caller 3 ⟨.super⟩ := by
  have found : Route.find? (requests banning token true).method
      (requests banning token true).path = some (.updateRole, ["3".toList]) := by
    change Route.find? "PUT" (requests "" "" true).path = _
    decide +kernel
  have body : (requests banning token true).json RoleChange.ofJson? = .ok ⟨.super⟩ := by
    refine Request.json_of_bearer rfl ?_ ?_
    · change (requests "" "" true).body.utf8ByteSize ≤ _
      decide +kernel
    · change (Json.parse? (requests "" "" true).body.toList).bind RoleChange.ofJson? = _
      decide +kernel
  have segment : (Percent.decodeSegment? "3".toList).bind Decimal.int32? = some 3 := by
    decide +kernel
  rw [Service.dispatch_of_find? _ found]
  simp only [Service.answer, Service.withCaller, Service.withSegment, segment, Service.withJson,
    body]

/-- The last account with the highest role. -/
def promoted : Account := { loaded with role := .super }

/-- The last account as it is left. -/
def banned : Account := { promoted with banned := true }

/-- The store behind the promotion. -/
def promotedStore : Store := ⟨3, [account 1 "a@b.c" .super, admin, promoted], []⟩

/-- The second request gives the account its role, whatever the first one has done by then. -/
theorem exec_promoting (token : String)
    (hpromoting : TokenIssuer.echo.issueAccess now .nil 1 [.super] = .ok promoting) :
    (app.handle occasion (requests token promoting.token true)).exec store =
      (.json 200 promoted.toJson, promotedStore) := by
  have examined : (service.gate.authorize occasion.now ((requests token promoting.token true).toGate
      service.settings.csrfHeader)).run.exec store = _ :=
    exec_authorize (account 1 "a@b.c" .super) rfl ⟨rfl, rfl⟩ hpromoting (by decide +kernel)
  have answered : (app.action occasion (requests token promoting.token true)).exec store =
      (.ok (.json 200 promoted.toJson), promotedStore) := by
    change (service.gated occasion _).exec store = _
    rw [Service.gated, Action.exec_bind, Action.exec, examined]
    change (service.dispatch occasion _ (some _)).exec store = _
    rw [dispatch_true]
    rfl
  rw [App.exec_handle, answered]
  rfl

/-- The administrator is let pass. -/
theorem exists_run_authorize (token : String)
    (hbanning : TokenIssuer.echo.issueAccess now .nil 2 [.admin] = .ok banning) :
    ∃ (log : List (Event Bool)) (pool : Pool Bool Response),
      Pool.Run (fun _ => False) (start banning.token token) log pool ∧ pool.store = store ∧
      service.gate.LetsPass occasion.now ((requests banning.token token false).toGate
        service.settings.csrfHeader) (doneBy false log) ⟨banning.claims, admin, .header⟩ ∧
      pool.thread false = Program.bind
        (Service.updateStatus ⟨banning.claims, admin, .header⟩ 3 ⟨some true, none⟩).run
        (fun result => .done (.ofResult result)) ∧
      pool.thread true = app.handle occasion (requests banning.token token true) := by
  have examined : (service.gate.authorize occasion.now ((requests banning.token token false).toGate
      service.settings.csrfHeader)).run.exec store = _ :=
    exec_authorize admin rfl ⟨rfl, rfl⟩ hbanning (by decide +kernel)
  obtain ⟨rest, handled, passes⟩ :=
    App.exists_behind_gate service occasion (requests banning.token token false)
  have yields : Program.Yields (fun past result => ∀ outcome, result = .ok outcome →
      ∀ caller, outcome = .allowed caller → service.gate.LetsPass occasion.now
        ((requests banning.token token false).toGate service.settings.csrfHeader) past caller)
      (service.gate.authorize occasion.now ((requests banning.token token false).toGate
        service.settings.csrfHeader)).run [] := Gate.yields_authorize
  -- What the gate does is of no account from here on, and must not be computed.
  generalize (service.gate.authorize occasion.now ((requests banning.token token false).toGate
    service.settings.csrfHeader)).run = examination at examined handled yields
  have letsPass := yields.of_exec store
  rw [examined] at letsPass
  have turn : (start banning.token token).thread false = examination.bind rest := handled
  have run : Pool.Run (fun _ => False) (start banning.token token)
      ((examination.history store).map (Event.mk (some false))) ⟨(examination.exec store).2,
        Function.update (start banning.token token).thread false
          (rest (examination.exec store).1)⟩ :=
    Pool.run_of_bind (fun _ => False) turn
  rw [examined, passes, dispatch_false] at run
  refine ⟨_, _, run, rfl, ?_, ?_, ?_⟩
  · rw [doneBy_map]
    exact letsPass _ rfl _ rfl
  · dsimp only
    rw [Function.update_self]
  · dsimp only
    rw [Function.update_of_ne (by decide)]
    rfl

/-- Behind the gate the account is loaded. Then it is given the highest role, and after that the
administrator bans it. -/
theorem exists_run_banned :
    ∃ (banning promoting : IssuedToken) (before between : List (Event Bool))
      (pool : Pool Bool Response),
      Pool.Run (fun _ => False) (start banning.token promoting.token)
        (before ++ ⟨some false, ⟨.findAccount 3, .ok (some loaded)⟩⟩ ::
          between ++ [⟨some false, ⟨.updateStatus 3 ⟨some true, none⟩, .ok banned⟩⟩]) pool ∧
      service.gate.LetsPass occasion.now ((requests banning.token promoting.token false).toGate
        service.settings.csrfHeader) (doneBy false before) ⟨banning.claims, admin, .header⟩ ∧
      store.performAll ((before ++ ⟨some false, ⟨.findAccount 3, .ok (some loaded)⟩⟩ ::
        between).map (·.did.op)) = promotedStore ∧
      pool.thread false = .done (.json 200 banned.toJson) := by
  obtain ⟨banning, hbanning⟩ : ∃ issued,
      TokenIssuer.echo.issueAccess now .nil 2 [.admin] = .ok issued := ⟨_, rfl⟩
  obtain ⟨promoting, hpromoting⟩ : ∃ issued,
      TokenIssuer.echo.issueAccess now .nil 1 [.super] = .ok issued := ⟨_, rfl⟩
  obtain ⟨before, passed, gate, hstore, letsPass, bans, promotes⟩ :=
    exists_run_authorize promoting.token hbanning
  obtain ⟨loading, load, hload, bans, rest⟩ := Pool.exists_step (fun _ => False) bans
  rw [hstore] at load hload bans
  -- The other request is answered as a whole in between.
  have answered : (loading.thread true).exec loading.store =
      (.json 200 promoted.toJson, promotedStore) := by
    rw [rest true (by decide), promotes, hload]
    exact exec_promoting banning.token hpromoting
  obtain ⟨between, promotion, -⟩ := Pool.exists_run_of_exec (fun _ => False) answered
  generalize hbehind : (⟨promotedStore, Function.update loading.thread true _⟩ :
    Pool Bool Response) = behind at promotion
  have hstore : behind.store = promotedStore := by rw [← hbehind]
  have same : behind.thread false = loading.thread false := by
    rw [← hbehind]
    dsimp only
    rw [Function.update_of_ne (by decide)]
  obtain ⟨final, write, -, ended, -⟩ := Pool.exists_step (fun _ => False) (same.trans bans)
  rw [hstore] at write ended
  have upto := (gate.tail load).trans promotion
  rw [← List.append_cons] at upto
  exact ⟨banning, promoting, before, between, final, upto.tail write, letsPass,
    upto.store_eq.symm.trans hstore, ended⟩

/-- An administrator whom the gate has let pass bans an account that has the highest role when its
marks are written. The role was lower when the account was loaded. -/
theorem bans_promoted : ∃ (banning promoting : String) (caller : Caller)
    (before between : List (Event Bool)) (pool : Pool Bool Response),
    Pool.Run (fun _ => False) (start banning promoting)
      (before ++ ⟨some false, ⟨.findAccount 3, .ok (some loaded)⟩⟩ ::
        between ++ [⟨some false, ⟨.updateStatus 3 ⟨some true, none⟩, .ok banned⟩⟩]) pool ∧
    service.gate.LetsPass occasion.now ((requests banning promoting false).toGate
      service.settings.csrfHeader) (doneBy false before) caller ∧
    caller.account = admin ∧
    (store.performAll ((before ++ ⟨some false, ⟨.findAccount 3, .ok (some loaded)⟩⟩ ::
      between).map (·.did.op))).account? 3 = some promoted ∧
    ¬caller.account.Outranks promoted ∧
    pool.thread false = .done (.json 200 banned.toJson) := by
  obtain ⟨banning, promoting, before, between, pool, run, letsPass, stored, ended⟩ :=
    exists_run_banned
  have above : ¬admin.Outranks promoted := by
    rintro (highest | below)
    · cases highest
    · exact absurd below (by decide)
  exact ⟨_, _, _, before, between, pool, run, letsPass, rfl, by rw [stored]; rfl, above, ended⟩

/-- The account was outranked as it was loaded, and given its role after that. -/
theorem outranked_when_loaded : ∃ (banning promoting : String) (log : List (Event Bool))
    (pool : Pool Bool Response) (gated : Service) (caller : Caller) (target stored : Account)
    (before between : List (Event Bool)),
    Pool.Run (fun _ => False) (start banning promoting) log pool ∧
    app = .gated (some gated) ∧
    log = before ++ ⟨some false, ⟨.findAccount 3, .ok (some target)⟩⟩ ::
      between ++ [⟨some false, ⟨.updateStatus 3 ⟨some true, none⟩, .ok banned⟩⟩] ∧
    caller.account.Outranks target ∧ stored.role = .super ∧
    (caller.account.Outranks stored ∨
      ∃ event ∈ between, ∃ answer, event.did = ⟨.updateRole 3 .super, .ok answer⟩) := by
  obtain ⟨_, _, _, _, pool, run, -, hstored, -⟩ := exists_run_banned
  obtain ⟨gated, caller, target, stored, before, between, same, split, -, outranks, found, kept⟩ :=
    App.outranked_unless_promoted (fun _ => rfl) run
  change (store.performAll _).account? 3 = some stored at found
  rw [hstored] at found
  obtain rfl : promoted = stored := Option.some.inj found
  exact ⟨_, _, _, pool, gated, caller, target, promoted, before, between, run, same,
    congrArg (· ++ _) split, outranks, rfl, kept⟩

end PromotedTarget

end SessionAuth
