import SessionAuth.Proofs.Demand
import SessionAuth.Proofs.Http.Mediation
import SessionAuth.Proofs.PersonalToken.Lifetime
import SessionAuth.Proofs.Trace

/-!
# Revocation succeeds once

A revocation is given a copy of the record, which may be old by then. So the mark in the copy tells
little, and what makes a revocation succeed is the store, which marks a record that it finds without
the mark and tells so. In the same way the store looks at a name again before it puts a record in.

A record that is marked stays so, since only new records are put in, each by one call and under an
identifier of its own. So a record is marked once.

## Main definitions

* `TokenCall` — a revocation, the making of a token, or a whole request
* `TokenCall.Revokes` — a revocation that was made within a call, with its copy and its result
* `FreshIds` — new records are put in where nothing is, and no two in one place
* `Settled` — a call has ended with a revocation of its own

## Main results

* `TokenCall.revokes_of_returns` — a call that has asked the store for a revocation has made one
* `Pool.Run.eq_of_revokes` — a record is marked once in a run
* `revocation_succeeds_once` — what revocations come to, and what is stored, in every run
-/

namespace SessionAuth

/-! ## Calls -/

/-- A call on records of personal tokens. -/
inductive TokenCall where
  /-- A revocation that holds a copy of a record. -/
  | revoke (tokens : PersonalTokens) (held : PersonalToken)
  | create (tokens : PersonalTokens) (occasion : Occasion) (caller : Claims) (name expiry : String)
  /-- A whole request, whatever it asks for. -/
  | request (app : App) (occasion : Occasion) (request : Request)

/-- What a call comes to. -/
inductive TokenOutcome where
  | revoked (result : Except AuthError Unit)
  | created (result : Except AuthError CreatedToken)
  | answered (response : Response)

namespace TokenCall

/-- What a call does. -/
def program : TokenCall → Program TokenOutcome
  | revoke tokens held =>
    Program.bind (tokens.revoke held).run fun result => .done (.revoked result)
  | create tokens occasion caller name expiry =>
    Program.bind (tokens.create occasion caller name expiry).run fun result =>
      .done (.created result)
  | request app occasion asked =>
    (app.handle occasion asked).bind fun response => .done (.answered response)

/-- The identifier of the record that a call puts in if it comes to that. -/
def newId? : TokenCall → Option Uuid
  | revoke _ _ => none
  | create _ occasion _ _ _ => some occasion.recordId
  | request _ occasion asked =>
    match Route.find? asked.method asked.path with
    | some (.createToken, _) => some occasion.recordId
    | _ => none

end TokenCall

/-- An operation neither puts in a record nor revokes one. -/
def StoreCall.KeepsRecords : StoreCall → Prop
  | insertToken _ | revokeToken _ => False
  | _ => True

/-- A request has loaded the record that it names to revoke it, and the caller may know of it. -/
inductive Service.LoadsFor (service : Service) (request : Request) (caller : Caller)
    (past : List Answered) (record : PersonalToken) : Prop
  | intro {segment : Segment} {id : Uuid}
      (found : Route.find? request.method request.path = some (.revokeToken, [segment]))
      (named : (Percent.decodeSegment? segment).bind Uuid.parse? = some id)
      (loaded : (service.visibleToken caller id).run.Returns past (.ok record)) :
      LoadsFor service request caller past record

/-- The gate let a caller pass, and then the request has loaded the record. -/
inductive Service.Loads (service : Service) (occasion : Occasion) (request : Request)
    (past : List Answered) (record : PersonalToken) : Prop
  | intro {caller : Caller} {first second : List Answered} (history : past = first ++ second)
      (passed : (service.gate.authorize occasion.now
        (request.toGate service.settings.csrfHeader)).run.Returns first (.ok (.allowed caller)))
      (loads : service.LoadsFor request caller second record) :
      Loads service occasion request past record

/-- A revocation was made within a call, and the call has come to its outcome by that: the
revocation held a copy of a record, and it had a result. A request loads the copy before. -/
inductive TokenCall.Revokes (past : List Answered) :
    TokenCall → PersonalToken → Except AuthError Unit → TokenOutcome → Prop
  | held {tokens : PersonalTokens} {record : PersonalToken} {result : Except AuthError Unit}
      (returns : (tokens.revoke record).run.Returns past result) :
      Revokes past (.revoke tokens record) record result (.revoked result)
  | loaded {service : Service} {occasion : Occasion} {request : Request}
      {before behind : List Answered} {record : PersonalToken} {result : Except AuthError Unit}
      (history : past = before ++ behind) (loads : service.Loads occasion request before record)
      (returns : (service.personalTokens.revoke record).run.Returns behind result) :
      Revokes past (.request (.gated (some service)) occasion request) record result
        (.answered (.ofResult (result.map fun _ => .empty 204)))

/-! ## The parts of a call -/

namespace PersonalTokens

variable {tokens : PersonalTokens} {occasion : Occasion} {record : PersonalToken}
  {past : List Answered}

/-- What a revocation comes to, by the answer of the store. -/
def revocation : Except AuthError Bool → Except AuthError Unit
  | .ok true => .ok ()
  | .ok false => .error .alreadyRevoked
  | .error e => .error e

/-- A revocation asks the store once, unless its copy is marked already. -/
theorem run_revoke (tokens : PersonalTokens) (record : PersonalToken) :
    (tokens.revoke record).run = if record.revoked then .done (.error .alreadyRevoked)
      else .call (.revokeToken record.id) false fun answer => .done (revocation answer) := by
  unfold revoke
  cases record.revoked with
  | true => rfl
  | false =>
    change Program.call _ _ _ = Program.call _ _ _
    congr 1
    funext answer
    match answer with
    | .ok true | .ok false | .error _ => rfl

/-- A revocation was told by its copy or by the store. -/
theorem of_returns_revoke {result : Except AuthError Unit}
    (returns : (tokens.revoke record).run.Returns past result) :
    (past = [] ∧ result = .error .alreadyRevoked) ∨
      ∃ answer, past = [⟨.revokeToken record.id, answer⟩] ∧ result = revocation answer := by
  rw [run_revoke] at returns
  split at returns
  · cases returns
    exact .inl ⟨rfl, rfl⟩
  · cases returns with
    | call leads =>
      cases leads
      exact .inr ⟨_, rfl, rfl⟩

theorem concludes_revoke {reads closes : StoreCall → Prop}
    (revokes : ∀ id, closes (.revokeToken id)) (record : PersonalToken) :
    (tokens.revoke record).Concludes reads closes := by
  unfold Action.Concludes
  rw [run_revoke]
  split
  · exact .done _
  · exact .last (revokes _) fun answer => ⟨_, rfl⟩

theorem concludes_create {reads closes : StoreCall → Prop}
    (named : ∀ owner name, reads (.findActiveToken owner name))
    (inserts : ∀ record : PersonalToken, record.id = occasion.recordId → record.revoked = false →
      closes (.insertToken record)) (caller : Claims) (name expiry : String) :
    (tokens.create occasion caller name expiry).Concludes reads closes := by
  -- Every way out before the record is put in has only looked the name up.
  refine (Action.uses_ask (named _ _)).concludes_bind fun taken => ?_
  split
  · exact (Action.uses_throw _).concludes
  refine (Action.uses_ofExcept _).concludes_bind fun expiresAt => ?_
  split
  · exact (Action.uses_throw _).concludes
  refine (Action.uses_lift _ _).concludes_bind fun issued => ?_
  refine (Action.uses_lift _ _).concludes_bind fun hash => ?_
  exact (Action.concludes_ask (inserts _ rfl rfl)).bind fun _ => ⟨_, rfl⟩

end PersonalTokens

/-! ## What a call asks for -/

/-- What a call may ask for at last: to put in a record of its own, or to revoke one. -/
inductive TokenCall.Closes (call : TokenCall) : StoreCall → Prop
  | insert {record : PersonalToken} (id : call.newId? = some record.id)
      (notRevoked : record.revoked = false) : Closes call (.insertToken record)
  | revoke (id : Uuid) : Closes call (.revokeToken id)

section Requests

variable {service : Service} {occasion : Occasion} {request : Request}

theorem Service.concludes_dispatch (app : App) (established : Option Caller) :
    (service.dispatch occasion request established).Concludes StoreCall.KeepsRecords
      (TokenCall.request app occasion request).Closes := by
  cases found : Route.find? request.method request.path with
  | none =>
    rw [dispatch, found]
    exact (Action.uses_pure _).concludes
  | some route =>
    obtain ⟨endpoint, vary⟩ := route
    rw [dispatch_of_find? established found]
    cases endpoint with
    | createToken =>
      refine withCaller_rule (P := (·.Concludes _ _)) (fun e => (Action.uses_throw e).concludes)
        fun caller _ => ?_
      refine withJson_rule (P := (·.Concludes _ _)) (fun _ => (Action.uses_pure _).concludes)
        fun form _ => (Action.uses_ofExcept _).concludes_bind fun _ => ?_
      refine (PersonalTokens.concludes_create ?_ ?_ _ _ _).bind fun _ => ⟨_, rfl⟩
      · exact fun _ _ => trivial
      · intro record drawn notRevoked
        refine .insert ?_ notRevoked
        rw [TokenCall.newId?, found, drawn]
    | revokeToken =>
      refine withCaller_rule (P := (·.Concludes _ _)) (fun e => (Action.uses_throw e).concludes)
        fun caller _ => ?_
      refine withSegment_rule (P := (·.Concludes _ _)) (Action.uses_pure _).concludes
        fun _ id _ _ => ?_
      refine (uses_visibleToken (fun _ => trivial) _ _).concludes_bind fun record => ?_
      exact (PersonalTokens.concludes_revoke .revoke record).bind fun _ => ⟨_, rfl⟩
    | _ =>
      -- The other endpoints leave the records as they are.
      refine Action.Uses.concludes ((uses_answer established _ vary).mono ?_)
      rintro op ⟨⟩ <;> trivial

/-- A call leaves the records as they are until its last operation. -/
theorem TokenCall.concludes (call : TokenCall) :
    call.program.Concludes StoreCall.KeepsRecords call.Closes := by
  cases call with
  | revoke tokens held =>
    exact Program.Concludes.bind (PersonalTokens.concludes_revoke .revoke held) fun _ => ⟨_, rfl⟩
  | create tokens occasion caller name expiry =>
    refine Program.Concludes.bind (PersonalTokens.concludes_create ?_ ?_ caller name expiry)
      fun _ => ⟨_, rfl⟩
    · exact fun _ _ => trivial
    · intro record drawn notRevoked
      exact .insert (by rw [newId?, drawn]) notRevoked
  | request app occasion request =>
    have concludes : (app.action occasion request).Concludes StoreCall.KeepsRecords
        (TokenCall.request app occasion request).Closes := by
      match app with
      | .bare service => exact Service.concludes_dispatch _ _
      | .gated none => exact (Action.uses_throw _).concludes
      | .gated (some service) =>
        refine (Gate.uses_authorize (fun _ => trivial) fun _ => trivial).concludes_bind
          fun outcome => ?_
        cases outcome <;> exact Service.concludes_dispatch _ _
    rw [program, App.handle_eq]
    exact (Program.Concludes.bind concludes fun _ => ⟨_, rfl⟩).bind fun _ => ⟨_, rfl⟩

/-! ## Revocations within a call -/

/-- No revocation was asked for. -/
def NoRevocation (past : List Answered) : Prop := ∀ did ∈ past, ∀ id, did.op ≠ .revokeToken id

/-- A request has asked for no revocation, and is not answered as if it had made one. -/
def Request.RevokesNone (request : Request) (past : List Answered) (response : Response) : Prop :=
  NoRevocation past ∧
    ∀ vary, Route.find? request.method request.path = some (.revokeToken, vary) →
      response.status ≠ 204

variable {past : List Answered} {result : Except AuthError Response}

/-- No error is answered as if a record had been revoked. -/
theorem AuthError.status_response_ne (e : AuthError) : e.response.status ≠ 204 := by
  change e.kind.status ≠ 204
  cases e.kind <;> decide

theorem Request.revokesNone_of_error {e : AuthError} (quiet : NoRevocation past) :
    request.RevokesNone past (.ofResult (.error e)) :=
  ⟨quiet, fun _ _ => e.status_response_ne⟩

theorem Service.noRevocation_of_visibleToken {caller : Caller} {id : Uuid}
    {found : Except AuthError PersonalToken}
    (returns : (service.visibleToken caller id).run.Returns past found) : NoRevocation past := by
  have uses : (service.visibleToken caller id).Uses fun op => ∀ id, op ≠ .revokeToken id :=
    uses_visibleToken (fun _ _ => nofun) caller id
  exact uses.of_mem returns

theorem Gate.noRevocation_of_authorize {gate : Gate} {now : Instant} {asked : GateRequest}
    {outcome : Except AuthError GateOutcome}
    (returns : (gate.authorize now asked).run.Returns past outcome) : NoRevocation past := by
  have uses : (gate.authorize now asked).Uses fun op => ∀ id, op ≠ .revokeToken id :=
    uses_authorize (fun _ _ => nofun) fun _ _ => nofun
  exact uses.of_mem returns

/-- An endpoint has made a revocation, of a record that it loaded for the caller, or none. -/
theorem Service.returns_dispatch {established : Option Caller}
    (returns : (service.dispatch occasion request established).run.Returns past result) :
    (∃ caller before behind record settled, established = some caller ∧ past = before ++ behind ∧
      service.LoadsFor request caller before record ∧
      (service.personalTokens.revoke record).run.Returns behind settled ∧
      result = settled.map fun _ => .empty 204) ∨
    request.RevokesNone past (.ofResult result) := by
  cases found : Route.find? request.method request.path with
  | none =>
    rw [dispatch, found] at returns
    cases returns
    exact .inr ⟨List.forall_mem_nil _, by simp [found]⟩
  | some route =>
    obtain ⟨endpoint, vary⟩ := route
    rw [dispatch_of_find? established found] at returns
    by_cases revokes : endpoint = .revokeToken
    · subst revokes
      revert returns
      refine withCaller_rule (P := fun action => action.run.Returns past result → _) ?_ ?_
      · intro e returns
        cases returns
        exact .inr (Request.revokesNone_of_error (List.forall_mem_nil _))
      intro caller known
      refine withSegment_rule (P := fun action => action.run.Returns past result → _) ?_ ?_
      · intro returns
        cases returns
        exact .inr ⟨List.forall_mem_nil _, fun _ _ => by decide⟩
      intro segment id single named returns
      subst single
      -- The record is looked up, and then the revocation ends the request.
      rcases Action.returns_bind returns with ⟨e, looked, rfl⟩ |
        ⟨before, behind, record, rfl, loaded, rest⟩
      · exact .inr (Request.revokesNone_of_error (noRevocation_of_visibleToken looked))
      · obtain ⟨settled, returned, same⟩ := Action.returns_map rest
        exact .inl ⟨caller, before, behind, record, settled, known, rfl, ⟨found, named, loaded⟩,
          returned, same⟩
    · -- No other endpoint asks for a revocation.
      have asked := (uses_answer established endpoint vary).of_mem returns
      refine .inr ⟨?_, ?_⟩
      · intro did mem id same
        have asks := asked did mem
        rw [same] at asks
        cases asks
        exact revokes rfl
      · intro vary' same
        cases found.symm.trans same
        exact absurd rfl revokes

/-- Behind the gate a request has made a revocation, of a record that it loaded, or none. -/
theorem Service.returns_gated (returns : (service.gated occasion request).run.Returns past result) :
    (∃ before behind record settled, past = before ++ behind ∧
      service.Loads occasion request before record ∧
      (service.personalTokens.revoke record).run.Returns behind settled ∧
      result = settled.map fun _ => .empty 204) ∨
    request.RevokesNone past (.ofResult result) := by
  rcases Action.returns_bind returns with ⟨e, refused, rfl⟩ |
    ⟨first, rest, outcome, rfl, passed, returned⟩
  · exact .inr (Request.revokesNone_of_error (Gate.noRevocation_of_authorize refused))
  have none (quiet : request.RevokesNone rest (.ofResult result)) :
      request.RevokesNone (first ++ rest) (.ofResult result) :=
    ⟨List.forall_mem_append.mpr ⟨Gate.noRevocation_of_authorize passed, quiet.1⟩, quiet.2⟩
  cases outcome with
  | exempt =>
    -- An exempt request has no caller, and the endpoint revokes nothing without one.
    rcases returns_dispatch returned with ⟨_, _, _, _, _, known, -⟩ | quiet
    · cases known
    · exact .inr (none quiet)
  | allowed caller =>
    rcases returns_dispatch returned with
      ⟨_, before, behind, record, settled, known, rfl, loads, returned, same⟩ | quiet
    · cases known
      exact .inl ⟨first ++ before, behind, record, settled, (List.append_assoc _ _ _).symm,
        ⟨rfl, passed, loads⟩, returned, same⟩
    · exact .inr (none quiet)

/-- A call that has ended has made a revocation, or has asked for none. -/
theorem TokenCall.revokes_of_returns {call : TokenCall} {outcome : TokenOutcome}
    (returns : call.program.Returns past outcome) :
    (∃ record result, call.Revokes past record result outcome) ∨
      NoRevocation past ∧ ∀ app occasion asked response, call = .request app occasion asked →
        outcome = .answered response → asked.RevokesNone past response := by
  cases call with
  | revoke tokens held =>
    obtain ⟨result, returned, rfl⟩ := Program.Returns.of_map returns
    exact .inl ⟨held, result, .held returned⟩
  | create tokens occasion caller name expiry =>
    obtain ⟨result, returned, rfl⟩ := Program.Returns.of_map returns
    have uses : (tokens.create occasion caller name expiry).Uses
        fun op => ∀ id, op ≠ .revokeToken id :=
      PersonalTokens.uses_create (fun _ _ _ => nofun) (fun _ _ => nofun) caller name expiry
    refine .inr ⟨uses.of_mem returned, ?_⟩
    rintro _ _ _ _ ⟨⟩
  | request app occasion request =>
    obtain ⟨response, handled, rfl⟩ := Program.Returns.of_map returns
    obtain ⟨result, returned, same⟩ := App.returns_handle handled
    have none (quiet : request.RevokesNone past (.ofResult result)) :
        NoRevocation past ∧ ∀ app' occasion' asked response',
          TokenCall.request app occasion request = .request app' occasion' asked →
          TokenOutcome.answered response = .answered response' →
            asked.RevokesNone past response' := by
      refine ⟨quiet.1, ?_⟩
      rintro _ _ _ _ ⟨⟩ ⟨⟩
      exact same ▸ quiet
    match app with
    | .bare service =>
      rcases Service.returns_dispatch returned with ⟨caller, _, _, _, _, known, -⟩ | quiet
      · cases known
      · exact .inr (none quiet)
    | .gated Option.none =>
      cases returned
      exact .inr (none (Request.revokesNone_of_error (List.forall_mem_nil _)))
    | .gated (some service) =>
      rcases Service.returns_gated returned with
        ⟨before, behind, record, settled, history, loads, revoked, rfl⟩ | quiet
      · rw [same]
        exact .inl ⟨record, settled, .loaded history loads revoked⟩
      · exact .inr (none quiet)

/-- Of the operations in the history of a revocation only the one by which it was told, if there is
one, may revoke a record. -/
theorem TokenCall.Revokes.of_mem {call : TokenCall} {record : PersonalToken}
    {settled : Except AuthError Unit} {outcome : TokenOutcome}
    (revokes : call.Revokes past record settled outcome) {id : Uuid}
    {answer : Except AuthError Bool} (mem : ⟨.revokeToken id, answer⟩ ∈ past) :
    record.id = id ∧ settled = PersonalTokens.revocation answer := by
  have told {tokens : PersonalTokens} {behind : List Answered}
      (returns : (tokens.revoke record).run.Returns behind settled)
      (mem : ⟨.revokeToken id, answer⟩ ∈ behind) :
      record.id = id ∧ settled = PersonalTokens.revocation answer := by
    rcases PersonalTokens.of_returns_revoke returns with ⟨rfl, -⟩ | ⟨answer', rfl, rfl⟩
    · cases mem
    · cases List.mem_singleton.mp mem
      exact ⟨rfl, rfl⟩
  cases revokes with
  | held returns => exact told returns mem
  | loaded history loads returns =>
    subst history
    rcases List.mem_append.mp mem with before | behind
    · obtain ⟨rfl, passed, loads⟩ := loads
      obtain ⟨-, -, loaded⟩ := loads
      rcases List.mem_append.mp before with first | second
      · exact absurd rfl (Gate.noRevocation_of_authorize passed _ first id)
      · exact absurd rfl (Service.noRevocation_of_visibleToken loaded _ second id)
    · exact told returns behind

/-- A revocation succeeds if the store has told so, and it fails because the record is revoked
already, unless the store has failed. -/
theorem TokenCall.Revokes.told {call : TokenCall} {record : PersonalToken}
    {settled : Except AuthError Unit} {outcome : TokenOutcome}
    (revokes : call.Revokes past record settled outcome) :
    settled = .error .alreadyRevoked ∨
      ∃ answer, ⟨.revokeToken record.id, answer⟩ ∈ past ∧
        settled = PersonalTokens.revocation answer := by
  cases revokes with
  | held returns | loaded history loads returns =>
    rcases PersonalTokens.of_returns_revoke returns with ⟨-, conflict⟩ | ⟨answer, rfl, same⟩
    · exact .inl conflict
    · exact .inr ⟨answer, by simp [*], same⟩

end Requests

/-! ## Records in a run -/

/-- An identifier under which nothing is kept is not given to a record but by putting one in. -/
theorem Store.token?_respond_eq_none {store : Store} {id : Uuid} (missing : store.token? id = none)
    (op : StoreCall) (apart : ∀ record, op = .insertToken record → record.id ≠ id) :
    (store.respond op).2.token? id = none := by
  cases op with
  | revokeToken key =>
    have hafter : (store.revokeToken key).2.token? id = _ := token?_revokeToken
    rwa [missing, Option.map_none] at hafter
  | insertToken record =>
    rw [token?_respond_insertToken, if_neg fun taken => apart record rfl taken.2.symm, missing]
  | findToken | tokensOf | findActiveToken => exact missing
  | ping | findAccount | findByEmail | createAccount | recordLogin | swapRefreshHash
  | recordLogout | updateStatus | updateRole =>
    rw [token?, tokens_respond rfl]
    exact missing

section Runs

variable {ι : Type} [DecidableEq ι] {id : Uuid} {record : PersonalToken}

/-- A record that is found in the end and was not there has been put in. -/
theorem Pool.Run.exists_insertion {α : Type} {others : StoreCall → Prop} {start pool : Pool ι α}
    {log : List (Event ι)} (run : Pool.Run others start log pool)
    (missing : start.store.token? id = none) (stored : pool.store.token? id = some record) :
    ∃ event ∈ log, ∃ new, event.did.op = .insertToken new ∧ new.id = id := by
  by_contra none
  -- Otherwise the identifier would have stayed free along the whole run.
  have apart : ∀ event ∈ log, ∀ new, event.did.op = .insertToken new → new.id ≠ id :=
    fun event mem new inserts same => none ⟨event, mem, new, inserts, same⟩
  have still : pool.store.token? id = Option.none := by
    clear none stored
    induction run with
    | refl => exact missing
    | @tail log pool after event run step ih =>
      rw [step.respond.2]
      exact Store.token?_respond_eq_none
        (ih fun event mem => apart event (List.mem_append_left _ mem)) _ (apart event (by simp))
  rw [still] at stored
  cases stored

/-- Calls before they begin. -/
def TokenCall.pool (calls : ι → TokenCall) (store : Store) : Pool ι TokenOutcome :=
  ⟨store, fun i => (calls i).program⟩

/-- The identifiers of new records are fresh: nothing is kept under them, and no two calls draw the
same one. -/
structure FreshIds (calls : ι → TokenCall) (store : Store) : Prop where
  free : ∀ {i id}, (calls i).newId? = some id → store.token? id = none
  apart : ∀ {i j id}, (calls i).newId? = some id → (calls j).newId? = some id → i = j

variable {calls : ι → TokenCall} {store : Store} {log front back : List (Event ι)}
  {event : Event ι} {before after : Pool ι TokenOutcome}

/-- A record is put in by a call, whose own it is, and with that the call has ended. -/
theorem Pool.Run.of_insertion
    (run : Pool.Run StoreCall.KeepsRecords (TokenCall.pool calls store) (front ++ event :: back)
      after)
    (inserts : event.did.op = .insertToken record) :
    ∃ i, event.actor = some i ∧ (calls i).newId? = some record.id ∧
      ∀ later ∈ back, later.actor ≠ some i := by
  have noRead : ¬event.did.op.KeepsRecords := by
    rw [inserts]
    exact id
  obtain ⟨i, actor⟩ := run.exists_actor noRead
  obtain ⟨closes, -, last⟩ := run.concluded actor (calls i).concludes noRead
  rw [inserts] at closes
  cases closes with
  | insert own _ => exact ⟨i, actor, own, last⟩

/-- No record takes the place of one that is stored. -/
theorem Pool.Run.no_insertion (fresh : FreshIds calls store)
    (run : Pool.Run StoreCall.KeepsRecords (TokenCall.pool calls store) front before)
    (further : Pool.Run StoreCall.KeepsRecords before back after)
    (stored : before.store.token? id = some record) :
    ∀ event ∈ back, ∀ new, event.did.op = .insertToken new → new.id ≠ id := by
  rintro event mem new inserts rfl
  obtain ⟨first, second, rfl⟩ := List.append_of_mem mem
  have whole := run.trans further
  rw [← List.append_assoc] at whole
  obtain ⟨i, actor, own, -⟩ := whole.of_insertion inserts
  -- The identifier was free, so the stored record has been put in by a call that drew it as well.
  obtain ⟨earlier, hearlier, old, inserted, same⟩ :=
    run.exists_insertion (fresh.free own) stored
  obtain ⟨third, fourth, rfl⟩ := List.append_of_mem hearlier
  have whole := run.trans further
  rw [List.append_assoc, List.cons_append] at whole
  obtain ⟨j, -, drawn, last⟩ := whole.of_insertion inserted
  obtain rfl := fresh.apart own (same ▸ drawn)
  exact last event (by simp) actor

/-- An operation revokes a record if it asks for that and the record is stored without the mark. -/
theorem Answered.revokes_iff {store : Store} {did : Answered}
    (answered : did = ⟨did.op, (store.respond did.op).1⟩) :
    did.Revokes id ↔ did.op = .revokeToken id ∧
      ∃ record, store.token? id = some record ∧ record.revoked = false := by
  constructor
  · intro revokes
    rw [revokes] at answered
    simp only [Store.respond_revokeToken, Answered.mk.injEq, heq_eq_eq, true_and, Except.ok.injEq]
      at answered
    exact ⟨congrArg Answered.op revokes, Store.revokeToken_fst_iff.mp answered.symm⟩
  · rintro ⟨asks, stored⟩
    rw [asks, Store.respond_revokeToken, Store.revokeToken_fst_iff.mpr stored] at answered
    exact answered

/-- Behind its revocation a record is marked, and it is not revoked again. -/
theorem Pool.Run.revoked_once (fresh : FreshIds calls store)
    (run : Pool.Run StoreCall.KeepsRecords (TokenCall.pool calls store) (front ++ event :: back)
      after)
    (revokes : event.did.Revokes id) :
    (∃ current, after.store.token? id = some current ∧ current.revoked = true) ∧
      ¬RevokedIn back id := by
  obtain ⟨before, behind, hbefore, step, rest⟩ := run.exists_split
  obtain ⟨-, record, stored, notRevoked⟩ := (Answered.revokes_iff step.respond.1).mp revokes
  obtain rfl := Store.token?_id stored
  -- From here on the record is kept, and whether it is marked is told by the log.
  have further : Pool.Run StoreCall.KeepsRecords before (event :: back) after :=
    (Pool.Run.refl.tail step).trans rest
  have apart := hbefore.no_insertion fresh further stored
  constructor
  · obtain ⟨current, hcurrent, kept⟩ := further.exists_kept stored notRevoked apart
    exact ⟨current, hcurrent, kept.revoked.mpr ⟨event, List.mem_cons_self, revokes⟩⟩
  · rintro ⟨later, mem, again⟩
    obtain ⟨first, second, rfl⟩ := List.append_of_mem mem
    obtain ⟨between, _, upto, next, -⟩ := rest.exists_split
    have upto : Pool.Run StoreCall.KeepsRecords before (event :: first) between :=
      (Pool.Run.refl.tail step).trans upto
    obtain ⟨current, hcurrent, kept⟩ := upto.exists_kept stored notRevoked
      fun other hother => apart other (by simp at hother ⊢; tauto)
    obtain ⟨-, unmarked, hunmarked, notMarked⟩ := (Answered.revokes_iff next.respond.1).mp again
    obtain rfl := Option.some.inj (hcurrent.symm.trans hunmarked)
    have marked := kept.revoked.mpr ⟨event, List.mem_cons_self, revokes⟩
    rw [notMarked] at marked
    cases marked

/-- A record is revoked by one event of a run. -/
theorem Pool.Run.eq_of_revokes (fresh : FreshIds calls store)
    (run : Pool.Run StoreCall.KeepsRecords (TokenCall.pool calls store) log after)
    {other : Event ι} (mem : event ∈ log) (revokes : event.did.Revokes id) (hmem : other ∈ log)
    (also : other.did.Revokes id) : other = event := by
  obtain ⟨front, back, rfl⟩ := List.append_of_mem mem
  -- Of two events one lies behind the other, where the record is not revoked again.
  rcases List.mem_append.mp hmem with earlier | later
  · obtain ⟨first, second, rfl⟩ := List.append_of_mem earlier
    rw [List.append_assoc, List.cons_append] at run
    exact absurd ⟨event, by simp, revokes⟩ (run.revoked_once fresh also).2
  · rcases List.mem_cons.mp later with same | behind
    · exact same
    · exact absurd ⟨other, behind, also⟩ (run.revoked_once fresh revokes).2

/-! ## What revocations come to -/

/-- A call has come to its end with a revocation that it made, by what it was answered. -/
def Settled (calls : ι → TokenCall) (log : List (Event ι)) (pool : Pool ι TokenOutcome) (i : ι)
    (record : PersonalToken) (settled : Except AuthError Unit) : Prop :=
  ∃ outcome, pool.thread i = .done outcome ∧
    (calls i).Revokes (doneBy i log) record settled outcome

/-- A revocation that succeeded is the one that was told so. -/
theorem Settled.exists_event {i : ι} (settled : Settled calls log after i record (.ok ())) :
    ∃ event ∈ log, event.actor = some i ∧ event.did.Revokes record.id := by
  obtain ⟨outcome, -, revokes⟩ := settled
  rcases revokes.told with conflict | ⟨answer, mem, same⟩
  · cases conflict
  obtain ⟨front, event, back, rfl, actor, did⟩ := exists_of_mem_doneBy mem
  refine ⟨event, by simp, actor, did.trans ?_⟩
  match answer, same with
  | .ok true, _ => rfl
  | .ok false, same | .error _, same => cases same

/-- The store answers every revocation, and so it succeeds or finds the record revoked already. -/
theorem Settled.ok_or_conflict {i : ι} {settled : Except AuthError Unit}
    (run : Pool.Run StoreCall.KeepsRecords (TokenCall.pool calls store) log after)
    (ended : Settled calls log after i record settled) :
    settled = .ok () ∨ settled = .error .alreadyRevoked := by
  obtain ⟨outcome, -, revokes⟩ := ended
  rcases revokes.told with conflict | ⟨answer, mem, same⟩
  · exact .inr conflict
  obtain ⟨front, event, back, rfl, actor, did⟩ := exists_of_mem_doneBy mem
  have answered := run.answered
  rw [did] at answered
  simp only [Store.respond_revokeToken, Answered.mk.injEq, heq_eq_eq, true_and] at answered
  rw [same, answered]
  cases (Store.revokeToken _ _).1
  · exact .inr rfl
  · exact .inl rfl

/-- Of all revocations of a record one succeeds. -/
theorem Settled.unique {i j : ι} {other : PersonalToken} (fresh : FreshIds calls store)
    (run : Pool.Run StoreCall.KeepsRecords (TokenCall.pool calls store) log after)
    (settled : Settled calls log after i record (.ok ()))
    (also : Settled calls log after j other (.ok ())) (same : other.id = record.id) : j = i := by
  obtain ⟨event, mem, actor, revokes⟩ := settled.exists_event
  obtain ⟨later, hmem, own, again⟩ := also.exists_event
  rw [same] at again
  obtain rfl := run.eq_of_revokes fresh mem revokes hmem again
  exact Option.some.inj (own.symm.trans actor)

/-- A request is answered by what its revocation came to. -/
theorem Settled.status {i : ι} {response : Response} {settled : Except AuthError Unit}
    (ended : Settled calls log after i record settled)
    (answered : after.thread i = .done (.answered response)) :
    (settled = .ok () → response.status = 204) ∧
      (settled = .error .alreadyRevoked → response.status = 409) := by
  obtain ⟨outcome, done, revokes⟩ := ended
  cases answered.symm.trans done
  generalize calls i = call at revokes
  cases revokes
  constructor <;> (rintro rfl; rfl)

/-- A call that has asked the store to revoke a record that was not revoked then has ended with a
revocation of it that succeeded. -/
theorem Settled.of_reached {i : ι}
    (run : Pool.Run StoreCall.KeepsRecords (TokenCall.pool calls store) (front ++ event :: back)
      after)
    (actor : event.actor = some i) (reaches : event.did.op = .revokeToken id)
    (stored : (store.performAll (front.map (·.did.op))).token? id = some record)
    (notRevoked : record.revoked = false) :
    ∃ held : PersonalToken, held.id = id ∧
      Settled calls (front ++ event :: back) after i held (.ok ()) := by
  have revokes : event.did.Revokes id :=
    (Answered.revokes_iff run.answered).mpr ⟨reaches, record, stored, notRevoked⟩
  have noRead : ¬event.did.op.KeepsRecords := by
    rw [reaches]
    exact fun keeps => keeps
  -- The call has ended with this operation, so its outcome comes from this very revocation.
  obtain ⟨-, ⟨outcome, ended⟩, -⟩ := run.concluded actor (calls i).concludes noRead
  have mem : event.did ∈ doneBy i (front ++ event :: back) :=
    List.mem_filterMap.mpr ⟨event, by simp, if_pos actor⟩
  rw [revokes] at mem
  rcases TokenCall.revokes_of_returns (run.returns ended) with ⟨held, settled, told⟩ | ⟨quiet, -⟩
  · obtain ⟨same, rfl⟩ := told.of_mem mem
    exact ⟨held, same, outcome, ended, told⟩
  · exact absurd rfl (quiet _ mem id)

/-- What has been revoked stays so, however the run goes on. -/
theorem Settled.stays_revoked {i : ι} {more : List (Event ι)} {later : Pool ι TokenOutcome}
    (fresh : FreshIds calls store)
    (run : Pool.Run StoreCall.KeepsRecords (TokenCall.pool calls store) log after)
    (settled : Settled calls log after i record (.ok ()))
    (further : Pool.Run StoreCall.KeepsRecords after more later) :
    ∃ current, later.store.token? record.id = some current ∧ current.revoked = true := by
  obtain ⟨event, mem, -, revokes⟩ := settled.exists_event
  obtain ⟨front, back, rfl⟩ := List.append_of_mem mem
  have whole := run.trans further
  rw [List.append_assoc, List.cons_append] at whole
  exact (whole.revoked_once fresh revokes).1

/-- What a call on a copy of a record returns is what its revocation comes to. -/
theorem Settled.of_revoke {i : ι} {tokens : PersonalTokens} {held : PersonalToken}
    {result : Except AuthError Unit}
    (run : Pool.Run StoreCall.KeepsRecords (TokenCall.pool calls store) log after)
    (call : calls i = .revoke tokens held) (returned : after.thread i = .done (.revoked result)) :
    Settled calls log after i held result := by
  have returns : (calls i).program.Returns (doneBy i log) (.revoked result) := run.returns returned
  refine ⟨_, returned, ?_⟩
  rw [call] at returns ⊢
  obtain ⟨_, settled, ⟨⟩⟩ := Program.Returns.of_map returns
  exact .held settled

/-- A request that says that it has revoked a record has done so. -/
theorem Settled.of_request {i : ι} {app : App} {occasion : Occasion} {request : Request}
    {vary : List Segment} {response : Response}
    (run : Pool.Run StoreCall.KeepsRecords (TokenCall.pool calls store) log after)
    (call : calls i = .request app occasion request)
    (route : Route.find? request.method request.path = some (.revokeToken, vary))
    (answered : after.thread i = .done (.answered response)) (success : response.status = 204) :
    ∃ record, Settled calls log after i record (.ok ()) := by
  rcases TokenCall.revokes_of_returns (run.returns answered) with
    ⟨record, settled, revokes⟩ | ⟨-, quiet⟩
  · have ended : Settled calls log after i record settled := ⟨_, answered, revokes⟩
    rcases ended.ok_or_conflict run with rfl | rfl
    · exact ⟨record, ended⟩
    · rw [(ended.status answered).2 rfl] at success
      cases success
  · exact absurd success ((quiet app occasion request response call rfl).2 vary route)

/-- Any number of revocations and of requests, each with a copy of a record that may be old, take
turns with any number of calls that make tokens under fresh identifiers.

What a revocation comes to is what a call on a copy returns, and what a request to revoke a record
answers when it has come so far. It succeeds or conflicts, and of those of one record at most one
succeeds. If one asks the store for a record that is not revoked then, that one succeeds. From then
on the record stays revoked. At any time no name of an owner is borne by two records that are not
revoked. -/
theorem revocation_succeeds_once (distinct : store.Distinct) (fresh : FreshIds calls store)
    (run : Pool.Run StoreCall.KeepsRecords (TokenCall.pool calls store) log after) :
    (∀ i tokens held result, calls i = .revoke tokens held →
      after.thread i = .done (.revoked result) → Settled calls log after i held result) ∧
    (∀ i app occasion request vary response, calls i = .request app occasion request →
      Route.find? request.method request.path = some (.revokeToken, vary) →
      after.thread i = .done (.answered response) → response.status = 204 →
        ∃ record, Settled calls log after i record (.ok ())) ∧
    (∀ i record settled, Settled calls log after i record settled →
      (settled = .ok () ∨ settled = .error .alreadyRevoked) ∧
      ∀ response, after.thread i = .done (.answered response) →
        (settled = .ok () → response.status = 204) ∧
        (settled = .error .alreadyRevoked → response.status = 409)) ∧
    (∀ i j record other, Settled calls log after i record (.ok ()) →
      Settled calls log after j other (.ok ()) → other.id = record.id → j = i) ∧
    (∀ front event back i id record, log = front ++ event :: back → event.actor = some i →
      event.did.op = .revokeToken id →
      (store.performAll (front.map (·.did.op))).token? id = some record → record.revoked = false →
        ∃ held : PersonalToken, held.id = id ∧ Settled calls log after i held (.ok ()) ∧
          ∀ j other, other.id = id → Settled calls log after j other (.ok ()) → j = i) ∧
    (∀ i record more later, Settled calls log after i record (.ok ()) →
      Pool.Run StoreCall.KeepsRecords after more later →
        ∃ current, later.store.token? record.id = some current ∧ current.revoked = true) ∧
    ∀ owner name, (after.store.tokens.filter (Store.isActive owner name)).length ≤ 1 := by
  have kept : after.store.Distinct := by
    refine run.invariant (·.store.Distinct) distinct fun pool event after holds step => ?_
    rw [step.respond.2]
    exact holds.respond _
  refine ⟨fun _ _ _ _ call returned => .of_revoke run call returned,
    fun _ _ _ _ _ _ call route answered success =>
      Settled.of_request run call route answered success,
    fun _ _ _ ended => ⟨ended.ok_or_conflict run, fun _ answered => ended.status answered⟩,
    fun _ _ _ _ settled also same => settled.unique fresh run also same, ?_,
    fun _ _ _ _ settled further => settled.stays_revoked fresh run further,
    kept.length_filter_isActive_le_one⟩
  rintro front event back i id record rfl actor reaches stored notRevoked
  obtain ⟨held, same, settled⟩ := Settled.of_reached run actor reaches stored notRevoked
  exact ⟨held, same, settled, fun j other own also =>
    settled.unique fresh run also (own.trans same.symm)⟩

end Runs

namespace TwoRevocations

open AdminRequest (service occasion account)
open RevokedToken (tokens caller)

/-- What is at work: a revocation and a request for one, and twice the making of a token. -/
inductive Task where
  | revocation
  | deletion
  | first
  | second
  deriving DecidableEq

/-- A record of the administrator. -/
def record : PersonalToken := ⟨.nil, 7, "ci", .epoch, occasion.now, "hash", false⟩

/-- The store with the record. -/
def store : Store := ⟨7, [account], [record]⟩

/-- The record is to be revoked, with a bearer token. -/
def delete (token : String) : Request where
  method := "DELETE"
  target := "/api/tokens/00000000-0000-0000-0000-000000000000"
  headers := [("Authorization", "Bearer " ++ token)]
  body := ""

/-- The revocation holds the record as it is in the beginning, and the tokens are to have the name
that it has. -/
def calls (token : String) : Task → TokenCall
  | .revocation => .revoke tokens record
  | .deletion => .request (.gated (some service)) occasion (delete token)
  | .first => .create tokens { occasion with recordId := .version4 1 } caller "ci" "1970-01-02"
  | .second => .create tokens { occasion with recordId := .version4 2 } caller "ci" "1970-01-02"

theorem path_delete (token : String) :
    (delete token).path = "/api/tokens/00000000-0000-0000-0000-000000000000" := by
  change Percent.decodePath (String.ofList
    ("/api/tokens/00000000-0000-0000-0000-000000000000".toList.takeWhile _)) = _
  decide +kernel

theorem find?_delete (token : String) : Route.find? (delete token).method (delete token).path =
    some (.revokeToken, ["00000000-0000-0000-0000-000000000000".toList]) := by
  change Route.find? "DELETE" _ = _
  rw [path_delete]
  decide +kernel

theorem distinct : store.Distinct := by
  constructor <;> decide +kernel

/-- Each new token has an identifier of its own. -/
theorem newId?_calls (token : String) (task : Task) : (calls token task).newId? =
    match task with
    | .first => some (.version4 1)
    | .second => some (.version4 2)
    | _ => none := by
  cases task with
  | deletion => rw [calls, TokenCall.newId?, find?_delete]
  | _ => rfl

theorem freshIds (token : String) : FreshIds (calls token) store := by
  have hfirst : store.token? (.version4 1) = none := by decide +kernel
  have hsecond : store.token? (.version4 2) = none := by decide +kernel
  have hne : Uuid.version4 1 ≠ .version4 2 := by decide +kernel
  constructor
  · intro i id own
    rw [newId?_calls] at own
    cases i <;> grind
  · intro i j id own other
    rw [newId?_calls] at own other
    cases i <;> cases j <;> grind

/-- The calls before they begin, with the bearer token of the request. -/
def start (issued : IssuedToken) : Pool Task TokenOutcome :=
  TokenCall.pool (calls issued.token) store

/-- The gate has let the request pass. -/
def behindGate (issued : IssuedToken) : Pool Task TokenOutcome where
  store := store
  thread := Function.update (start issued).thread .deletion
    (Program.bind (Program.bind
      (service.revokeToken ⟨issued.claims, account, .header⟩ record.id).run
        fun result => .done (.ofResult result)) fun response => .done (.answered response))

theorem exists_run_authorize {issued : IssuedToken}
    (h : TokenIssuer.echo.issueAccess occasion.now .nil 7 [.admin] = .ok issued) :
    ∃ log, Pool.Run StoreCall.KeepsRecords (start issued) log (behindGate issued) := by
  obtain ⟨rest, handled, passes⟩ :=
    App.exists_behind_gate service occasion (delete issued.token)
  have permitted : Gate.checkRoles service.gate.policy (delete issued.token).path "DELETE"
      ([.admin].filter fun role => account.role.covers role) = .ok () := by
    rw [path_delete]
    decide +kernel
  have notExempt : service.gate.settings.isExempt (delete issued.token).path = false := by
    rw [path_delete]
    decide +kernel
  have known : store.account? account.id = some account := rfl
  have examined : (service.gate.authorize occasion.now
      ((delete issued.token).toGate service.settings.csrfHeader)).run.exec store = _ :=
    AdminRequest.exec_authorize_of_bearer service.gate rfl known rfl rfl h
      (by simp [delete, Request.rawHeader?]) _ notExempt permitted
  have led : service.dispatch occasion (delete issued.token)
      (some ⟨issued.claims, account, .header⟩) =
        service.revokeToken ⟨issued.claims, account, .header⟩ record.id := by
    have segment : (Percent.decodeSegment? "00000000-0000-0000-0000-000000000000".toList).bind
        Uuid.parse? = some record.id := by
      decide +kernel
    rw [Service.dispatch_of_find? _ (find?_delete _)]
    simp only [Service.answer, Service.withCaller, Service.withSegment, segment]
  -- What the gate does is of no account from here on, and must not be computed.
  generalize (service.gate.authorize occasion.now
    ((delete issued.token).toGate service.settings.csrfHeader)).run = examination
    at examined handled
  have turn : (start issued).thread .deletion = Program.bind examination fun outcome =>
      Program.bind (rest outcome) fun response => .done (.answered response) := by
    rw [← Program.bind_assoc, ← handled]
    rfl
  have run : Pool.Run StoreCall.KeepsRecords (start issued)
      ((examination.history store).map (Event.mk (some .deletion)))
      ⟨(examination.exec store).2, Function.update (start issued).thread .deletion
        (Program.bind (rest (examination.exec store).1) fun response =>
          .done (.answered response))⟩ :=
    Pool.run_of_bind _ turn
  rw [examined, passes, led] at run
  exact ⟨_, run⟩

/-- The request loads the record before the other revocation takes place, and asks for its own
behind it. Both names are looked up before either record is put in. -/
def order : List Task := [.deletion, .revocation, .deletion, .first, .second, .first, .second]

/-- The revocation succeeds, and the request conflicts. Of the two new tokens one is made. -/
theorem revocation_succeeds_once_of_two : ∃ (token : String) (log : List (Event Task))
    (after : Pool Task TokenOutcome) (current : PersonalToken),
    store.Distinct ∧ FreshIds (calls token) store ∧
    Pool.Run StoreCall.KeepsRecords (TokenCall.pool (calls token) store) log after ∧
    Settled (calls token) log after .revocation record (.ok ()) ∧
    (∀ task other, Settled (calls token) log after task other (.ok ()) → other.id = record.id →
      task = .revocation) ∧
    after.thread .deletion = .done (.answered AuthError.alreadyRevoked.response) ∧
    AuthError.alreadyRevoked.response.status = 409 ∧
    after.store.token? record.id = some current ∧ current.revoked = true ∧
    (∃ created, after.thread .first = .done (.created (.ok created))) ∧
    after.thread .second = .done (.created (.error (.tokenNameTaken "ci"))) ∧
    (after.store.tokens.filter (Store.isActive 7 "ci")).length ≤ 1 := by
  obtain ⟨issued, h⟩ : ∃ issued,
      TokenIssuer.echo.issueAccess occasion.now .nil 7 [.admin] = .ok issued := ⟨_, rfl⟩
  obtain ⟨front, authorized⟩ := exists_run_authorize h
  obtain ⟨back, further⟩ :=
    Pool.exists_run_turns StoreCall.KeepsRecords (behindGate issued) order
  have run := authorized.trans further
  obtain ⟨returned, -, -, once, -, stays, names⟩ :=
    revocation_succeeds_once distinct (freshIds issued.token) run
  have revoked := returned .revocation tokens record (.ok ()) rfl rfl
  obtain ⟨current, stored, marked⟩ := stays .revocation record [] _ revoked .refl
  exact ⟨issued.token, _, _, current, distinct, freshIds _, run, revoked,
    fun task other also same => once .revocation task record other revoked also same, rfl, rfl,
    stored, marked, ⟨_, rfl⟩, rfl, names 7 "ci"⟩

end TwoRevocations

end SessionAuth
