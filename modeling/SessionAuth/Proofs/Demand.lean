import SessionAuth.Proofs.History
import SessionAuth.Proofs.Outcome

/-!
# What a program asks for

What a program asks for may depend on what it was answered before. Like its result, it is told by
walking through the program once, with nothing assumed of the answers, and then it holds of every
operation of the program in a run, however those of others fall in between.

An endpoint asks for a few kinds of operations, whatever it is answered, and the gate looks up
accounts and the records of personal tokens.

## Main definitions

* `Program.Heeds`, `Action.Heeds` — each operation is permitted by the history, and the result
  suits it
* `Program.Concludes`, `Action.Concludes` — all operations are of one kind, but for the last one
* `Endpoint.MayAsk` — the operations that an endpoint asks for

## Main results

* `Pool.Run.permits` — what a program asks for in a run is permitted by what it was answered before
* `Pool.Run.concluded` — a program that concludes ends with its last operation
* `Gate.uses_authorize`, `Service.uses_answer` — what is asked for on behalf of a request
-/

namespace SessionAuth

variable {α β ε ι : Type} {past : List Answered}

/-! ## Programs -/

namespace Program

/-- Whatever a program is answered, each operation that it asks for is permitted by its history up
to then, and it ends with a result that suits its whole history. -/
def Heeds (permits : List Answered → StoreCall → Prop) (post : List Answered → α → Prop) :
    Program α → List Answered → Prop
  | .done result, past => post past result
  | .call op _ next, past =>
    permits past op ∧ ∀ answer, (next answer).Heeds permits post (past ++ [⟨op, answer⟩])

variable {permits : List Answered → StoreCall → Prop} {allowed : StoreCall → Prop}
  {program : Program α} {f : α → Program β} {mid : List Answered → α → Prop}
  {post : List Answered → β → Prop}

theorem Heeds.bind (heeds : program.Heeds permits mid past)
    (rest : ∀ past a, mid past a → (f a).Heeds permits post past) :
    (program.bind f).Heeds permits post past := by
  induction program generalizing past with
  | done result => exact rest past result heeds
  | call op bounded next ih => exact ⟨heeds.1, fun answer => ih answer (heeds.2 answer)⟩

theorem Heeds.yields (heeds : program.Heeds permits mid past) : program.Yields mid past := by
  induction program generalizing past with
  | done result => exact heeds
  | call op bounded next ih => exact fun answer => ih answer (heeds.2 answer)

/-- A program that asks only for operations of a kind is permitted all of them if any history
permits that kind. -/
theorem Uses.heeds (uses : Uses allowed program) (yields : program.Yields mid past)
    (permitted : ∀ past op, allowed op → permits past op) : program.Heeds permits mid past := by
  induction uses generalizing past with
  | done result => exact yields
  | call here _ ih => exact ⟨permitted past _ here, fun answer => ih answer (yields answer)⟩

/-- Whatever a program is answered, it asks for operations of one kind, and at last perhaps for one
of another kind, with the answer to which it ends. -/
inductive Concludes (reads closes : StoreCall → Prop) : Program α → Prop
  | done (result : α) : Concludes reads closes (.done result)
  | call {op : StoreCall} {bounded : Bool} {next : Except AuthError op.Answer → Program α}
      (here : reads op) (rest : ∀ answer, Concludes reads closes (next answer)) :
      Concludes reads closes (.call op bounded next)
  | last {op : StoreCall} {bounded : Bool} {next : Except AuthError op.Answer → Program α}
      (closing : closes op) (ends : ∀ answer, ∃ result, next answer = .done result) :
      Concludes reads closes (.call op bounded next)

variable {reads closes : StoreCall → Prop}

theorem Concludes.next {op : StoreCall} {bounded : Bool}
    {next : Except AuthError op.Answer → Program α}
    (concludes : (Program.call op bounded next).Concludes reads closes)
    (answer : Except AuthError op.Answer) : (next answer).Concludes reads closes := by
  cases concludes with
  | call _ rest => exact rest answer
  | last _ ends =>
    obtain ⟨result, same⟩ := ends answer
    rw [same]
    exact .done result

/-- What follows on a program that only reads may conclude. -/
theorem Uses.concludes_bind (uses : Uses reads program)
    (rest : ∀ a, (f a).Concludes reads closes) : (program.bind f).Concludes reads closes := by
  induction uses with
  | done result => exact rest result
  | call here _ ih => exact .call here ih

theorem Uses.concludes (uses : Uses reads program) : program.Concludes reads closes := by
  rw [← bind_done program]
  exact uses.concludes_bind .done

/-- To a program that concludes only its result may be added. -/
theorem Concludes.bind (concludes : program.Concludes reads closes)
    (ends : ∀ a, ∃ b, f a = .done b) : (program.bind f).Concludes reads closes := by
  induction concludes with
  | done result =>
    obtain ⟨b, same⟩ := ends result
    change (f result).Concludes reads closes
    rw [same]
    exact .done b
  | call here _ ih => exact .call here ih
  | @last op bounded next closing done =>
    refine .last closing fun answer => ?_
    obtain ⟨result, same⟩ := done answer
    rw [same]
    exact ends result

theorem Uses.mono {other : StoreCall → Prop} (uses : Uses allowed program)
    (weaker : ∀ op, allowed op → other op) : Uses other program := by
  induction uses with
  | done result => exact .done result
  | call here _ ih => exact .call (weaker _ here) ih

end Program

/-! ## Actions -/

namespace Action

/-- Each operation that an action asks for is permitted by its history up to then, and if it
succeeds it does so with a result that suits its whole history. -/
def Heeds (permits : List Answered → StoreCall → Prop) (post : List Answered → α → Prop)
    (action : Action α) (past : List Answered) : Prop :=
  Program.Heeds permits (fun past result => ∀ a, result = .ok a → post past a) action.run past

variable {permits : List Answered → StoreCall → Prop} {allowed : StoreCall → Prop}
  {action : Action α} {f : α → Action β} {mid : List Answered → α → Prop}
  {post : List Answered → β → Prop}

theorem heeds_pure {b : β} (suits : post past b) : Heeds permits post (pure b) past := by
  rintro _ ⟨⟩
  exact suits

theorem heeds_throw {e : AuthError} : Heeds permits post (throw e) past := nofun

theorem Heeds.bind (heeds : action.Heeds permits mid past)
    (rest : ∀ past a, mid past a → (f a).Heeds permits post past) :
    (action >>= f).Heeds permits post past := by
  refine Program.Heeds.bind heeds fun past result suits => ?_
  cases result with
  | error e => exact heeds_throw
  | ok a => exact rest past a (suits a rfl)

theorem Uses.heeds (uses : action.Uses allowed) (yields : action.Yields mid past)
    (permitted : ∀ past op, allowed op → permits past op) : action.Heeds permits mid past :=
  Program.Uses.heeds uses yields permitted

theorem heeds_ask_bind {op : StoreCall} {f : op.Answer → Action β} (here : permits past op)
    (rest : ∀ answer, (f answer).Heeds permits post (past ++ [⟨op, .ok answer⟩])) :
    (ask op >>= f).Heeds permits post past := by
  refine ⟨here, fun answer => ?_⟩
  cases answer with
  | error e => exact heeds_throw
  | ok answer => exact rest answer

theorem heeds_ofExcept_bind {result : Except AuthError α}
    (rest : ∀ a, result = .ok a → (f a).Heeds permits post past) :
    (ofExcept result >>= f).Heeds permits post past := by
  cases result with
  | error e => exact heeds_throw
  | ok a => exact rest a rfl

/-- Whatever an action is answered, it asks for operations of one kind, and at last perhaps for one
of another kind. -/
def Concludes (reads closes : StoreCall → Prop) (action : Action α) : Prop :=
  Program.Concludes reads closes action.run

variable {reads closes : StoreCall → Prop}

theorem Uses.concludes (uses : action.Uses reads) : action.Concludes reads closes :=
  Program.Uses.concludes uses

theorem Uses.concludes_bind (uses : action.Uses reads)
    (rest : ∀ a, (f a).Concludes reads closes) : (action >>= f).Concludes reads closes := by
  refine Program.Uses.concludes_bind uses fun result => ?_
  cases result with
  | error e => exact .done _
  | ok a => exact rest a

theorem concludes_ask {op : StoreCall} (closing : closes op) : (ask op).Concludes reads closes :=
  .last closing fun answer => ⟨answer, rfl⟩

/-- To an action that concludes only its result may be added. -/
theorem Concludes.bind (concludes : action.Concludes reads closes)
    (ends : ∀ a, ∃ result, (f a).run = .done result) : (action >>= f).Concludes reads closes := by
  refine Program.Concludes.bind concludes fun result => ?_
  cases result with
  | error e => exact ⟨.error e, rfl⟩
  | ok a => exact ends a

end Action

/-! ## Runs -/

namespace Pool

variable [DecidableEq ι] {others : StoreCall → Prop} {start pool : Pool ι α} {i : ι}

/-- What a program asks for in a run is permitted by what it was answered before. -/
theorem Run.permits {permits : List Answered → StoreCall → Prop} {post : List Answered → α → Prop}
    {front back : List (Event ι)} {event : Event ι}
    (run : Run others start (front ++ event :: back) pool) (actor : event.actor = some i)
    (heeds : (start.thread i).Heeds permits post []) : permits (doneBy i front) event.did.op := by
  obtain ⟨before, behind, hbefore, hstep, -⟩ := run.exists_split
  have here := hbefore.follows (·.Heeds permits post ·) (fun _ _ _ _ heeds => heeds.2) heeds
  cases hstep with
  | own turn =>
    cases actor
    rw [turn] at here
    exact here.1
  | other => cases actor

/-- With the last operation of a program that concludes the program has ended. It is no other event
of the program behind it. -/
theorem Run.concluded {reads closes : StoreCall → Prop} {front back : List (Event ι)}
    {event : Event ι} (run : Run others start (front ++ event :: back) pool)
    (actor : event.actor = some i) (concludes : (start.thread i).Concludes reads closes)
    (noRead : ¬reads event.did.op) :
    closes event.did.op ∧ (∃ result, pool.thread i = .done result) ∧
      ∀ later ∈ back, later.actor ≠ some i := by
  obtain ⟨before, behind, hbefore, hstep, hbehind⟩ := run.exists_split
  -- Whatever it has been answered, what is left of the program concludes as well.
  have here : (before.thread i).Concludes reads closes :=
    hbefore.follows (fun left _ => left.Concludes reads closes)
      (fun _ _ _ _ concludes answer => concludes.next answer) concludes
  cases hstep with
  | own turn =>
    cases actor
    rw [turn] at here
    cases here with
    | call read => exact absurd read noRead
    | last closing ends =>
      -- The answer was the last one, and a program that has ended has no event of its own.
      obtain ⟨result, ended⟩ := ends (before.store.respond _).1
      have done : (Function.update before.thread i _) i = .done result :=
        (Function.update_self _ _ _).trans ended
      refine ⟨closing, ⟨result, hbehind.done_of_done done⟩, fun later mem own => ?_⟩
      exact hbehind.not_done_of_mem mem own result done
  | other => cases actor

end Pool

/-! ## Requests -/

/-- The operations that an endpoint asks for. -/
inductive Endpoint.MayAsk : Endpoint → StoreCall → Prop
  | ping : MayAsk .health .ping
  | authenticate (email : String) : MayAsk .login (.findByEmail email)
  | login (id : Int32) (hash : String) (now : Instant) : MayAsk .login (.recordLogin id hash now)
  | create (new : NewAccount) (now : Instant) : MayAsk .register (.createAccount new now)
  | start (id : Int32) (hash : String) (now : Instant) :
      MayAsk .register (.recordLogin id hash now)
  | load (id : Int32) : MayAsk .refresh (.findAccount id)
  | swap (id : Int32) (expected new : String) (now : Instant) :
      MayAsk .refresh (.swapRefreshHash id expected new now)
  | logout (id : Int32) (now : Instant) : MayAsk .logout (.recordLogout id now)
  | target (id : Int32) : MayAsk .updateStatus (.findAccount id)
  | updateStatus (id : Int32) (change : StatusChange) :
      MayAsk .updateStatus (.updateStatus id change)
  | updateRole (id : Int32) (role : Role) : MayAsk .updateRole (.updateRole id role)
  | named (owner : Int32) (name : String) : MayAsk .createToken (.findActiveToken owner name)
  | insert (record : PersonalToken) : MayAsk .createToken (.insertToken record)
  | list (owner : Int32) : MayAsk .listTokens (.tokensOf owner)
  | read (id : Uuid) : MayAsk .readToken (.findToken id)
  | visible (id : Uuid) : MayAsk .revokeToken (.findToken id)
  | revoke (id : Uuid) : MayAsk .revokeToken (.revokeToken id)

section Requests

variable {allowed : StoreCall → Prop}

/-- The gate looks up accounts and the records of personal tokens. -/
theorem Gate.uses_authorize {gate : Gate} {now : Instant} {request : GateRequest}
    (account : ∀ id, allowed (.findAccount id)) (token : ∀ id, allowed (.findToken id)) :
    (gate.authorize now request).Uses allowed := by
  have personal (claims : Claims) (text : String) :
      (gate.checkPersonal now claims text).Uses allowed := by
    refine Action.Uses.bind (.call (token _) fun _ => .done _) fun found => ?_
    cases found with
    | none => exact Action.uses_throw _
    | some record =>
      dsimp only
      split
      · exact Action.uses_throw _
      · exact Action.uses_ofExcept _
  have decided (claims : Claims) (account : Account) (source : CredentialSource) :
      (do
        Action.ofExcept (checkRoles gate.policy request.path request.method
          (effectiveRoles claims account))
        return ⟨claims, account, source⟩ : Action Caller).Uses allowed :=
    (Action.uses_ofExcept _).bind fun _ => Action.uses_pure _
  have examine : (gate.examine now request).Uses allowed := by
    unfold Gate.examine
    cases request.credential? with
    | none => exact Action.uses_throw _
    | some credential =>
      refine (Action.uses_ofExcept _).bind fun claims => ?_
      refine Action.Uses.bind (.call (account _) fun _ => .done _) fun found => ?_
      cases found with
      | none => exact Action.uses_throw _
      | some account =>
        refine (Action.uses_ofExcept _).bind fun _ => (Action.uses_ofExcept _).bind fun _ => ?_
        split
        · exact (personal _ _).bind fun _ => decided _ _ _
        · exact decided _ _ _
  unfold authorize
  split
  · exact Action.uses_pure _
  · exact examine.bind fun _ => Action.uses_pure _

namespace Sessions

variable {sessions : Sessions} {occasion : Occasion}

theorem uses_login (records : ∀ id hash now, allowed (.recordLogin id hash now))
    (account : Account) : (sessions.login occasion account).Uses allowed := by
  refine (Action.uses_lift _ _).bind fun tokens => (Action.uses_lift _ _).bind fun hash => ?_
  exact (Action.uses_ask (records _ _ _)).bind fun _ => Action.uses_pure _

theorem uses_authenticate (finds : ∀ email, allowed (.findByEmail email))
    (email password : String) : (sessions.authenticate email password).Uses allowed := by
  refine (Action.uses_ask (finds _)).bind fun found => ?_
  cases found with
  | none => exact Action.uses_throw _
  | some account =>
    refine (Action.uses_lift _ _).bind fun belongs => ?_
    cases belongs with
    | false => exact Action.uses_throw _
    | true => exact (Action.uses_ofExcept _).bind fun _ => Action.uses_pure _

theorem uses_exchange (loads : ∀ id, allowed (.findAccount id))
    (swaps : ∀ id expected new now, allowed (.swapRefreshHash id expected new now))
    (presented : String) : (sessions.exchange occasion presented).Uses allowed := by
  refine (Action.uses_ofExcept _).bind fun claims => ?_
  split
  · exact Action.uses_throw _
  refine (Action.uses_ask (loads _)).bind fun found => ?_
  cases found with
  | none => exact Action.uses_throw _
  | some account =>
    refine (Action.uses_ofExcept _).bind fun _ => Action.Uses.bind ?_ fun _ => Action.uses_pure _
    refine (Action.uses_ofExcept _).bind fun stored => ?_
    split
    · exact Action.uses_throw _
    refine (Action.uses_lift _ _).bind fun tokens => (Action.uses_lift _ _).bind fun hash => ?_
    refine (Action.uses_ask (swaps _ _ _ _)).bind fun swapped => ?_
    cases swapped with
    | false => exact Action.uses_throw _
    | true => exact Action.uses_pure _

end Sessions

namespace PersonalTokens

variable {tokens : PersonalTokens} {occasion : Occasion}

theorem uses_create (named : ∀ owner name, allowed (.findActiveToken owner name))
    (inserts : ∀ record, allowed (.insertToken record)) (caller : Claims) (name expiry : String) :
    (tokens.create occasion caller name expiry).Uses allowed := by
  refine (Action.uses_ask (named _ _)).bind fun taken => ?_
  split
  · exact Action.uses_throw _
  refine (Action.uses_ofExcept _).bind fun expiresAt => ?_
  split
  · exact Action.uses_throw _
  refine (Action.uses_lift _ _).bind fun issued => (Action.uses_lift _ _).bind fun hash => ?_
  exact (Action.uses_ask (inserts _)).bind fun _ => Action.uses_pure _

theorem uses_revoke (revokes : ∀ id, allowed (.revokeToken id)) (record : PersonalToken) :
    (tokens.revoke record).Uses allowed := by
  unfold revoke
  split
  · exact Action.uses_throw _
  refine (Action.uses_ask (revokes _)).bind fun revoked => ?_
  split
  · exact Action.uses_throw _
  · exact Action.uses_pure _

end PersonalTokens

namespace Service

variable {service : Service} {occasion : Occasion} {request : Request}

theorem uses_visibleToken (finds : ∀ id, allowed (.findToken id)) (caller : Caller) (id : Uuid) :
    (service.visibleToken caller id).Uses allowed := by
  refine Action.Uses.bind ?_ fun record => ?_
  · refine (Action.uses_ask (finds _)).bind fun found => ?_
    cases found with
    | some record => exact Action.uses_pure record
    | none => exact Action.uses_throw _
  · split
    · exact Action.uses_pure record
    · exact Action.uses_throw _

/-- An endpoint asks for its own operations, whoever the caller is. -/
theorem uses_answer (established : Option Caller) (endpoint : Endpoint) (vary : List Segment) :
    (service.answer occasion request established endpoint vary).Uses endpoint.MayAsk := by
  cases endpoint with
  | health => exact (Action.uses_attempt .ping).bind fun _ => Action.uses_pure _
  | login =>
    refine uses_withJson fun form => (Action.uses_ofExcept _).bind fun _ => ?_
    refine (Sessions.uses_authenticate .authenticate _ _).bind fun account => ?_
    exact (Sessions.uses_login .login _).bind fun _ => Action.uses_ofExcept _
  | register =>
    refine uses_withJson fun form => (Action.uses_ofExcept _).bind fun _ => ?_
    refine (Action.uses_lift _ _).bind fun hash => ?_
    refine (Action.uses_ask (.create _ _)).bind fun account => ?_
    exact (Sessions.uses_login .start _).bind fun _ => Action.uses_ofExcept _
  | refresh =>
    refine (Action.uses_ofExcept _).bind fun presented => ?_
    exact (Sessions.uses_exchange .load .swap _).bind fun _ => Action.uses_ofExcept _
  | logout =>
    refine uses_withCaller fun caller => ?_
    exact (Action.uses_ask (.logout _ _)).bind fun _ => Action.uses_pure _
  | me => exact uses_withCaller fun caller => Action.uses_pure _
  | updateStatus =>
    refine uses_withCaller fun caller => uses_withSegment fun id => uses_withJson fun change => ?_
    refine (Action.uses_ofExcept _).bind fun _ => (Action.uses_ask (.target _)).bind fun found => ?_
    cases found with
    | none => exact Action.uses_throw _
    | some target =>
      dsimp only
      split
      · exact Action.uses_throw _
      · exact (Action.uses_ask (.updateStatus _ _)).bind fun _ => Action.uses_pure _
  | updateRole =>
    refine uses_withCaller fun caller => uses_withSegment fun id => uses_withJson fun change => ?_
    refine (Action.uses_ofExcept _).bind fun _ => ?_
    exact (Action.uses_ask (.updateRole _ _)).bind fun _ => Action.uses_pure _
  | createToken =>
    refine uses_withCaller fun caller => uses_withJson fun form => ?_
    refine (Action.uses_ofExcept _).bind fun _ => ?_
    exact (PersonalTokens.uses_create .named .insert _ _ _).bind fun _ => Action.uses_pure _
  | listTokens =>
    exact uses_withCaller fun caller =>
      (Action.uses_ask (.list _)).bind fun _ => Action.uses_pure _
  | readToken =>
    refine uses_withCaller fun caller => uses_withSegment fun id => ?_
    exact (uses_visibleToken .read _ _).bind fun _ => Action.uses_pure _
  | revokeToken =>
    refine uses_withCaller fun caller => uses_withSegment fun id => ?_
    refine (uses_visibleToken .visible _ _).bind fun record => ?_
    exact (PersonalTokens.uses_revoke .revoke _).bind fun _ => Action.uses_pure _

end Service

end Requests

end SessionAuth
