import SessionAuth.Proofs.Http.Endpoint
import SessionAuth.Proofs.Outage

/-!
# What an action can come to

What an action asks for can be read off it, whatever it is answered: an action that asks only for
operations of some kind does what these do. If they only read, it leaves the store as it is, even
on a store that fails.

On a given store an action comes to one result and leaves one store if all is answered, and may
come to others where operations fail or are never answered. A condition on result and store is
ensured by an action if it holds of whatever the action comes to. It is established along the
action: a result must meet it, an operation must keep it when it fails, and what goes on behind
an operation must ensure it on the store that the operation leaves.

## Main definitions

* `Action.Uses` — an action asks only for operations of a kind
* `Action.Ensures` — whatever an action comes to on a store meets a condition
* `App.Dispatches` — how a request comes to be led to its endpoint

## Main results

* `Program.answer_eq_some` — what a store that may fail answers
* `Program.Uses.respond_of_run` — what the operations of a program keep is kept by the program
* `Program.Uses.run_eq` — a program that only reads leaves the store
* `Action.Ensures.bind`, `Action.ensures_ask_bind` — a condition is ensured by a sequence
* `App.Dispatches.run_handle` — a request is answered by what its endpoint comes to
* `App.dispatches_or_denied` — a request is led to its endpoint or answered by an error
-/

namespace SessionAuth

variable {α β ε : Type} {store after : Store}

namespace Program

/-- What is answered is the response of the store, or a failure that changes nothing. -/
theorem answer_eq_some {backend : Backend} {op : StoreCall} {bounded : Bool}
    {result : Except AuthError op.Answer}
    (h : answer backend store op bounded = some (result, after)) :
    store.respond op = (result, after) ∨ (∃ e, result = .error e) ∧ after = store := by
  unfold answer at h
  split at h
  · exact .inl (Option.some.inj h)
  · cases h
    exact .inr ⟨⟨_, rfl⟩, rfl⟩
  · cases bounded with
    | true =>
      cases h
      exact .inr ⟨⟨_, rfl⟩, rfl⟩
    | false => cases h

/-! ## What is asked for -/

/-- A program asks only for operations of a kind, whatever it is answered. -/
inductive Uses (allowed : StoreCall → Prop) : Program α → Prop
  | done (result : α) : Uses allowed (.done result)
  | call {op : StoreCall} {bounded : Bool} {next : Except AuthError op.Answer → Program α}
      (permitted : allowed op) (goesOn : ∀ answer, Uses allowed (next answer)) :
      Uses allowed (.call op bounded next)

variable {allowed : StoreCall → Prop}

theorem Uses.bind {program : Program α} {f : α → Program β} (uses : Uses allowed program)
    (next : ∀ a, Uses allowed (f a)) : Uses allowed (program.bind f) := by
  induction uses with
  | done result => exact next result
  | call permitted _ ih => exact .call permitted ih

theorem uses_any (program : Program α) : Uses (fun _ => True) program := by
  induction program with
  | done result => exact .done result
  | call op bounded next ih => exact .call trivial ih

/-- What every operation of a kind keeps is kept by a program that asks for no others. -/
theorem Uses.respond_of_run {keeps : Store → Prop} {program : Program α}
    (uses : Uses allowed program)
    (step : ∀ op, allowed op → ∀ store, keeps store → keeps (store.respond op).2)
    {backend : Backend} {result : α} (h : program.run backend store = some (result, after))
    (here : keeps store) : keeps after := by
  induction uses generalizing store with
  | done result =>
    cases h
    exact here
  | @call op bounded next permitted goesOn ih =>
    rw [run] at h
    split at h
    · next answered =>
      rcases answer_eq_some answered with responded | ⟨-, rfl⟩
      · refine ih _ h ?_
        have hkept := step op permitted store here
        rwa [responded] at hkept
      · exact ih _ h here
    · cases h

/-- What every operation keeps is kept by every program. -/
theorem respond_of_run {keeps : Store → Prop}
    (step : ∀ store, keeps store → ∀ op, keeps (store.respond op).2) {program : Program α}
    {backend : Backend} {result : α} (h : program.run backend store = some (result, after))
    (here : keeps store) : keeps after :=
  program.uses_any.respond_of_run (fun op _ store here => step store here op) h here

end Program

/-- An operation changes no store. -/
def StoreCall.IsRead (op : StoreCall) : Prop := ∀ store : Store, (store.respond op).2 = store

namespace Program

/-- What only reads leaves the store as it is, whatever the store is like. -/
theorem Uses.run_eq {program : Program α} (reads : Uses StoreCall.IsRead program)
    {backend : Backend} {result : α} (h : program.run backend store = some (result, after)) :
    after = store := by
  have step (op : StoreCall) (read : op.IsRead) (other : Store) (same : store = other) :
      store = (other.respond op).2 := same.trans (read other).symm
  exact (reads.respond_of_run step h rfl).symm

theorem Cautious.uses {program : Program (Except AuthError α)} (cautious : Cautious program) :
    Uses StoreCall.IsRead program := by
  induction cautious with
  | done result => exact .done result
  | call reads ends _ ih =>
    refine .call reads fun answer => ?_
    cases answer with
    | ok answer => exact ih answer
    | error e =>
      rw [ends]
      exact .done _

end Program

namespace Action

section Uses

variable {allowed : StoreCall → Prop}

/-- An action asks only for operations of a kind. -/
def Uses (allowed : StoreCall → Prop) (action : Action α) : Prop :=
  Program.Uses allowed action.run

theorem uses_pure (a : α) : Uses allowed (pure a : Action α) := .done _

theorem uses_throw (e : AuthError) : Uses allowed (throw e : Action α) := .done _

theorem uses_ofExcept (result : Except AuthError α) : Uses allowed (ofExcept result) := by
  cases result <;> exact .done _

theorem uses_lift (toError : ε → AuthError) (result : Except ε α) :
    Uses allowed (lift toError result) := by
  cases result <;> exact .done _

theorem uses_ask {op : StoreCall} (permitted : allowed op) : Uses allowed (ask op) :=
  .call permitted fun _ => .done _

/-- An operation of which the failure is handed on asks for itself alone. -/
theorem uses_attempt {op : StoreCall} (permitted : allowed op) :
    Uses allowed (ExceptT.lift (askBounded op).run) :=
  .call permitted fun _ => .done _

/-- Actions that ask for operations of a kind may follow one another. -/
theorem Uses.bind {action : Action α} {f : α → Action β} (uses : Uses allowed action)
    (next : ∀ a, Uses allowed (f a)) : Uses allowed (action >>= f) := by
  refine Program.Uses.bind uses fun result => ?_
  cases result with
  | ok a => exact next a
  | error e => exact .done _

end Uses

/-- Whatever an action comes to on a store, however the store answers, meets a condition. -/
def Ensures (action : Action α) (store : Store) (post : Except AuthError α → Store → Prop) :
    Prop :=
  ∀ (backend : Backend) (result : Except AuthError α) (after : Store),
    action.run.run backend store = some (result, after) → post result after

/-- What every operation of a kind keeps is ensured by an action that asks for no others. -/
theorem Uses.ensures {allowed : StoreCall → Prop} {action : Action α} {keeps : Store → Prop}
    (uses : action.Uses allowed)
    (step : ∀ op, allowed op → ∀ store, keeps store → keeps (store.respond op).2)
    (here : keeps store) : action.Ensures store fun _ after => keeps after :=
  fun _ _ _ h => Program.Uses.respond_of_run uses step h here

variable {post : Except AuthError β → Store → Prop}

theorem ensures_pure {b : β} (here : post (.ok b) store) :
    (pure b : Action β).Ensures store post := by
  rintro backend result after ⟨⟩
  exact here

theorem ensures_throw {e : AuthError} (here : post (.error e) store) :
    (throw e : Action β).Ensures store post := by
  rintro backend result after ⟨⟩
  exact here

/-- An operation ensures what holds of its answer, and of every failure that changes nothing. -/
theorem ensures_ask {op : StoreCall} {post : Except AuthError op.Answer → Store → Prop}
    (fails : ∀ e, post (.error e) store)
    (responds : post (store.respond op).1 (store.respond op).2) :
    (ask op).Ensures store post := by
  intro backend result after h
  change Program.run backend (.call op false .done) store = _ at h
  rw [Program.run] at h
  split at h
  · next answered =>
    cases h
    rcases Program.answer_eq_some answered with responded | ⟨⟨e, rfl⟩, rfl⟩
    · rwa [responded] at responds
    · exact fails e
  · cases h

/-- A condition is ensured by a sequence if the first part leads to where the second ensures it,
and fails only where it holds. -/
theorem Ensures.bind {action : Action α} {f : α → Action β}
    {between : Except AuthError α → Store → Prop} (first : action.Ensures store between)
    (fails : ∀ e after, between (.error e) after → post (.error e) after)
    (next : ∀ a after, between (.ok a) after → (f a).Ensures after post) :
    (action >>= f).Ensures store post := by
  intro backend result after h
  rw [run_bind] at h
  obtain ⟨⟨first?, middle⟩, hfirst, hnext⟩ := Option.bind_eq_some_iff.mp h
  have hbetween := first backend first? middle hfirst
  cases first? with
  | ok a => exact next a middle hbetween backend result after hnext
  | error e =>
    cases hnext
    exact fails e after hbetween

/-- An operation keeps the condition where it fails, and what follows ensures it where the
operation succeeds. -/
theorem ensures_ask_bind {op : StoreCall} {f : op.Answer → Action β}
    (fails : ∀ e, post (.error e) store)
    (next : ∀ answer, (store.respond op).1 = .ok answer →
      (f answer).Ensures (store.respond op).2 post) : (ask op >>= f).Ensures store post := by
  -- Between the two parts either the operation was answered, or nothing was changed.
  have first : (ask op).Ensures store fun answer between =>
      store.respond op = (answer, between) ∨ (∃ e, answer = .error e) ∧ between = store :=
    ensures_ask (fun e => .inr ⟨⟨e, rfl⟩, rfl⟩) (.inl rfl)
  refine first.bind ?_ ?_
  · rintro e between (responded | ⟨-, rfl⟩)
    · have hsame := Store.respond_eq_self (congrArg Prod.fst responded)
      rw [responded] at hsame
      obtain rfl : between = store := hsame
      exact fails e
    · exact fails e
  · rintro answer between (responded | ⟨⟨e, h⟩, -⟩)
    · have hnext := next answer (congrArg Prod.fst responded)
      rwa [responded] at hnext
    · cases h

/-- An operation that only reads hands on its answer. -/
theorem ensures_read_bind {op : StoreCall} {answer : op.Answer} {f : op.Answer → Action β}
    (reads : store.respond op = (.ok answer, store)) (fails : ∀ e, post (.error e) store)
    (next : (f answer).Ensures store post) : (ask op >>= f).Ensures store post := by
  refine ensures_ask_bind fails fun other answered => ?_
  rw [reads] at answered ⊢
  obtain rfl := Except.ok.inj answered
  exact next

/-- An operation that only reads may also hand on its failure. -/
theorem ensures_attempt_bind {op : StoreCall} {f : Except AuthError op.Answer → Action β}
    (reads : (store.respond op).2 = store) (next : ∀ answer, (f answer).Ensures store post) :
    Ensures (ExceptT.lift (askBounded op).run >>= f) store post := by
  intro backend result after h
  change Program.run backend (.call op true fun answer => (f answer).run) store = _ at h
  rw [Program.run] at h
  split at h
  · next answered =>
    rcases Program.answer_eq_some answered with responded | ⟨-, rfl⟩
    · rw [responded] at reads
      obtain rfl : _ = store := reads
      exact next _ backend result after h
    · exact next _ backend result after h
  · cases h

theorem ensures_ofExcept_bind {result : Except AuthError α} {f : α → Action β}
    (fails : ∀ e, result = .error e → post (.error e) store)
    (next : ∀ a, result = .ok a → (f a).Ensures store post) :
    (ofExcept result >>= f).Ensures store post := by
  cases result with
  | ok a => exact next a rfl
  | error e => exact ensures_throw (fails e rfl)

theorem ensures_lift_bind {toError : ε → AuthError} {result : Except ε α} {f : α → Action β}
    (fails : ∀ e, post (.error e) store)
    (next : ∀ a, result = .ok a → (f a).Ensures store post) :
    (lift toError result >>= f).Ensures store post := by
  cases result with
  | ok a => exact next a rfl
  | error e => exact ensures_throw (fails _)

end Action

/-! ## Requests -/

namespace Service

variable {allowed : StoreCall → Prop} {request : Request}

theorem uses_withCaller {established : Option Caller} {next : Caller → Action Response}
    (h : ∀ caller, (next caller).Uses allowed) : (withCaller established next).Uses allowed :=
  withCaller_rule (P := (·.Uses allowed)) Action.uses_throw fun caller _ => h caller

theorem uses_withSegment {vary : List Segment} {read? : List Char → Option α}
    {next : α → Action Response} (h : ∀ a, (next a).Uses allowed) :
    (withSegment vary read? next).Uses allowed :=
  withSegment_rule (P := (·.Uses allowed)) (Action.uses_pure _) fun _ a _ _ => h a

theorem uses_withJson {read? : Json.Value → Option α} {next : α → Action Response}
    (h : ∀ a, (next a).Uses allowed) : (withJson request read? next).Uses allowed :=
  withJson_rule (P := (·.Uses allowed)) (fun _ => Action.uses_pure _) fun a _ => h a

variable {service : Service}

/-- To see whether a caller may know of a record is to look it up. -/
theorem reads_visibleToken (caller : Caller) (id : Uuid) :
    (service.visibleToken caller id).Uses StoreCall.IsRead := by
  refine Action.Uses.bind ?_ fun record => ?_
  · refine (Action.uses_ask fun _ => rfl).bind fun record? => ?_
    cases record? with
    | some record => exact Action.uses_pure record
    | none => exact Action.uses_throw _
  · split
    · exact Action.uses_pure record
    · exact Action.uses_throw _

end Service

section Requests

variable (occasion : Occasion) (request : Request) (backend : Backend) (store : Store)

/-- How a request comes to be led to its endpoint: with nobody as the caller, or with whom the
gate let pass. -/
inductive App.Dispatches : App → Service → Option Caller → Prop
  | bare (service : Service) : Dispatches (.bare service) service none
  | exempt {service : Service}
      (exempt : (service.gate.authorize occasion.now
        (request.toGate service.settings.csrfHeader)).run.run backend store =
          some (.ok .exempt, store)) :
      Dispatches (.gated (some service)) service none
  | allowed {service : Service} {caller : Caller}
      (allowed : (service.gate.authorize occasion.now
        (request.toGate service.settings.csrfHeader)).run.run backend store =
          some (.ok (.allowed caller), store)) :
      Dispatches (.gated (some service)) service (some caller)

/-- A request that is led to its endpoint is answered by what the endpoint comes to. -/
theorem App.Dispatches.run_handle {occasion : Occasion} {request : Request} {backend : Backend}
    {store : Store} {app : App} {service : Service} {established : Option Caller}
    (dispatches : app.Dispatches occasion request backend store service established) :
    (app.handle occasion request).run backend store =
      ((service.dispatch occasion request established).run.run backend store).map
        fun (result, after) => (.ofResult result, after) := by
  cases dispatches with
  | bare service => exact App.run_handle _ _ _ _ _
  | exempt passed | allowed passed =>
    rw [App.run_handle, action, Service.gated, Action.run_bind, passed]
    rfl

/-- A request is led to its endpoint, or it is answered by an error and changes nothing. -/
theorem App.dispatches_or_denied (app : App) :
    (∃ service established, app.Dispatches occasion request backend store service established ∧
      (app.handle occasion request).run backend store =
        ((service.dispatch occasion request established).run.run backend store).map
          fun (result, after) => (.ofResult result, after)) ∨
    ∃ e : AuthError, (app.handle occasion request).run backend store =
      some (e.response, store) := by
  match app with
  | .bare service =>
    exact .inl ⟨service, none, .bare service, Dispatches.run_handle (.bare service)⟩
  | .gated none => exact .inr ⟨.noService, rfl⟩
  | .gated (some service) =>
    obtain ⟨outcome, hrun, -⟩ := Gate.run_authorize service.gate store occasion.now
      (request.toGate service.settings.csrfHeader) backend none
    change (service.gate.authorize _ _).run.run backend store = _ at hrun
    match outcome with
    | .error e => exact .inr ⟨e, run_handle_of_denied hrun⟩
    | .ok .exempt =>
      exact .inl ⟨service, none, .exempt hrun, Dispatches.run_handle (.exempt hrun)⟩
    | .ok (.allowed caller) =>
      exact .inl ⟨service, some caller, .allowed hrun, Dispatches.run_handle (.allowed hrun)⟩

end Requests

end SessionAuth
