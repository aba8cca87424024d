import SessionAuth.Store.View
import SessionAuth.Program

/-!
# Programs on a store that answers

A store of which both halves answer responds to every operation, and leaves a store. So a
program ends on it, with one result and one store, and an action that fails leaves the store
that was left by the operations before its failure.

## Main definitions

* `Program.exec`, `Action.exec` — the result of a program or action and the store that it leaves

## Main results

* `Program.run_healthy` — a program ends on every store that answers
* `Action.exec_bind` — a sequence of actions goes on only behind a success
-/

namespace SessionAuth

variable {α β ε : Type}

namespace Store

variable {store : Store} {id : Int32}

/-! ## What a store responds -/

@[simp] theorem respond_ping : store.respond .ping = (.ok (), store) := rfl

@[simp] theorem respond_findAccount :
    store.respond (.findAccount id) = (.ok (store.account? id), store) := rfl

@[simp] theorem respond_findByEmail {email : String} :
    store.respond (.findByEmail email) = (.ok (store.accountByEmail? email), store) := rfl

@[simp] theorem respond_findToken {key : Uuid} :
    store.respond (.findToken key) = (.ok (store.token? key), store) := rfl

@[simp] theorem respond_tokensOf {owner : Int32} :
    store.respond (.tokensOf owner) = (.ok (store.tokensOf owner), store) := rfl

@[simp] theorem respond_findActiveToken {owner : Int32} {name : String} :
    store.respond (.findActiveToken owner name) = (.ok (store.activeToken? owner name), store) :=
  rfl

@[simp] theorem respond_revokeToken {key : Uuid} :
    store.respond (.revokeToken key) = (.ok (store.revokeToken key).1, (store.revokeToken key).2) :=
  rfl

theorem respond_createAccount {new : NewAccount} {now : Instant} :
    store.respond (.createAccount new now) =
      if (store.accountByEmail? new.email).isSome then (.error .emailTaken, store)
      else (.ok (Account.create (store.lastId + 1) new now),
        { store with
          lastId := store.lastId + 1
          accounts := store.accounts ++ [Account.create (store.lastId + 1) new now] }) := rfl

theorem respond_recordLogin {hash : String} {now : Instant} :
    store.respond (.recordLogin id hash now) =
      if (store.account? id).isSome then
        (.ok (), store.modifyAccount id fun account =>
          { account with refreshHash := some hash, lastLogin := some now })
      else (.error (.noAccount id), store) := by
  simp only [respond, changeAccount, unanswered]
  cases store.account? id <;> rfl

theorem respond_recordLogout {now : Instant} :
    store.respond (.recordLogout id now) =
      if (store.account? id).isSome then
        (.ok (), store.modifyAccount id fun account =>
          { account with refreshHash := none, lastLogout := some now })
      else (.error (.noAccount id), store) := by
  simp only [respond, changeAccount, unanswered]
  cases store.account? id <;> rfl

theorem respond_swapRefreshHash {expected new : String} {now : Instant} :
    store.respond (.swapRefreshHash id expected new now) =
      match store.account? id with
      | none => (.error (.noAccount id), store)
      | some account =>
        if account.refreshHash = some expected then
          (.ok true, store.modifyAccount id fun account =>
            { account with refreshHash := some new, lastRefresh := some now })
        else (.ok false, store) := rfl

theorem respond_updateStatus {change : StatusChange} :
    store.respond (.updateStatus id change) =
      match store.account? id with
      | none => (.error (.noAccount id), store)
      | some account =>
        (.ok { account with
            banned := change.banned.getD account.banned
            locked := change.locked.getD account.locked },
          store.modifyAccount id fun account =>
            { account with
              banned := change.banned.getD account.banned
              locked := change.locked.getD account.locked }) := rfl

theorem respond_updateRole {role : Role} :
    store.respond (.updateRole id role) =
      match store.account? id with
      | none => (.error (.noAccount id), store)
      | some account =>
        (.ok { account with role := role },
          store.modifyAccount id fun account => { account with role := role }) := rfl

theorem respond_insertToken {record : PersonalToken} :
    store.respond (.insertToken record) =
      if (store.activeToken? record.owner record.name).isSome then
        (.error (.tokenNameTaken record.name), store)
      else (.ok (), { store with
        tokens := store.tokens.filter (·.id ≠ record.id) ++ [record] }) := rfl

end Store

namespace Program

/-- The result of a program on a store that answers, and the store that it leaves. -/
def exec : Program α → Store → α × Store
  | done result, store => (result, store)
  | call op _ next, store => (next (store.respond op).1).exec (store.respond op).2

theorem bind_assoc {γ : Type} (program : Program α) (f : α → Program β) (g : β → Program γ) :
    (program.bind f).bind g = program.bind fun a => (f a).bind g := by
  induction program with
  | done result => rfl
  | call op bounded next ih => exact congrArg _ (funext ih)

/-- Nothing needs to follow a program. -/
theorem bind_done (program : Program α) : program.bind done = program := by
  induction program with
  | done result => rfl
  | call op bounded next ih => exact congrArg _ (funext ih)

theorem answer_healthy (store : Store) (op : StoreCall) (bounded : Bool) :
    answer .healthy store op bounded = some (store.respond op) := by
  -- A backend that is healthy on both sides is so on the side of the operation.
  have truthful : Backend.healthy.health op = .truthful := by
    unfold Backend.health
    cases op.side <;> rfl
  unfold answer
  rw [truthful]

/-- A program ends on every store of which both halves answer. -/
theorem run_healthy (program : Program α) (store : Store) :
    program.run .healthy store = some (program.exec store) := by
  -- The store is generalized, since each answer leaves another one for what follows.
  induction program generalizing store with
  | done result => rfl
  | call op bounded next ih =>
    rw [run, answer_healthy]
    exact ih _ _

theorem exec_bind (program : Program α) (f : α → Program β) (store : Store) :
    (program >>= f).exec store = (f (program.exec store).1).exec (program.exec store).2 := by
  -- Both sides walk down the same operations of the first program.
  change (program.bind f).exec store = _
  induction program generalizing store with
  | done result => rfl
  | call op bounded next ih => exact ih _ _

end Program

namespace Action

/-! ## Sequences of actions -/

@[simp] theorem throw_bind (e : AuthError) (f : α → Action β) :
    (throw e : Action α) >>= f = throw e := rfl

@[simp] theorem ofExcept_ok (a : α) : ofExcept (.ok a) = (pure a : Action α) := rfl

@[simp] theorem ofExcept_error (e : AuthError) : ofExcept (.error e) = (throw e : Action α) := rfl

@[simp] theorem lift_ok (toError : ε → AuthError) (a : α) :
    lift toError (.ok a) = (pure a : Action α) := rfl

@[simp] theorem lift_error (toError : ε → AuthError) (e : ε) :
    lift toError (.error e) = (throw (toError e) : Action α) := rfl

@[simp] theorem pure_bind (a : α) (f : α → Action β) : (pure a : Action α) >>= f = f a := rfl

theorem bind_assoc {γ : Type} (action : Action α) (f : α → Action β) (g : β → Action γ) :
    action >>= f >>= g = action >>= fun a => f a >>= g := by
  refine (Program.bind_assoc action.run _ _).trans (congrArg (Program.bind action.run) ?_)
  funext result
  cases result <;> rfl

/-- The result of an action on a store that answers, and the store that it leaves. -/
def exec (action : Action α) (store : Store) : Except AuthError α × Store :=
  Program.exec action.run store

variable {store : Store}

@[simp] theorem exec_pure (a : α) : (pure a : Action α).exec store = (.ok a, store) := rfl

@[simp] theorem exec_throw (e : AuthError) :
    (throw e : Action α).exec store = (.error e, store) := rfl

/-- A sequence of actions goes on where the first one succeeds, on the store that it leaves. -/
theorem exec_bind (action : Action α) (f : α → Action β) :
    (action >>= f).exec store =
      match action.exec store with
      | (.ok a, after) => (f a).exec after
      | (.error e, after) => (.error e, after) := by
  change Program.exec (Program.bind action.run (ExceptT.bindCont f)) store = _
  have h := Program.exec_bind action.run (ExceptT.bindCont f) store
  apply h.trans
  unfold exec
  cases Program.exec action.run store with
  | mk result after =>
    cases result with
    | ok a => rfl
    | error e => rfl

@[simp] theorem exec_ask (op : StoreCall) : (ask op).exec store = store.respond op := rfl

@[simp] theorem exec_askBounded (op : StoreCall) :
    (askBounded op).exec store = store.respond op := rfl

@[simp] theorem exec_ofExcept (result : Except AuthError α) :
    (ofExcept result).exec store = (result, store) := by
  cases result <;> rfl

@[simp] theorem exec_lift (toError : ε → AuthError) (result : Except ε α) :
    (lift toError result).exec store = (result.mapError toError, store) := by
  cases result <;> rfl

/-! ## What a success says

Each part of a sequence that succeeds has succeeded, on the store that was left before it. -/

section Succeeds

variable {after : Store} {b : β}

theorem of_exec_bind {action : Action α} {f : α → Action β}
    (h : (action >>= f).exec store = (.ok b, after)) :
    ∃ a between, action.exec store = (.ok a, between) ∧ (f a).exec between = (.ok b, after) := by
  rw [exec_bind] at h
  split at h
  · next a between haction => exact ⟨a, between, haction, h⟩
  · cases h

theorem of_exec_ask_bind {op : StoreCall} {f : op.Answer → Action β}
    (h : (ask op >>= f).exec store = (.ok b, after)) :
    ∃ answer, (store.respond op).1 = .ok answer ∧
      (f answer).exec (store.respond op).2 = (.ok b, after) := by
  obtain ⟨answer, between, hanswer, hrest⟩ := of_exec_bind h
  rw [exec_ask] at hanswer
  rw [hanswer]
  exact ⟨answer, rfl, hrest⟩

theorem of_exec_ofExcept_bind {result : Except AuthError α} {f : α → Action β}
    (h : (ofExcept result >>= f).exec store = (.ok b, after)) :
    ∃ a, result = .ok a ∧ (f a).exec store = (.ok b, after) := by
  cases result with
  | ok a => exact ⟨a, rfl, h⟩
  | error e => cases h

theorem of_exec_lift_bind {toError : ε → AuthError} {result : Except ε α} {f : α → Action β}
    (h : (lift toError result >>= f).exec store = (.ok b, after)) :
    ∃ a, result = .ok a ∧ (f a).exec store = (.ok b, after) := by
  cases result with
  | ok a => exact ⟨a, rfl, h⟩
  | error fault => cases h

theorem of_exec_ite_throw {p : Prop} [Decidable p] {e : AuthError} {action : Action β}
    (h : (if p then throw e else action).exec store = (.ok b, after)) :
    ¬p ∧ action.exec store = (.ok b, after) := by
  split at h
  · cases h
  · next hp => exact ⟨hp, h⟩

end Succeeds

/-! ## What a sequence leaves

Each part of a sequence either fails, and then what holds of the store holds on, or succeeds
and hands on its result. -/

/-- A last step that asks for nothing leaves the store as it is. -/
theorem exec_bind_ofExcept_snd (action : Action α) (f : α → Except AuthError β) :
    ((action >>= fun a => ofExcept (f a)).exec store).2 = (action.exec store).2 := by
  rw [exec_bind]
  cases h : action.exec store with
  | mk result after =>
    cases result with
    | ok a => exact congrArg Prod.snd (exec_ofExcept (f a))
    | error e => rfl

theorem exec_bind_pure_snd (action : Action α) (f : α → β) :
    ((action >>= fun a => pure (f a)).exec store).2 = (action.exec store).2 :=
  exec_bind_ofExcept_snd action fun a => .ok (f a)

section Leaves

variable {leaves : Store → Prop}

theorem leaves_ask_bind {op : StoreCall} {f : op.Answer → Action β} (here : leaves store)
    (next : ∀ answer, (store.respond op).1 = .ok answer →
      leaves ((f answer).exec (store.respond op).2).2) :
    leaves ((ask op >>= f).exec store).2 := by
  rw [exec_bind, exec_ask]
  cases h : store.respond op with
  | mk result after =>
    rw [h] at next
    cases result with
    | ok answer => exact next answer rfl
    | error e =>
      have hsame : after = store := by
        rw [← Store.respond_eq_self (congrArg Prod.fst h), h]
      rw [hsame]
      exact here

/-- A first part that only reads hands on its result and the store. -/
theorem leaves_bind {action : Action α} {f : α → Action β}
    (reads : (action.exec store).2 = store) (here : leaves store)
    (next : ∀ a, (action.exec store).1 = .ok a → leaves ((f a).exec store).2) :
    leaves ((action >>= f).exec store).2 := by
  rw [exec_bind]
  cases h : action.exec store with
  | mk result after =>
    rw [h] at reads next
    obtain rfl : after = store := reads
    cases result with
    | ok a => exact next a rfl
    | error e => exact here

theorem leaves_ofExcept_bind {result : Except AuthError α} {f : α → Action β}
    (here : leaves store) (next : ∀ a, result = .ok a → leaves ((f a).exec store).2) :
    leaves ((ofExcept result >>= f).exec store).2 := by
  cases result with
  | ok a => exact next a rfl
  | error e => exact here

theorem leaves_lift_bind {toError : ε → AuthError} {result : Except ε α} {f : α → Action β}
    (here : leaves store) (next : ∀ a, result = .ok a → leaves ((f a).exec store).2) :
    leaves ((lift toError result >>= f).exec store).2 := by
  cases result with
  | ok a => exact next a rfl
  | error e => exact here

end Leaves

end Action

end SessionAuth
