import SessionAuth.Proofs.Outcome

/-!
# Two runs side by side

Two actions are run on two stores, of which the halves answer alike: both are healthy, or both
refuse, or both are silent. The two runs are compared as they end. Either both succeed, with
results and stores of which a condition holds, or both fail with the same error on stores that
agree, or neither ends. What agreement is does not matter here, but for the operations that are
asked for: a failure of the store leaves both stores as they were, and so in agreement.

## Main definitions

* `Store.RespondAlike` — two stores respond alike to an operation
* `Action.Ending` — how two runs may end
* `Action.Alike` — two actions end so on two stores, whatever these are like

## Main results

* `Action.alike_call` — an operation is answered alike if it is responded to alike
* `Action.Alike.bind` — actions that are alike may follow one another
* `Action.Uses.alike` — an action goes on alike if what it asks for is responded to alike
-/

namespace SessionAuth

variable {α β γ δ ε : Type}

/-! ## Results that are related -/

section Results

variable {r : α → β → Prop} {s : γ → δ → Prop} {left : Option α} {right : Option β}

theorem rel_mono {r' : α → β → Prop} (related : Option.Rel r left right)
    (weaker : ∀ a b, r a b → r' a b) : Option.Rel r' left right := by
  cases related with
  | none => exact .none
  | some related => exact .some (weaker _ _ related)

theorem rel_bind {f : α → Option γ} {g : β → Option δ} (related : Option.Rel r left right)
    (next : ∀ a b, r a b → Option.Rel s (f a) (g b)) :
    Option.Rel s (left.bind f) (right.bind g) := by
  cases related with
  | none => exact .none
  | some related => exact next _ _ related

theorem rel_map {f : α → γ} {g : β → δ} (related : Option.Rel r left right)
    (image : ∀ a b, r a b → s (f a) (g b)) : Option.Rel s (left.map f) (right.map g) := by
  cases related with
  | none => exact .none
  | some related => exact .some (image _ _ related)

end Results

/-! ## Runs -/

/-- Two stores have the same answer to an operation, and it leaves stores that agree. -/
structure Store.RespondAlike (agree : Store → Store → Prop) (store other : Store)
    (op : StoreCall) : Prop where
  answers : (other.respond op).1 = (store.respond op).1
  stores : agree (store.respond op).2 (other.respond op).2

theorem Store.RespondAlike.of_respond {agree : Store → Store → Prop}
    {store other after after' : Store} {op : StoreCall} {answer : Except AuthError op.Answer}
    (left : store.respond op = (answer, after)) (right : other.respond op = (answer, after'))
    (stores : agree after after') : RespondAlike agree store other op :=
  ⟨by rw [left, right], by rwa [left, right]⟩

/-- How two runs may end: both with a success, and with results and stores of which a condition
holds, or both with the same error, on stores that agree. -/
inductive Action.Ending (agree : Store → Store → Prop) (post : α → Store → β → Store → Prop) :
    Except AuthError α × Store → Except AuthError β × Store → Prop
  | ok {a : α} {b : β} {store other : Store} (holds : post a store b other) :
      Ending agree post (.ok a, store) (.ok b, other)
  | error {e : AuthError} {store other : Store} (stores : agree store other) :
      Ending agree post (.error e, store) (.error e, other)

/-- Two actions come to the same kind of end, each on its store, whatever the stores are like. -/
def Action.Alike (agree : Store → Store → Prop) (post : α → Store → β → Store → Prop)
    (action : Action α) (store : Store) (action' : Action β) (other : Store) : Prop :=
  ∀ backend : Backend,
    Option.Rel (Ending agree post) (action.run.run backend store) (action'.run.run backend other)

variable {agree : Store → Store → Prop} {store other : Store}

/-- A program that asks only for what is responded to alike goes on alike. -/
theorem Program.Uses.rel_run {allowed : StoreCall → Prop} {program : Program α}
    (uses : Uses allowed program)
    (responds : ∀ {store other}, agree store other → ∀ op, allowed op →
      Store.RespondAlike agree store other op)
    (stores : agree store other) (backend : Backend) :
    Option.Rel (fun left right => right.1 = left.1 ∧ agree left.2 right.2)
      (program.run backend store) (program.run backend other) := by
  -- The stores are generalized, since each operation leaves others for what follows.
  induction uses generalizing store other with
  | done result => exact .some ⟨rfl, stores⟩
  | @call op bounded next permitted goesOn ih =>
    rw [run, run, answer, answer]
    cases backend.health op with
    | truthful =>
      obtain ⟨answers, after⟩ := responds stores op permitted
      simp only [answers]
      exact ih _ after
    | refusing reason => exact ih _ stores
    | silent =>
      cases bounded with
      | true => exact ih _ stores
      | false => exact .none

namespace Action

/-- An action that asks only for what is responded to alike ends with the same result. -/
theorem Uses.alike {allowed : StoreCall → Prop} {action : Action α} (uses : action.Uses allowed)
    (responds : ∀ {store other}, agree store other → ∀ op, allowed op →
      Store.RespondAlike agree store other op)
    (stores : agree store other) :
    Alike agree (fun a store b other => b = a ∧ agree store other) action store action other := by
  intro backend
  refine rel_mono (Program.Uses.rel_run uses responds stores backend) ?_
  rintro ⟨result, after⟩ ⟨result', after'⟩ ⟨same, stores⟩
  obtain rfl : result' = result := same
  cases result' with
  | ok a => exact .ok ⟨rfl, stores⟩
  | error e => exact .error stores

variable {post : γ → Store → δ → Store → Prop}

theorem alike_pure {c : γ} {d : δ} (holds : post c store d other) :
    Alike agree post (pure c : Action γ) store (pure d) other :=
  fun _ => .some (.ok holds)

theorem alike_throw (e : AuthError) (stores : agree store other) :
    Alike agree post (throw e : Action γ) store (throw e) other :=
  fun _ => .some (.error stores)

theorem Alike.mono {stronger : γ → Store → δ → Store → Prop} {action : Action γ}
    {action' : Action δ} (ends : Alike agree stronger action store action' other)
    (weaker : ∀ c after d after', stronger c after d after' → post c after d after') :
    Alike agree post action store action' other := by
  intro backend
  refine rel_mono (ends backend) ?_
  rintro _ _ (holds | stores)
  · exact .ok (weaker _ _ _ _ holds)
  · exact .error stores

/-- Actions that end alike may follow one another. -/
theorem Alike.bind {between : α → Store → β → Store → Prop} {action : Action α}
    {action' : Action β} {f : α → Action γ} {g : β → Action δ}
    (first : Alike agree between action store action' other)
    (next : ∀ a after b after', between a after b after' →
      Alike agree post (f a) after (g b) after') :
    Alike agree post (action >>= f) store (action' >>= g) other := by
  intro backend
  rw [run_bind, run_bind]
  refine rel_bind (first backend) ?_
  rintro _ _ (holds | stores)
  · exact next _ _ _ _ holds backend
  · exact .some (.error stores)

/-- What is known without a store is the same on both. -/
theorem alike_ofExcept_bind {result : Except AuthError α} {f : α → Action γ} {g : α → Action δ}
    (stores : agree store other)
    (next : ∀ a, result = .ok a → Alike agree post (f a) store (g a) other) :
    Alike agree post (ofExcept result >>= f) store (ofExcept result >>= g) other := by
  cases result with
  | ok a => exact next a rfl
  | error e => exact alike_throw e stores

theorem alike_lift_bind {toError : ε → AuthError} {result : Except ε α} {f : α → Action γ}
    {g : α → Action δ} (stores : agree store other)
    (next : ∀ a, result = .ok a → Alike agree post (f a) store (g a) other) :
    Alike agree post (lift toError result >>= f) store (lift toError result >>= g) other := by
  cases result with
  | ok a => exact next a rfl
  | error e => exact alike_throw _ stores

/-- An operation is answered alike if it is responded to alike. -/
theorem alike_call {op : StoreCall} {bounded : Bool}
    {post : op.Answer → Store → op.Answer → Store → Prop} (stores : agree store other)
    (responds : Ending agree post (store.respond op) (other.respond op)) :
    Alike agree post (ExceptT.mk (.call op bounded .done)) store
      (ExceptT.mk (.call op bounded .done)) other := by
  intro backend
  change Option.Rel _ (Program.run backend (.call op bounded .done) store)
    (Program.run backend (.call op bounded .done) other)
  rw [Program.run, Program.run, Program.answer, Program.answer]
  cases backend.health op with
  | truthful => exact .some responds
  | refusing reason => exact .some (.error stores)
  | silent =>
    cases bounded with
    | true => exact .some (.error stores)
    | false => exact .none

/-- Two stores that respond alike hand on the same. -/
theorem alike_ask {op : StoreCall} (stores : agree store other)
    (responds : Store.RespondAlike agree store other op) :
    Alike agree (fun a store b other => b = a ∧ agree store other) (ask op) store (ask op)
      other := by
  refine alike_call stores ?_
  obtain ⟨answers, after⟩ := responds
  generalize store.respond op = left at answers after ⊢
  generalize other.respond op = right at answers after ⊢
  obtain ⟨answer, store⟩ := left
  obtain ⟨answer', other⟩ := right
  obtain rfl : answer' = answer := answers
  cases answer' with
  | ok answer => exact .ok ⟨rfl, after⟩
  | error e => exact .error after

/-- An operation that only reads hands on what it finds in each store. -/
theorem alike_read_bind {op : StoreCall} {bounded : Bool} {found found' : op.Answer}
    {f : op.Answer → Action γ} {g : op.Answer → Action δ} (stores : agree store other)
    (reads : store.respond op = (.ok found, store))
    (reads' : other.respond op = (.ok found', other))
    (next : Alike agree post (f found) store (g found') other) :
    Alike agree post (ExceptT.mk (.call op bounded .done) >>= f) store
      (ExceptT.mk (.call op bounded .done) >>= g) other := by
  have first : Alike agree
      (fun a after b after' => a = found ∧ after = store ∧ b = found' ∧ after' = other)
      (ExceptT.mk (.call op bounded .done)) store
      (ExceptT.mk (.call op bounded .done)) other := by
    refine alike_call stores ?_
    rw [reads, reads']
    exact .ok ⟨rfl, rfl, rfl, rfl⟩
  refine first.bind ?_
  rintro _ _ _ _ ⟨rfl, rfl, rfl, rfl⟩
  exact next

end Action

end SessionAuth
