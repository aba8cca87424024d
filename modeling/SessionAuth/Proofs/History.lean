import SessionAuth.Proofs.Interleaving
import SessionAuth.Proofs.Outage
import SessionAuth.Proofs.Store.Uniqueness

/-!
# What a program has been answered

A program knows of the store what it was answered. So whatever can be said of its result without
knowing the store can be said of its result and its history: the operations that it asked for, in
their order, each with its answer. Such a statement is found by walking through the program once,
with nothing assumed of the answers, and then it holds however the operations of others fall
between its own.

In a run the store at any moment is the one that all operations before it lead to, and each answer
is what the store of its moment responds.

## Main definitions

* `Program.Yields`, `Action.Yields` — the result suits the history
* `doneBy` — the history of one program in the log of a run

## Main results

* `Pool.Run.follows`, `Pool.Run.yields` — what is said of a program holds in every run
* `Pool.Run.store_eq`, `Pool.Run.answered` — the store at a moment, and what it responds
* `exists_of_doneBy` — what a program was answered is an event of the run
-/

namespace SessionAuth

variable {α β ε ι : Type} {past : List Answered}

/-! ## Programs -/

/-- Whatever it is answered from now on, a program that has some history ends with a result that
suits its whole history. -/
def Program.Yields (post : List Answered → α → Prop) : Program α → List Answered → Prop
  | .done result, past => post past result
  | .call op _ next, past => ∀ answer, (next answer).Yields post (past ++ [⟨op, answer⟩])

namespace Program

variable {program : Program α} {f : α → Program β} {mid other : List Answered → α → Prop}
  {post : List Answered → β → Prop}

theorem Yields.bind (yields : program.Yields mid past)
    (rest : ∀ past a, mid past a → (f a).Yields post past) : (program.bind f).Yields post past := by
  induction program generalizing past with
  | done result => exact rest past result yields
  | call op bounded next ih => exact fun answer => ih answer (yields answer)

theorem Yields.mono (yields : program.Yields mid past)
    (weaker : ∀ past a, mid past a → other past a) : program.Yields other past := by
  induction program generalizing past with
  | done result => exact weaker past result yields
  | call op bounded next ih => exact fun answer => ih answer (yields answer)

/-- What is said of a program holds when it is performed alone. -/
theorem Yields.of_exec (yields : program.Yields mid past) (store : Store) :
    mid (past ++ program.history store) (program.exec store).1 := by
  induction program generalizing past store with
  | done result =>
    rw [history, List.append_nil]
    exact yields
  | call op bounded next ih =>
    rw [history, List.append_cons]
    exact ih _ (yields _) _

theorem yields_of_forall (suits : ∀ past a, mid past a) (program : Program α)
    (past : List Answered) : program.Yields mid past := by
  induction program generalizing past with
  | done result => exact suits past result
  | call op bounded next ih => exact fun answer => ih answer _

/-- A program only adds to its history. -/
theorem yields_extends (program : Program α) (past : List Answered) :
    program.Yields (fun later _ => past <+: later) past := by
  -- The history grows with every answer, so it is compared to what it was at first.
  have further (program : Program α) (later : List Answered) (extends_ : past <+: later) :
      program.Yields (fun later _ => past <+: later) later := by
    induction program generalizing later with
    | done result => exact extends_
    | call op bounded next ih =>
      exact fun answer => ih answer _ (extends_.trans (List.prefix_append _ _))
  exact further program past (List.prefix_refl past)

end Program

/-! ## Actions -/

namespace Action

/-- Whatever it is answered, an action that succeeds does so with a result that suits its
history. -/
def Yields (post : List Answered → α → Prop) (action : Action α) (past : List Answered) : Prop :=
  Program.Yields (fun past result => ∀ a, result = .ok a → post past a) action.run past

variable {action : Action α} {f : α → Action β} {mid : List Answered → α → Prop}
  {post : List Answered → β → Prop}

theorem yields_pure {b : β} (suits : post past b) : Yields post (pure b) past := by
  rintro _ ⟨⟩
  exact suits

theorem yields_throw {e : AuthError} : Yields post (throw e) past := nofun

/-- An action goes on where the one before it succeeded. -/
theorem Yields.bind (yields : action.Yields mid past)
    (rest : ∀ past a, mid past a → (f a).Yields post past) : (action >>= f).Yields post past := by
  refine Program.Yields.bind yields fun past result suits => ?_
  cases result with
  | error e => exact yields_throw
  | ok a => exact rest past a (suits a rfl)

theorem yields_of_forall (suits : ∀ past b, post past b) (action : Action β)
    (past : List Answered) : action.Yields post past :=
  Program.yields_of_forall (fun past _ b _ => suits past b) action.run past

/-- What an action was answered before it is not forgotten. -/
theorem yields_extends (action : Action α) (past : List Answered) :
    action.Yields (fun later _ => past <+: later) past :=
  (Program.yields_extends action.run past).mono fun _ _ extends_ _ _ => extends_

theorem yields_ask_bind {op : StoreCall} {f : op.Answer → Action β}
    (rest : ∀ answer, (f answer).Yields post (past ++ [⟨op, .ok answer⟩])) :
    (ask op >>= f).Yields post past := by
  intro answer
  cases answer with
  | error e => exact yields_throw
  | ok answer => exact rest answer

theorem yields_askBounded_bind {op : StoreCall} {f : op.Answer → Action β}
    (rest : ∀ answer, (f answer).Yields post (past ++ [⟨op, .ok answer⟩])) :
    (askBounded op >>= f).Yields post past := by
  intro answer
  cases answer with
  | error e => exact yields_throw
  | ok answer => exact rest answer

theorem yields_ofExcept {result : Except AuthError β}
    (suits : ∀ b, result = .ok b → post past b) : (ofExcept result).Yields post past := by
  cases result with
  | error e => exact yields_throw
  | ok b => exact yields_pure (suits b rfl)

theorem yields_ofExcept_bind {result : Except AuthError α}
    (rest : ∀ a, result = .ok a → (f a).Yields post past) :
    (ofExcept result >>= f).Yields post past := by
  cases result with
  | error e => exact yields_throw
  | ok a => exact rest a rfl

theorem yields_lift_bind {toError : ε → AuthError} {result : Except ε α}
    (rest : ∀ a, result = .ok a → (f a).Yields post past) :
    (lift toError result >>= f).Yields post past := by
  cases result with
  | error e => exact yields_throw
  | ok a => exact rest a rfl

end Action

/-! ## Runs -/

section Runs

variable [DecidableEq ι]

/-- What one program has asked for in the course of a log, with the answers. -/
def doneBy (i : ι) (log : List (Event ι)) : List Answered :=
  log.filterMap fun event => if event.actor = some i then some event.did else none

variable {others : StoreCall → Prop} {start pool : Pool ι α} {log : List (Event ι)} {i : ι}

/-- Where every event is of one program, that is its history. -/
theorem doneBy_map (i : ι) (past : List Answered) :
    doneBy i (past.map (Event.mk (some i))) = past := by
  simp [doneBy]

theorem doneBy_concat (event : Event ι) : doneBy i (log ++ [event]) =
    doneBy i log ++ if event.actor = some i then [event.did] else [] := by
  unfold doneBy
  rw [List.filterMap_append]
  by_cases own : event.actor = some i <;> simp [own]

/-- What a program was answered is an event of the log, with what it was answered before in front
of it and what it was answered since behind it. -/
theorem exists_of_doneBy {before behind : List Answered} {did : Answered}
    (h : doneBy i log = before ++ did :: behind) :
    ∃ front event back, log = front ++ event :: back ∧ event.actor = some i ∧ event.did = did ∧
      doneBy i front = before ∧ doneBy i back = behind := by
  -- The log is cut where the history is, and then at the first event of the program from there on.
  obtain ⟨front, rest, rfl, hfront, hrest⟩ := List.filterMap_eq_append_iff.mp h
  obtain ⟨skipped, event, back, rfl, hskipped, hevent, hback⟩ :=
    List.filterMap_eq_cons_iff.mp hrest
  have own : event.actor = some i := by
    by_contra hother
    rw [if_neg hother] at hevent
    cases hevent
  rw [if_pos own] at hevent
  refine ⟨front ++ skipped, event, back, by simp, own, Option.some.inj hevent, ?_, hback⟩
  rw [doneBy, List.filterMap_append, hfront, List.filterMap_eq_nil_iff.mpr hskipped,
    List.append_nil]

theorem exists_of_mem_doneBy {did : Answered} (mem : did ∈ doneBy i log) :
    ∃ front event back, log = front ++ event :: back ∧ event.actor = some i ∧ event.did = did := by
  obtain ⟨before, behind, history⟩ := List.append_of_mem mem
  obtain ⟨front, event, back, split, actor, same, -, -⟩ := exists_of_doneBy history
  exact ⟨front, event, back, split, actor, same⟩

/-- What each answer hands on to the rest of a program holds of what is left of the program and of
its history in every run. -/
theorem Pool.Run.follows (holds : Program α → List Answered → Prop)
    (handsOn : ∀ op bounded next past, holds (.call op bounded next) past →
      ∀ answer, holds (next answer) (past ++ [⟨op, answer⟩]))
    (run : Run others start log pool) (initial : holds (start.thread i) []) :
    holds (pool.thread i) (doneBy i log) := by
  induction run with
  | refl => exact initial
  | tail _ step ih =>
    rw [doneBy_concat]
    cases step with
    | @own j op bounded next turn =>
      by_cases hi : j = i
      · subst hi
        rw [turn] at ih
        dsimp only
        rw [if_pos rfl, Function.update_self]
        exact handsOn _ _ _ _ ih _
      -- An operation of another program leaves this one and its history.
      · have hother : ¬some j = some i := fun h => hi (Option.some.inj h)
        dsimp only
        rw [if_neg hother, List.append_nil, Function.update_of_ne (Ne.symm hi)]
        exact ih
    | other =>
      rw [if_neg nofun, List.append_nil]
      exact ih

/-- What is said of a program holds in every run, of what is left of it and its history. -/
theorem Pool.Run.yields {post : List Answered → α → Prop} (run : Run others start log pool)
    (yields : (start.thread i).Yields post []) : (pool.thread i).Yields post (doneBy i log) :=
  run.follows (·.Yields post ·) (fun _ _ _ _ yields => yields) yields

theorem Pool.Run.suits {post : List Answered → α → Prop} {result : α}
    (run : Run others start log pool) (yields : (start.thread i).Yields post [])
    (ended : pool.thread i = .done result) : post (doneBy i log) result := by
  have h := run.yields yields
  rwa [ended] at h

theorem Store.performAll_append (store : Store) (ops more : List StoreCall) :
    store.performAll (ops ++ more) = (store.performAll ops).performAll more := by
  induction ops generalizing store with
  | nil => rfl
  | cons op ops ih => exact ih _

/-- The store of a run is the one that the operations of its log lead to. -/
theorem Pool.Run.store_eq (run : Run others start log pool) :
    pool.store = start.store.performAll (log.map (·.did.op)) := by
  induction run with
  | refl => rfl
  | tail _ step ih =>
    rw [List.map_append, Store.performAll_append, ← ih]
    exact step.respond.2

/-- What is answered in a run is what the store of that moment responds. -/
theorem Pool.Run.answered {front back : List (Event ι)} {event : Event ι}
    (run : Run others start (front ++ event :: back) pool) :
    event.did = ⟨event.did.op,
      ((start.store.performAll (front.map (·.did.op))).respond event.did.op).1⟩ := by
  obtain ⟨before, behind, hbefore, hstep, -⟩ := run.exists_split
  rw [← hbefore.store_eq]
  exact hstep.respond.1

end Runs

end SessionAuth
