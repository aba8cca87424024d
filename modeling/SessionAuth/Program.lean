import SessionAuth.Store

/-!
# Programs over a store

What the service does is a program: it asks the store for one operation after another, and
each answer decides how it goes on. Between two operations other programs may have theirs
performed, so what is atomic is the single operation.

A store may fail. Each of its halves answers truthfully, refuses every operation for a
reason, or stays silent. An operation may be bounded by the time that the service is
willing to wait; with a silent half a bounded operation fails, and any other never ends.

## Main definitions

* `Program` — a tree of operations and answers
* `Action` — a program that may fail
* `Backend`, `Program.run` — a program run to its end

## Main results

* `Program.run_bind` — a sequence runs one part after the other
-/

namespace SessionAuth

/-- A program: a result, or an operation and how the program goes on from its answer. -/
inductive Program (α : Type) where
  | done (result : α)
  | call (op : StoreCall) (bounded : Bool) (next : Except AuthError op.Answer → Program α)

namespace Program

/-- A program that goes on with the result of another. -/
def bind {α β : Type} : Program α → (α → Program β) → Program β
  | done result, f => f result
  | call op bounded next, f => call op bounded fun answer => (next answer).bind f

instance : Monad Program where
  pure := done
  bind := bind

end Program

/-- A program that may fail. -/
abbrev Action := ExceptT AuthError Program

namespace Action

/-- Asks for an operation. -/
def ask (op : StoreCall) : Action op.Answer := ExceptT.mk (.call op false .done)

/-- Asks for an operation and waits no longer than the service is willing to. -/
def askBounded (op : StoreCall) : Action op.Answer := ExceptT.mk (.call op true .done)

/-- The result of something that may fail without asking for anything. -/
def ofExcept {α : Type} : Except AuthError α → Action α
  | .ok a => pure a
  | .error e => throw e

/-- The result of something that may fail with faults of its own. -/
def lift {ε α : Type} (toError : ε → AuthError) : Except ε α → Action α
  | .ok a => pure a
  | .error e => throw (toError e)

end Action

/-- How a half of a store answers. -/
inductive Health where
  | truthful
  | refusing (reason : String)
  | silent
  deriving DecidableEq

/-- How the halves of a store answer. -/
structure Backend where
  accounts : Health
  tokens : Health

namespace Backend

/-- A store of which both halves answer. -/
def healthy : Backend := ⟨.truthful, .truthful⟩

/-- How a store answers an operation. -/
def health (backend : Backend) (op : StoreCall) : Health :=
  match op.side with
  | .accounts => backend.accounts
  | .tokens => backend.tokens

end Backend

namespace Program

/-- What is answered to an operation, and the store that it leaves; nothing if no answer
ever comes. -/
def answer (backend : Backend) (store : Store) (op : StoreCall) (bounded : Bool) :
    Option (Except AuthError op.Answer × Store) :=
  match backend.health op with
  | .truthful => some (store.respond op)
  | .refusing reason => some (.error (.storeUnreachable reason), store)
  | .silent => if bounded then some (.error .storeTimedOut, store) else none

/-- The result of a program and the store that it leaves; nothing if it never ends. -/
def run {α : Type} (backend : Backend) : Program α → Store → Option (α × Store)
  | done result, store => some (result, store)
  | call op bounded next, store =>
    match answer backend store op bounded with
    | some (result, store) => run backend (next result) store
    | none => none

theorem run_bind {α β : Type} (backend : Backend) (program : Program α) (f : α → Program β)
    (store : Store) :
    (program.bind f).run backend store =
      (program.run backend store).bind fun (result, store) => (f result).run backend store := by
  induction program generalizing store with
  | done result => rfl
  | call op bounded next ih =>
    simp only [bind, run]
    cases answer backend store op bounded with
    | none => rfl
    | some pair => exact ih pair.1 pair.2

end Program

end SessionAuth
