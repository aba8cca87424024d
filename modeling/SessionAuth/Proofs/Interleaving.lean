import Mathlib.Logic.Function.Basic
import SessionAuth.Proofs.Execution

/-!
# Programs that take turns

Several programs work on one store. Each single operation is atomic, and between two
operations of a program any number of operations of the others may be performed, in any
order. A run keeps a log of what was performed and answered, so that what holds of a run can
be said of the order of its events.

Operations of programs that are not watched may occur in between as well, as far as a
condition allows them.

## Main definitions

* `Answered`, `Event` — an operation with its answer, and whose it was
* `Program.history` — what a program asks for when it is performed alone
* `Pool` — a store and the programs at work on it
* `Pool.Step`, `Pool.Run` — one operation, and any number of them
* `Pool.turn` — the pool behind the next operation of one program
* `Pool.performed` — the pool behind all operations of one program

## Main results

* `Pool.Run.invariant` — what every step keeps holds after every run
* `Pool.Run.exists_split` — a run passes through the state before each of its events
* `Pool.Run.done_of_done` — a program that has ended stays as it is
* `Pool.run_of_bind`, `Pool.exists_run_of_exec` — a program, or the first part of one, may be
  performed without interruption
* `Pool.exists_run_turns` — programs may take turns in any order
-/

namespace SessionAuth

/-- An operation and what was answered to it. -/
structure Answered where
  op : StoreCall
  answer : Except AuthError op.Answer

/-- What a program asks for when it is performed alone, with the answers. -/
def Program.history {α : Type} : Program α → Store → List Answered
  | done _, _ => []
  | call op _ next, store =>
    ⟨op, (store.respond op).1⟩ :: (next (store.respond op).1).history (store.respond op).2

/-- An operation that was performed, for one of the watched programs or for someone else. -/
structure Event (ι : Type) where
  actor : Option ι
  did : Answered

/-- A store and the programs at work on it, each as far as it still has to go. -/
structure Pool (ι α : Type) where
  store : Store
  thread : ι → Program α

namespace Pool

variable {ι α : Type} [DecidableEq ι] {others : StoreCall → Prop}

/-- One operation is performed: the next one of some program, or one that others ask for. -/
inductive Step (others : StoreCall → Prop) : Pool ι α → Event ι → Pool ι α → Prop
  | own {pool : Pool ι α} {i : ι} {op : StoreCall} {bounded : Bool}
      {next : Except AuthError op.Answer → Program α}
      (turn : pool.thread i = .call op bounded next) :
      Step others pool ⟨some i, op, (pool.store.respond op).1⟩
        ⟨(pool.store.respond op).2,
          Function.update pool.thread i (next (pool.store.respond op).1)⟩
  | other {pool : Pool ι α} {op : StoreCall} (allowed : others op) :
      Step others pool ⟨none, op, (pool.store.respond op).1⟩
        ⟨(pool.store.respond op).2, pool.thread⟩

/-- Any number of operations are performed, one behind the other. -/
inductive Run (others : StoreCall → Prop) (start : Pool ι α) : List (Event ι) → Pool ι α → Prop
  | refl : Run others start [] start
  | tail {log : List (Event ι)} {pool after : Pool ι α} {event : Event ι}
      (run : Run others start log pool) (step : Step others pool event after) :
      Run others start (log ++ [event]) after

variable {start pool after : Pool ι α} {log : List (Event ι)} {event : Event ι} {i : ι}

namespace Run

/-- What every step keeps holds after every run. -/
theorem invariant (holds : Pool ι α → Prop) (initial : holds start)
    (kept : ∀ pool event after, holds pool → Step others pool event after → holds after)
    (run : Run others start log pool) : holds pool := by
  induction run with
  | refl => exact initial
  | tail _ step ih => exact kept _ _ _ ih step

/-- A run passes through the state in which an event of its log occurs, and through the state
behind it. -/
theorem exists_split {front back : List (Event ι)}
    (run : Run others start (front ++ event :: back) after) :
    ∃ before behind, Run others start front before ∧ Step others before event behind ∧
      Run others behind back after := by
  -- The log of a run ends with its last step, so the event is that step or lies before it.
  generalize hlog : front ++ event :: back = log at run
  induction run generalizing back with
  | refl => simp at hlog
  | @tail log pool after last run step ih =>
    -- Nothing stands behind the event exactly if it is the last one.
    rcases List.eq_nil_or_concat back with rfl | ⟨back, other, rfl⟩
    · obtain ⟨rfl, hlast⟩ := List.append_inj' hlog rfl
      cases hlast
      exact ⟨pool, after, run, step, .refl⟩
    · rw [List.concat_eq_append, ← List.cons_append, ← List.append_assoc] at hlog
      obtain ⟨hfront, hlast⟩ := List.append_inj' hlog rfl
      cases hlast
      obtain ⟨before, behind, hbefore, hstep, hbehind⟩ := ih hfront
      exact ⟨before, behind, hbefore, hstep, List.concat_eq_append ▸ hbehind.tail step⟩

end Run

/-- Whoever's operation it is, the store responds to it. -/
theorem Step.respond (step : Step others pool event after) :
    event.did = ⟨event.did.op, (pool.store.respond event.did.op).1⟩ ∧
      after.store = (pool.store.respond event.did.op).2 := by
  cases step <;> exact ⟨rfl, rfl⟩

/-- Where nobody else may ask for an operation, it is one of a program. -/
theorem Run.exists_actor {front back : List (Event ι)}
    (run : Run others start (front ++ event :: back) pool) (refused : ¬others event.did.op) :
    ∃ i, event.actor = some i := by
  obtain ⟨_, _, -, step, -⟩ := run.exists_split
  cases step with
  | own => exact ⟨_, rfl⟩
  | other allowed => exact absurd allowed refused

/-- A program that has ended is not changed by what the others do. -/
theorem Step.done_of_done {result : α} (step : Step others pool event after)
    (ended : pool.thread i = .done result) : after.thread i = .done result := by
  cases step with
  | @own j op bounded next turn =>
    -- A program that has ended has no operation left to perform.
    have hne : i ≠ j := by
      rintro rfl
      rw [ended] at turn
      cases turn
    exact (Function.update_of_ne hne _ _).trans ended
  | other => exact ended

theorem Run.done_of_done {result : α} (run : Run others start log pool)
    (ended : start.thread i = .done result) : pool.thread i = .done result :=
  run.invariant (·.thread i = .done result) ended fun _ _ _ hended step => step.done_of_done hended

/-- A program of which an operation is performed had not ended before. -/
theorem Run.not_done_of_mem (run : Run others start log pool) (mem : event ∈ log)
    (own : event.actor = some i) (result : α) : start.thread i ≠ .done result := by
  intro ended
  obtain ⟨front, back, rfl⟩ := List.append_of_mem mem
  obtain ⟨before, behind, hbefore, hstep, -⟩ := run.exists_split
  have hended := hbefore.done_of_done ended
  cases hstep with
  | own turn =>
    cases own
    rw [hended] at turn
    cases turn
  | other => cases own

/-- A run may go on where another one has led. -/
theorem Run.trans {between : Pool ι α} {more : List (Event ι)}
    (run : Run others start log between) (further : Run others between more pool) :
    Run others start (log ++ more) pool := by
  induction further with
  | refl =>
    rw [List.append_nil]
    exact run
  | tail _ last ih =>
    rw [← List.append_assoc]
    exact ih.tail last

/-- The next operation of a program may be performed, and the other programs stay as they are. -/
theorem exists_step (others : StoreCall → Prop) {op : StoreCall} {bounded : Bool}
    {next : Except AuthError op.Answer → Program α} (turn : pool.thread i = .call op bounded next) :
    ∃ after, Step others pool ⟨some i, op, (pool.store.respond op).1⟩ after ∧
      after.store = (pool.store.respond op).2 ∧
      after.thread i = next (pool.store.respond op).1 ∧
      ∀ j, j ≠ i → after.thread j = pool.thread j :=
  ⟨_, .own turn, rfl, Function.update_self _ _ _, fun _ other => Function.update_of_ne other _ _⟩

/-- The first part of a program may be performed without interruption, and then the rest of it lies
ahead. -/
theorem run_of_bind {β : Type} (others : StoreCall → Prop) {program : Program β}
    {rest : β → Program α} (turn : pool.thread i = program.bind rest) :
    Run others pool ((program.history pool.store).map (Event.mk (some i)))
      ⟨(program.exec pool.store).2,
        Function.update pool.thread i (rest (program.exec pool.store).1)⟩ := by
  induction program generalizing pool with
  | done last =>
    have same : rest last = pool.thread i := turn.symm
    rw [Program.exec, same, Function.update_eq_self]
    exact .refl
  | call op bounded next ih =>
    have step : Step others pool _ _ := .own turn
    have run := @ih (pool.store.respond op).1 ⟨(pool.store.respond op).2,
      Function.update pool.thread i ((next (pool.store.respond op).1).bind rest)⟩
      (Function.update_self _ _ _)
    -- Each further operation replaces what was left of the program before it.
    rw [Function.update_idem] at run
    exact (Run.refl.tail step).trans run

/-- A program may be performed to its end without interruption, by operations of its own. -/
theorem exists_run_of_exec (others : StoreCall → Prop) {result : α} {store : Store}
    (ends : (pool.thread i).exec pool.store = (result, store)) :
    ∃ log, Run others pool log ⟨store, Function.update pool.thread i (.done result)⟩ ∧
      ∀ event ∈ log, event.actor = some i := by
  have run := run_of_bind others (pool.thread i).bind_done.symm
  rw [ends] at run
  exact ⟨_, run, by simp⟩

/-- The pool that is left when the next operation of a program, if there is one, has been
performed. -/
def turn (pool : Pool ι α) (i : ι) : Pool ι α :=
  match pool.thread i with
  | .done _ => pool
  | .call op _ next => ⟨(pool.store.respond op).2,
      Function.update pool.thread i (next (pool.store.respond op).1)⟩

/-- Programs may take turns in any order. -/
theorem exists_run_turns (others : StoreCall → Prop) (pool : Pool ι α) (order : List ι) :
    ∃ log, Run others pool log (order.foldl turn pool) := by
  induction order generalizing pool with
  | nil => exact ⟨[], .refl⟩
  | cons i order ih =>
    have first : ∃ log, Run others pool log (pool.turn i) := by
      unfold turn
      split
      · exact ⟨[], .refl⟩
      · next own => exact ⟨_, Run.refl.tail (.own own)⟩
    obtain ⟨log, run⟩ := first
    obtain ⟨more, further⟩ := ih (pool.turn i)
    exact ⟨log ++ more, run.trans further⟩

/-- The pool that is left when one program has been performed to its end. -/
def performed (pool : Pool ι α) (i : ι) : Pool ι α :=
  ⟨((pool.thread i).exec pool.store).2,
    Function.update pool.thread i (.done ((pool.thread i).exec pool.store).1)⟩

theorem exists_run_performed (others : StoreCall → Prop) (pool : Pool ι α) (i : ι) :
    ∃ log, Run others pool log (pool.performed i) :=
  (exists_run_of_exec others rfl).imp fun _ => And.left

end Pool

end SessionAuth
