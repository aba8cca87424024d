import SessionAuth.Proofs.History
import SessionAuth.Proofs.Outcome

/-!
# How far a program has come

What a program was answered tells exactly what is left of it: a program that goes on, or a result.
In a run each program is left with what its own history leads to, whatever was done in between.

A sequence that has come to a result had its first part come to a result before, and the rest of the
answers went to what followed. So the history of a program is taken apart along the program.

## Main definitions

* `Program.Leads` — a history leads from a program to what is left of it
* `Program.Returns` — a history leads from a program to a result

## Main results

* `Program.Returns.of_bind`, `Action.returns_bind` — the parts of a history
* `Program.Uses.of_mem` — a history has the operations that the program asks for
* `Pool.Run.leads`, `Pool.Run.returns` — what is left of a program in a run, and its result
-/

namespace SessionAuth

variable {α β ι : Type} {past : List Answered}

namespace Program

/-- A history leads from a program to what is left of it. -/
inductive Leads : Program α → List Answered → Program α → Prop
  | refl (program : Program α) : Leads program [] program
  | call {op : StoreCall} {bounded : Bool} {next : Except AuthError op.Answer → Program α}
      {answer : Except AuthError op.Answer} {past : List Answered} {left : Program α}
      (leads : Leads (next answer) past left) :
      Leads (.call op bounded next) (⟨op, answer⟩ :: past) left

/-- A history leads from a program to its result. -/
def Returns (program : Program α) (past : List Answered) (result : α) : Prop :=
  program.Leads past (.done result)

variable {program left : Program α} {f : α → Program β} {allowed : StoreCall → Prop}

/-- One more answer leads on. -/
theorem Leads.concat {op : StoreCall} {bounded : Bool}
    {next : Except AuthError op.Answer → Program α}
    (leads : program.Leads past (.call op bounded next)) (answer : Except AuthError op.Answer) :
    program.Leads (past ++ [⟨op, answer⟩]) (next answer) := by
  generalize hleft : Program.call op bounded next = left at leads
  induction leads with
  | refl program =>
    subst hleft
    exact .call (.refl _)
  | call _ ih => exact .call (ih hleft)

theorem Uses.of_mem (uses : Uses allowed program) (leads : program.Leads past left) :
    ∀ did ∈ past, allowed did.op := by
  induction leads with
  | refl => exact List.forall_mem_nil _
  | call _ ih =>
    cases uses with
    | call here rest => exact List.forall_mem_cons.mpr ⟨here, ih (rest _)⟩

/-- The first part of a sequence has returned, and then the rest has. -/
theorem Returns.of_bind {b : β} (returns : (program.bind f).Returns past b) :
    ∃ before behind a, past = before ++ behind ∧ program.Returns before a ∧
      (f a).Returns behind b := by
  induction program generalizing past with
  | done a => exact ⟨[], past, a, rfl, .refl _, returns⟩
  | call op bounded next ih =>
    cases returns with
    | call leads =>
      obtain ⟨before, behind, a, rfl, first, rest⟩ := ih _ leads
      exact ⟨_ :: before, behind, a, rfl, .call first, rest⟩

/-- Where only the result is changed, the history is that of the first part. -/
theorem Returns.of_map {g : α → β} {b : β}
    (returns : (program.bind fun a => .done (g a)).Returns past b) :
    ∃ a, program.Returns past a ∧ b = g a := by
  obtain ⟨before, behind, a, rfl, first, rest⟩ := returns.of_bind
  cases rest
  rw [List.append_nil]
  exact ⟨a, first, rfl⟩

end Program

/-- A sequence of actions has failed in its first part, or that has succeeded. -/
theorem Action.returns_bind {action : Action α} {f : α → Action β} {result : Except AuthError β}
    (returns : (action >>= f).run.Returns past result) :
    (∃ e, action.run.Returns past (.error e) ∧ result = .error e) ∨
    ∃ before behind a, past = before ++ behind ∧ action.run.Returns before (.ok a) ∧
      (f a).run.Returns behind result := by
  obtain ⟨before, behind, first, rfl, returned, rest⟩ := Program.Returns.of_bind returns
  cases first with
  | error e =>
    -- Behind a failure nothing is asked for.
    cases rest
    rw [List.append_nil]
    exact .inl ⟨e, returned, rfl⟩
  | ok a => exact .inr ⟨before, behind, a, rfl, returned, rest⟩

theorem Action.returns_map {action : Action α} {g : α → β} {result : Except AuthError β}
    (returns : (action >>= fun a => pure (g a)).run.Returns past result) :
    ∃ first, action.run.Returns past first ∧ result = first.map g := by
  rcases returns_bind returns with ⟨e, returned, rfl⟩ | ⟨before, behind, a, rfl, returned, rest⟩
  · exact ⟨_, returned, rfl⟩
  · cases rest
    rw [List.append_nil]
    exact ⟨_, returned, rfl⟩

/-- A request is answered by what its action has returned. -/
theorem App.returns_handle {app : App} {occasion : Occasion} {request : Request}
    {response : Response} (returns : (app.handle occasion request).Returns past response) :
    ∃ result, (app.action occasion request).run.Returns past result ∧
      response = .ofResult result := by
  rw [handle_eq] at returns
  exact returns.of_map

section Runs

variable [DecidableEq ι] {others : StoreCall → Prop} {start pool : Pool ι α}
  {log : List (Event ι)} {i : ι}

/-- What is left of a program in a run is what its own history leads to. -/
theorem Pool.Run.leads (run : Pool.Run others start log pool) (i : ι) :
    (start.thread i).Leads (doneBy i log) (pool.thread i) :=
  run.follows (fun left past => (start.thread i).Leads past left)
    (fun _ _ _ _ leads answer => leads.concat answer) (.refl _)

theorem Pool.Run.returns {result : α} (run : Pool.Run others start log pool)
    (ended : pool.thread i = .done result) : (start.thread i).Returns (doneBy i log) result := by
  have leads := run.leads i
  rwa [ended] at leads

end Runs

end SessionAuth
