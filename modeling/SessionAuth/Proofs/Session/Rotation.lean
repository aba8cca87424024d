import SessionAuth.Proofs.Session.Turns

/-!
# Refresh tokens are used once

What makes a refresh token good for one exchange is the comparison that the store repeats when
the hash is replaced: a copy of the account that was loaded earlier may be old, but the
replacement succeeds only on the hash that the presented token was compared with. A token that
was replaced is spent. The stored hash does not verify it, and since the call that issued it has
ended, its hash never comes back.

## Main definitions

* `TokensApart` — a refresh token stands for itself: no two calls issue the same one, and the
  hash of an issued one verifies nothing else that is presented
* `Spent` — a refresh token that can never be exchanged again
* `Rotates` — what holds at every moment of a run
* `Current` — what is stored, as the last change of a log tells it

## Main results

* `Rotates.turn`, `Rotates.run` — what a turn and a whole run keep
* `Rotates.not_succeeded_of_superseded` — a call that comes behind the change which superseded
  its token does not succeed
* `refresh_token_used_at_most_once` — single use, and what is stored at every moment of a run
-/

namespace SessionAuth

/-! ## Tokens that are spent -/

section Tokens

variable {ι : Type} {sessions : Sessions} {id : Int32} {earlier : Option Grant}
  {calls : ι → SessionCall} {pool after : SessionPool ι} {event : Event ι} {token : String}

/-- The refresh tokens of a run: the one that was accepted before it, and what each call issues
if it comes to that. -/
def issued? (sessions : Sessions) (id : Int32) (earlier : Option Grant) (calls : ι → SessionCall) :
    Option ι → Option Grant
  | none => earlier
  | some i => (calls i).grant? sessions id

/-- No two issued refresh tokens are the same, and a stored hash verifies nothing else that is
presented than the token it was made from. -/
structure TokensApart (sessions : Sessions) (id : Int32) (earlier : Option Grant)
    (calls : ι → SessionCall) : Prop where
  distinct : ∀ {source source' grant grant'},
    issued? sessions id earlier calls source = some grant →
    issued? sessions id earlier calls source' = some grant' →
    grant.token = grant'.token → source = source'
  verifies : ∀ {source grant i presented}, issued? sessions id earlier calls source = some grant →
    (calls i).presented? = some presented →
      sessions.hasher.verifyToken presented grant.hash = true → presented = grant.token

/-- The call that a refresh token comes from has ended, if it is one of the run's. -/
def Pool.Past (pool : SessionPool ι) (source : Option ι) : Prop :=
  ∀ i, source = some i → pool.Ended i

/-- A refresh token can never be exchanged again: the stored hash does not verify it, and no
call is left that would issue it. -/
structure Spent (sessions : Sessions) (id : Int32) (earlier : Option Grant)
    (calls : ι → SessionCall) (pool : SessionPool ι) (token : String) : Prop where
  refused : ∀ hash, pool.store.refreshHash? id = some hash →
    sessions.hasher.verifyToken token hash = false
  past : ∀ source grant, issued? sessions id earlier calls source = some grant →
    grant.token = token → pool.Past source

/-- What holds at every moment of a run: the stored hash is that of a refresh token whose call
has ended, a call that succeeded has answered with the token that it issued, and the token that
it presented is spent and was presented by no other one that succeeded. -/
structure Rotates (sessions : Sessions) (id : Int32) (earlier : Option Grant)
    (calls : ι → SessionCall) (pool : SessionPool ι) : Prop where
  ahead : ∀ i, (calls i).Pending sessions id (pool.thread i) ∨ pool.Succeeded i
  current : ∀ hash, pool.store.refreshHash? id = some hash →
    ∃ source grant, issued? sessions id earlier calls source = some grant ∧ grant.hash = hash ∧
      pool.Past source
  returned : ∀ i tokens, pool.thread i = .done (.ok (some tokens)) →
    ∃ grant, (calls i).grant? sessions id = some grant ∧ tokens.refresh.token = grant.token
  spent : ∀ i presented, (calls i).presented? = some presented → pool.Succeeded i →
    Spent sessions id earlier calls pool presented
  single : ∀ i j presented, (calls i).presented? = some presented →
    (calls j).presented? = some presented → pool.Succeeded i → pool.Succeeded j → i = j

/-- Before its first operation a run holds the hash that was accepted earlier. -/
theorem Rotates.initial (concerns : ∀ i, (calls i).Concerns sessions id) {store : Store}
    (stored : store.refreshHash? id = earlier.map (·.hash)) :
    Rotates sessions id earlier calls ⟨store, fun i => ((calls i).program sessions).run⟩ := by
  have unended (i : ι) {outcome : Option SessionTokens} :
      ((calls i).program sessions).run ≠ .done (.ok outcome) :=
    (SessionCall.pending_program (concerns i)).ne_done_ok outcome
  refine ⟨fun i => Or.inl (SessionCall.pending_program (concerns i)), ?_, ?_, ?_, ?_⟩
  · intro hash hhash
    obtain ⟨grant, hearlier, same⟩ := Option.map_eq_some_iff.mp (stored.symm.trans hhash)
    exact ⟨none, grant, hearlier, same, fun i hi => by cases hi⟩
  · exact fun i tokens hdone => absurd hdone (unended i)
  · exact fun i presented _ ⟨outcome, hdone⟩ => absurd hdone (unended i)
  · exact fun i j presented _ _ ⟨outcome, hdone⟩ _ => absurd hdone (unended i)

variable [DecidableEq ι]

theorem Turn.past (turn : Turn sessions id calls pool event after) {source : Option ι}
    (h : pool.Past source) : after.Past source :=
  fun i hi => turn.ended (h i hi)

/-- A token of which the source is past, and that a turn has replaced, is spent. -/
theorem Turn.spends (apart : TokensApart sessions id earlier calls)
    (turn : Turn sessions id calls pool event after) (changed : event.did.change? id ≠ none)
    {i : ι} (presents : (calls i).presented? = some token)
    (past : ∀ source grant, issued? sessions id earlier calls source = some grant →
      grant.token = token → pool.Past source) :
    Spent sessions id earlier calls after token := by
  refine ⟨?_, fun source grant issues same => turn.past (past source grant issues same)⟩
  intro hash hhash
  cases turn with
  | quiet unchanged => exact absurd unchanged changed
  | @grant j grant _ _ _ stored running _ issues =>
    -- Were the new hash to verify the token, the call that is running would have issued it.
    obtain rfl : grant.hash = hash := Option.some.inj (stored.symm.trans hhash)
    rw [← Bool.not_eq_true]
    intro hverified
    have hissued : issued? sessions id earlier calls (some j) = some grant := issues
    have same : token = grant.token := apart.verifies hissued presents hverified
    exact running (past (some j) grant hissued same.symm j rfl)
  | logout _ _ stored => exact absurd (stored.symm.trans hhash) (by simp)

/-- A token that is spent stays so. -/
theorem Spent.turn (apart : TokensApart sessions id earlier calls)
    (turn : Turn sessions id calls pool event after) {i : ι}
    (presents : (calls i).presented? = some token)
    (spent : Spent sessions id earlier calls pool token) :
    Spent sessions id earlier calls after token := by
  by_cases changed : event.did.change? id = none
  · refine ⟨?_, fun source grant issues same => turn.past (spent.past source grant issues same)⟩
    cases turn with
    | quiet _ stored => exact fun hash hhash => spent.refused hash (stored ▸ hhash)
    | grant _ granted => exact absurd (changed.symm.trans granted) (by simp)
    | logout _ ended => exact absurd (changed.symm.trans ended) (by simp)
  · exact turn.spends apart changed presents spent.past

/-- No call succeeds with a token that is spent. -/
theorem Spent.not_succeeded (turn : Turn sessions id calls pool event after) {i : ι}
    (presents : (calls i).presented? = some token)
    (spent : Spent sessions id earlier calls pool token) (running : ¬pool.Succeeded i) :
    ¬after.Succeeded i := by
  intro h
  obtain ⟨-, -, -, verified⟩ := (turn.succeeded h).resolve_left running
  obtain ⟨expected, hstored, hverified⟩ := verified token presents
  rw [spent.refused expected hstored] at hverified
  cases hverified

/-! ## Runs -/

namespace Rotates

/-- A token with which a call succeeds has been the current one, and is spent by that. -/
theorem spends (apart : TokensApart sessions id earlier calls)
    (rotates : Rotates sessions id earlier calls pool)
    (turn : Turn sessions id calls pool event after) {i : ι}
    (presents : (calls i).presented? = some token) (h : after.Succeeded i) :
    Spent sessions id earlier calls after token := by
  rcases turn.succeeded h with hbefore | ⟨-, -, changed, verified⟩
  · exact (rotates.spent i token presents hbefore).turn apart turn presents
  · obtain ⟨hash, hstored, hverified⟩ := verified token presents
    -- What verifies the token is the hash of an issued one, and so the token is that one.
    obtain ⟨source, grant, issues, rfl, past⟩ := rotates.current hash hstored
    have same : token = grant.token := apart.verifies issues presents hverified
    apply turn.spends apart changed presents
    intro source' grant' issues' same'
    obtain rfl := apart.distinct issues' issues (same'.trans same)
    exact past

/-- What one turn keeps. -/
theorem turn (apart : TokensApart sessions id earlier calls)
    (rotates : Rotates sessions id earlier calls pool)
    (turn : Turn sessions id calls pool event after) :
    Rotates sessions id earlier calls after where
  ahead i := by
    cases turn.course i with
    | untouched same =>
      unfold Pool.Succeeded
      rw [same]
      exact rotates.ahead i
    | onwards _ ahead => exact Or.inl ahead
    | succeeds _ done => exact Or.inr ⟨_, done⟩
  current hash hhash := by
    have past {source : Option ι} : pool.Past source → after.Past source := turn.past
    cases turn with
    | quiet _ stored =>
      obtain ⟨source, grant, issues, same, hpast⟩ := rotates.current hash (stored ▸ hhash)
      exact ⟨source, grant, issues, same, past hpast⟩
    | @grant i grant _ _ _ stored _ threads issues =>
      refine ⟨some i, grant, issues, Option.some.inj (stored.symm.trans hhash), ?_⟩
      rintro j ⟨⟩
      exact ⟨_, by rw [threads, Function.update_self]⟩
    | logout _ _ stored => exact absurd (stored.symm.trans hhash) (by simp)
  returned i tokens hdone := by
    cases turn.course i with
    | untouched same => exact rotates.returned i tokens (same ▸ hdone)
    | onwards _ ahead => exact absurd hdone (ahead.ne_done_ok _)
    | succeeds _ done _ _ returned =>
      rw [done] at hdone
      cases hdone
      exact returned tokens rfl
  spent i presented presents h := rotates.spends apart turn presents h
  single i j presented hi hj hsi hsj := by
    rcases turn.succeeded hsi with hbi | ⟨runningi, actori, -⟩ <;>
      rcases turn.succeeded hsj with hbj | ⟨runningj, actorj, -⟩
    · exact rotates.single i j presented hi hj hbi hbj
    -- One of the two succeeded before, and so the token was spent when the other had its turn.
    · have spent := rotates.spent i presented hi hbi
      exact absurd hsj (spent.not_succeeded turn hj fun h => runningj h.ended)
    · have spent := rotates.spent j presented hj hbj
      exact absurd hsi (spent.not_succeeded turn hi fun h => runningi h.ended)
    -- Both succeed in this turn, which belongs to one of them.
    · exact Option.some.inj (actori.symm.trans actorj)

/-- What a whole run keeps. -/
theorem run {log : List (Event ι)} (apart : TokensApart sessions id earlier calls)
    (rotates : Rotates sessions id earlier calls pool)
    (run : Pool.Run (StoreCall.KeepsSession id) pool log after) :
    Rotates sessions id earlier calls after :=
  run.invariant _ rotates fun _ _ _ h step => h.turn apart (turn_of_step h.ahead step)

end Rotates

/-- A call whose change of the session is in the log has ended. -/
theorem Rotates.ended_of_mem {log : List (Event ι)} (apart : TokensApart sessions id earlier calls)
    (rotates : Rotates sessions id earlier calls pool)
    (run : Pool.Run (StoreCall.KeepsSession id) pool log after) (mem : event ∈ log) {i : ι}
    (actor : event.actor = some i) (changed : event.did.change? id ≠ none) : after.Ended i := by
  obtain ⟨front, back, rfl⟩ := List.append_of_mem mem
  obtain ⟨before, behind, hbefore, hstep, hbehind⟩ := run.exists_split
  have turn := turn_of_step (rotates.run apart hbefore).ahead hstep
  obtain ⟨outcome, hdone⟩ := turn.succeeds actor changed
  exact ⟨_, hbehind.done_of_done hdone⟩

/-- A call that performs an operation behind a change that superseded the token it presents
does not succeed. -/
theorem Rotates.not_succeeded_of_superseded {front back : List (Event ι)} {source : Option ι}
    {grant : Grant} {own : Event ι} {i : ι} (apart : TokensApart sessions id earlier calls)
    (rotates : Rotates sessions id earlier calls pool)
    (run : Pool.Run (StoreCall.KeepsSession id) pool (front ++ event :: back) after)
    (changed : event.did.change? id ≠ none)
    (issues : issued? sessions id earlier calls source = some grant)
    (granted : ∀ j, source = some j → ∃ issue ∈ front, issue.actor = some j ∧
      issue.did.change? id ≠ none)
    (presents : (calls i).presented? = some grant.token) (mem : own ∈ back)
    (acts : own.actor = some i) : ¬after.Succeeded i := by
  obtain ⟨before, behind, hbefore, hstep, hbehind⟩ := run.exists_split
  -- The change that superseded the token comes behind the one that issued it.
  have past : before.Past source := by
    intro j hj
    obtain ⟨issue, hissue, actor, hchanged⟩ := granted j hj
    exact rotates.ended_of_mem apart hbefore hissue actor hchanged
  have hrotates := rotates.run apart hbefore
  have turn := turn_of_step hrotates.ahead hstep
  have spent : Spent sessions id earlier calls behind grant.token := by
    apply turn.spends apart changed presents
    intro source' grant' issues' same
    obtain rfl := apart.distinct issues' issues same
    exact past
  have running : ¬behind.Succeeded i := fun ⟨_, hdone⟩ =>
    hbehind.not_done_of_mem mem acts _ hdone
  -- From here on the token stays spent, and so the call has no turn in which it succeeds.
  have kept := by
    refine hbehind.invariant (fun state => Rotates sessions id earlier calls state ∧
      Spent sessions id earlier calls state grant.token ∧ ¬state.Succeeded i)
      ⟨hrotates.turn apart turn, spent, running⟩ ?_
    rintro state event state' ⟨hrotates, hspent, hrunning⟩ hstep
    have turn := turn_of_step hrotates.ahead hstep
    exact ⟨hrotates.turn apart turn, hspent.turn apart turn presents,
      hspent.not_succeeded turn presents hrunning⟩
  exact kept.2.2

/-- An event of a log is the last one that changes the session. -/
def LastChange (id : Int32) (log : List (Event ι)) (event : Event ι) : Prop :=
  ∃ front back, log = front ++ event :: back ∧ event.did.change? id ≠ none ∧
    ∀ later ∈ back, later.did.change? id = none

omit [DecidableEq ι] in
theorem LastChange.append {log : List (Event ι)} {last : Event ι} (h : LastChange id log last)
    (unchanged : event.did.change? id = none) : LastChange id (log ++ [event]) last := by
  obtain ⟨front, back, rfl, changed, quiet⟩ := h
  refine ⟨front, back ++ [event], by simp, changed, ?_⟩
  intro later hlater
  rcases List.mem_append.mp hlater with hback | hevent
  · exact quiet later hback
  · rw [List.mem_singleton.mp hevent]
    exact unchanged

/-- What is stored is told by the last change of a log: the hash that was there before where
there is none, no hash behind a logout, and the hash of the token that was issued behind a
login or an exchange. -/
inductive Current (sessions : Sessions) (id : Int32) (earlier : Option Grant)
    (calls : ι → SessionCall) (log : List (Event ι)) (pool : SessionPool ι) : Prop
  | unchanged (quiet : ∀ event ∈ log, event.did.change? id = none)
      (stored : pool.store.refreshHash? id = earlier.map (·.hash))
  | ended {event : Event ι} (last : LastChange id log event)
      (change : event.did.change? id = some .ended) (stored : pool.store.refreshHash? id = none)
  | granted {event : Event ι} {i : ι} {grant : Grant} (last : LastChange id log event)
      (actor : event.actor = some i) (change : event.did.change? id = some (.granted grant.hash))
      (issues : (calls i).grant? sessions id = some grant)
      (stored : pool.store.refreshHash? id = some grant.hash)

theorem Current.turn {log : List (Event ι)} (current : Current sessions id earlier calls log pool)
    (turn : Turn sessions id calls pool event after) :
    Current sessions id earlier calls (log ++ [event]) after := by
  have last (changed : event.did.change? id ≠ none) : LastChange id (log ++ [event]) event :=
    ⟨log, [], rfl, changed, by simp⟩
  cases turn with
  | quiet unchanged stored =>
    cases current with
    | unchanged quiet hstored =>
      refine .unchanged ?_ (stored.trans hstored)
      intro other hother
      rcases List.mem_append.mp hother with hlog | hevent
      · exact quiet other hlog
      · rw [List.mem_singleton.mp hevent]
        exact unchanged
    | ended hlast change hstored =>
      exact .ended (hlast.append unchanged) change (stored.trans hstored)
    | granted hlast actor change issues hstored =>
      exact .granted (hlast.append unchanged) actor change issues (stored.trans hstored)
  | grant actor changed stored _ _ issues =>
    exact .granted (last (by simp [changed])) actor changed issues stored
  | logout _ changed stored => exact .ended (last (by simp [changed])) changed stored

theorem Current.run {log : List (Event ι)} (apart : TokensApart sessions id earlier calls)
    (rotates : Rotates sessions id earlier calls pool)
    (stored : pool.store.refreshHash? id = earlier.map (·.hash))
    (run : Pool.Run (StoreCall.KeepsSession id) pool log after) :
    Current sessions id earlier calls log after := by
  induction run with
  | refl => exact .unchanged (by simp) stored
  | tail run step ih => exact ih.turn (turn_of_step (rotates.run apart run).ahead step)

/-- Refresh tokens are used once, however logins, exchanges and logouts take turns. No two
calls succeed with the same token, and the stored hash is always that of the token which was
issued by the last change of the session. A call that has an operation performed behind a
change which superseded its token does not succeed. -/
theorem refresh_token_used_at_most_once {store : Store} {log : List (Event ι)}
    (concerns : ∀ i, (calls i).Concerns sessions id)
    (apart : TokensApart sessions id earlier calls)
    (stored : store.refreshHash? id = earlier.map (·.hash))
    (run : Pool.Run (StoreCall.KeepsSession id)
      ⟨store, fun i => ((calls i).program sessions).run⟩ log after) :
    (∀ i j presented, (calls i).presented? = some presented →
      (calls j).presented? = some presented → after.Succeeded i → after.Succeeded j → i = j) ∧
    Current sessions id earlier calls log after ∧
    (∀ front event back source grant own i, log = front ++ event :: back →
      event.did.change? id ≠ none → issued? sessions id earlier calls source = some grant →
      (∀ j, source = some j → ∃ issue ∈ front, issue.actor = some j ∧
        issue.did.change? id ≠ none) →
      (calls i).presented? = some grant.token → own ∈ back → own.actor = some i →
      ¬after.Succeeded i) ∧
    ∀ i tokens, after.thread i = .done (.ok (some tokens)) →
      ∃ grant, (calls i).grant? sessions id = some grant ∧
        tokens.refresh.token = grant.token := by
  have rotates := Rotates.initial concerns stored
  have current := Current.run apart rotates stored run
  have final := rotates.run apart run
  refine ⟨final.single, current, ?_, final.returned⟩
  rintro front event back source grant own i rfl changed issues granted presents mem acts
  exact rotates.not_succeeded_of_superseded apart run changed issues granted presents mem acts

end Tokens

namespace TwoExchanges

/-- Sessions in which signatures and hashes are what they are made of. -/
def sessions : Sessions where
  issuer := .echo
  hasher :=
    { hashPassword := fun _ password => .ok password
      verifyPassword := fun password stored => .ok (password = stored)
      hashToken := fun _ token => .ok token
      verifyToken := fun token stored => token = stored }

/-- An account with a session. -/
def account : Account :=
  { Account.create 7 ⟨"name", "mail", "password", .user⟩ .epoch with refreshHash := some "token" }

/-- Two exchanges of one refresh token that hold the same copy of the account. -/
def calls (i : Bool) : SessionCall :=
  .refresh ⟨.epoch, .nil, .version4 i.toNat, .nil, .ofNat 0, .ofNat 0, fun _ => ""⟩ account "token"

/-- Before they begin. -/
def start : SessionPool Bool :=
  ⟨⟨7, [account], []⟩, fun i => ((calls i).program sessions).run⟩

theorem tokensApart : TokensApart sessions 7 (some ⟨"token", "token"⟩) calls := by
  have issues {i : Bool} {grant : Grant} (h : (calls i).grant? sessions 7 = some grant) :
      grant.token ≠ "token" := by
    rintro heq
    obtain ⟨claims, hsign, -⟩ := Sessions.sign_of_grant? h
    obtain ⟨signature, -, hsplit⟩ := TokenIssuer.sign_eq_ok hsign
    rw [heq] at hsplit
    cases hsplit
  refine ⟨?_, ?_⟩
  · intro source source' grant grant' h h' same
    match source, source' with
    | none, none => rfl
    | none, some i =>
      cases h
      exact absurd same.symm (issues h')
    | some i, none =>
      cases h'
      exact absurd same (issues h)
    | some i, some j =>
      have hid := Sessions.refreshId_eq_of_grant? h h' same
      revert hid
      cases i <;> cases j <;> decide
  · intro source grant i presented h presents verified
    cases presents
    have hsame : "token" = grant.hash := of_decide_eq_true verified
    match source with
    | none =>
      cases h
      rfl
    | some i =>
      obtain ⟨claims, -, -, hhash⟩ := Sessions.sign_of_grant? h
      exact hsame.trans (Except.ok.inj hhash).symm

/-- The exchange that comes second fails. -/
theorem refresh_token_used_once_by_two_exchanges :
    ∃ log after, Pool.Run (StoreCall.KeepsSession 7) start log after ∧
      after.Succeeded true ∧ after.Ended false ∧ ¬after.Succeeded false := by
  obtain ⟨first, run⟩ := Pool.exists_run_performed (StoreCall.KeepsSession 7) start true
  obtain ⟨second, further⟩ :=
    Pool.exists_run_performed (StoreCall.KeepsSession 7) (start.performed true) false
  have succeeds : ((start.performed true).performed false).Succeeded true := ⟨_, rfl⟩
  have concerns (i : Bool) : (calls i).Concerns sessions 7 := rfl
  have single :=
    (refresh_token_used_at_most_once concerns tokensApart rfl (run.trans further)).1
  refine ⟨_, _, run.trans further, succeeds, ⟨_, rfl⟩, ?_⟩
  intro also
  exact absurd (single true false "token" rfl rfl succeeds also) (by decide)

end TwoExchanges

end SessionAuth
