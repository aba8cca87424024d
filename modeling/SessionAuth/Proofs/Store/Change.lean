import SessionAuth.Proofs.Execution

/-!
# What an operation changes

An operation of a store changes its accounts in one of two ways. It rewrites accounts that are
there, of which none gets another identifier, email address or password, or it puts a new one
behind them. The records of personal tokens stay, or one is put in the place of any that has its
identifier, or those of an identifier are marked as revoked. What is kept by these changes is
kept by every operation.

## Main definitions

* `StoreCall.made` — the account that an operation made
* `Store.AccountsChange`, `Store.TokensChange` — the ways in which accounts and records change

## Main results

* `Store.accountsChange_respond`, `Store.tokensChange_respond` — every operation is one of them
-/

namespace SessionAuth

/-- The account that an operation made, by its answer: one for a creation that succeeds, and
none otherwise. -/
def StoreCall.made : (op : StoreCall) → Except AuthError op.Answer → List Account
  | .createAccount _ _, .ok account => [account]
  | _, _ => []

namespace Store

/-- How an operation changes the accounts, given those that it made. -/
inductive AccountsChange (store : Store) : List Account → Store → Prop
  | rewritten {after : Store} (change : Account → Account)
      (id : ∀ account, (change account).id = account.id)
      (email : ∀ account, (change account).email = account.email)
      (accounts : after.accounts = store.accounts.map change)
      (lastId : after.lastId = store.lastId)
      (passwordHash : ∀ account, (change account).passwordHash = account.passwordHash) :
      AccountsChange store [] after
  | made {after : Store} {account : Account}
      (free : store.accountByEmail? account.email = none) (id : account.id = store.lastId + 1)
      (accounts : after.accounts = store.accounts ++ [account])
      (lastId : after.lastId = store.lastId + 1) : AccountsChange store [account] after

/-- How an operation changes the records of personal tokens. -/
inductive TokensChange (store : Store) : Store → Prop
  | kept {after : Store} (tokens : after.tokens = store.tokens) : TokensChange store after
  | inserted {after : Store} (record : PersonalToken)
      (free : store.activeToken? record.owner record.name = none)
      (tokens : after.tokens = store.tokens.filter (·.id ≠ record.id) ++ [record]) :
      TokensChange store after
  | revoked {after : Store} (id : Uuid)
      (tokens : after.tokens =
        store.tokens.map fun t => if t.id = id then { t with revoked := true } else t) :
      TokensChange store after

variable {store after : Store}

namespace AccountsChange

/-- Where nothing happens to the accounts they are rewritten as they are. -/
theorem of_eq (accounts : after.accounts = store.accounts)
    (lastId : after.lastId = store.lastId) : AccountsChange store [] after :=
  .rewritten id (fun _ => rfl) (fun _ => rfl) (by rw [accounts, List.map_id]) lastId fun _ => rfl

theorem of_modifyAccount {id : Int32} {change : Account → Account}
    (keepsId : ∀ account, (change account).id = account.id)
    (keepsEmail : ∀ account, (change account).email = account.email)
    (keepsPassword : ∀ account, (change account).passwordHash = account.passwordHash) :
    AccountsChange store [] (store.modifyAccount id change) := by
  refine .rewritten (fun account => if account.id = id then change account else account)
    ?_ ?_ rfl rfl ?_
  · intro account
    split
    · exact keepsId account
    · rfl
  · intro account
    split
    · exact keepsEmail account
    · rfl
  · intro account
    split
    · exact keepsPassword account
    · rfl

end AccountsChange

/-- Every operation rewrites accounts or makes one. -/
theorem accountsChange_respond (store : Store) (op : StoreCall) :
    AccountsChange store (op.made (store.respond op).1) (store.respond op).2 := by
  cases op with
  | createAccount new now =>
    rw [respond_createAccount]
    split
    · exact .of_eq rfl rfl
    · next taken => exact .made (by simpa [Account.create] using taken) rfl rfl rfl
  | recordLogin id hash now =>
    rw [respond_recordLogin]
    split
    · exact .of_modifyAccount (fun _ => rfl) (fun _ => rfl) fun _ => rfl
    · exact .of_eq rfl rfl
  | swapRefreshHash id expected new now =>
    rw [respond_swapRefreshHash]
    split
    · exact .of_eq rfl rfl
    · split
      · exact .of_modifyAccount (fun _ => rfl) (fun _ => rfl) fun _ => rfl
      · exact .of_eq rfl rfl
  | recordLogout id now =>
    rw [respond_recordLogout]
    split
    · exact .of_modifyAccount (fun _ => rfl) (fun _ => rfl) fun _ => rfl
    · exact .of_eq rfl rfl
  | updateStatus id change =>
    rw [respond_updateStatus]
    split
    · exact .of_eq rfl rfl
    · exact .of_modifyAccount (fun _ => rfl) (fun _ => rfl) fun _ => rfl
  | updateRole id role =>
    rw [respond_updateRole]
    split
    · exact .of_eq rfl rfl
    · exact .of_modifyAccount (fun _ => rfl) (fun _ => rfl) fun _ => rfl
  | ping | findAccount | findByEmail => exact .of_eq rfl rfl
  | insertToken | findToken | tokensOf | findActiveToken | revokeToken =>
    exact .of_eq (accounts_respond rfl).1 (accounts_respond rfl).2

/-- Every operation keeps the records of personal tokens, puts one in or revokes. -/
theorem tokensChange_respond (store : Store) (op : StoreCall) :
    TokensChange store (store.respond op).2 := by
  cases op with
  | insertToken record =>
    rw [respond_insertToken]
    split
    · exact .kept rfl
    · next taken => exact .inserted record (by simpa using taken) rfl
  | revokeToken id =>
    rw [respond_revokeToken, revokeToken]
    split
    · split
      · exact .kept rfl
      · exact .revoked id rfl
    · exact .kept rfl
  | findToken | tokensOf | findActiveToken => exact .kept rfl
  | ping | findAccount | findByEmail | createAccount | recordLogin | swapRefreshHash
  | recordLogout | updateStatus | updateRole => exact .kept (tokens_respond rfl)

end Store

end SessionAuth
