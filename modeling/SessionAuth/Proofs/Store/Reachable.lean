import Mathlib.Data.List.Nodup
import SessionAuth.Proofs.Store.Change

/-!
# Stores that come about

A store comes about from the empty one by operations, in any order and with any arguments.
Accounts are never removed and no operation gives one another identifier, so the accounts of
such a store are numbered from 1 on in the order in which they were made. While the numbers
have not run out, an identifier belongs to one account, and the next one to none.

## Main definitions

* `Store.Reachable` — a store that operations lead to
* `Store.Numbered` — its accounts carry the numbers from 1 on

## Main results

* `Store.Numbered.respond` — every operation keeps the numbering
* `Store.Reachable.account?_of_mem` — an account is found under its identifier
* `Store.Reachable.account?_next` — nothing is found under the next identifier
-/

namespace SessionAuth.Store

/-- A store that operations lead to from the empty one. -/
inductive Reachable : Store → Prop
  | empty : Reachable .empty
  | respond {store : Store} (reachable : Reachable store) (op : StoreCall) :
      Reachable (store.respond op).2

/-- The identifier of the account at a place, counted from 0. -/
def number (n : Nat) : Int32 := Int32.ofNat (n + 1)

/-- The accounts carry the numbers from 1 on, and the last number is remembered. -/
structure Numbered (store : Store) : Prop where
  last : store.lastId = Int32.ofNat store.accounts.length
  ids : store.accounts.map (·.id) = (List.range store.accounts.length).map number

variable {store : Store}

/-- Neither rewriting accounts nor making one breaks the numbering. -/
theorem Numbered.change (numbered : store.Numbered) {made : List Account} {after : Store}
    (change : AccountsChange store made after) : after.Numbered := by
  cases change with
  | rewritten change id _ accounts lastId =>
    refine ⟨?_, ?_⟩
    · rw [lastId, numbered.last, accounts, List.length_map]
    · simp [accounts, Function.comp_def, id, numbered.ids]
  | made _ id accounts lastId =>
    refine ⟨?_, ?_⟩
    · simp [accounts, lastId, numbered.last]
    · simp [accounts, id, numbered.ids, numbered.last, List.range_succ, number]

/-- Every operation keeps the numbering. -/
theorem Numbered.respond (numbered : store.Numbered) (op : StoreCall) :
    (store.respond op).2.Numbered :=
  numbered.change (store.accountsChange_respond op)

theorem number_injOn {m n : Nat} (hm : m < 2147483647) (hn : n < 2147483647)
    (h : number m = number n) : m = n := by
  have hvalue := congrArg Int32.toInt h
  simp only [number] at hvalue
  rw [Int32.toInt_ofNat_of_lt (by omega), Int32.toInt_ofNat_of_lt (by omega)] at hvalue
  omega

/-- While the numbers last, no two accounts share one. -/
theorem Numbered.nodup_ids (numbered : store.Numbered)
    (room : store.accounts.length ≤ 2147483647) : (store.accounts.map (·.id)).Nodup := by
  rw [numbered.ids]
  apply List.nodup_range.map_on
  intro m hm n hn h
  rw [List.mem_range] at hm hn
  exact number_injOn (by omega) (by omega) h

namespace Reachable

theorem numbered (reachable : store.Reachable) : store.Numbered := by
  induction reachable with
  | empty => exact ⟨rfl, rfl⟩
  | respond _ op ih => exact ih.respond op

/-- An account is found under its identifier. -/
theorem account?_of_mem (reachable : store.Reachable)
    (room : store.accounts.length ≤ 2147483647) {account : Account}
    (mem : account ∈ store.accounts) : store.account? account.id = some account := by
  cases found : store.account? account.id with
  | none => simpa using List.find?_eq_none.mp found account mem
  | some other =>
    have hmem : other ∈ store.accounts := List.mem_of_find?_eq_some found
    -- What is found has the identifier too, and no other account has it.
    have hnodup := reachable.numbered.nodup_ids room
    rw [List.inj_on_of_nodup_map hnodup hmem mem (account?_id found)]

/-- An account that is found under its email address is found under its identifier. -/
theorem account?_of_accountByEmail? (reachable : store.Reachable)
    (room : store.accounts.length ≤ 2147483647) {email : String} {account : Account}
    (found : store.accountByEmail? email = some account) :
    store.account? account.id = some account :=
  reachable.account?_of_mem room (List.mem_of_find?_eq_some found)

/-- Nothing is found under the identifier that the next account is given. -/
theorem account?_next (reachable : store.Reachable)
    (room : store.accounts.length < 2147483647) : store.account? (store.lastId + 1) = none := by
  have numbered := reachable.numbered
  refine List.find?_eq_none.mpr ?_
  intro account mem hid
  -- Every number given so far is smaller than the next one.
  have hmem : account.id ∈ (List.range store.accounts.length).map number := by
    rw [← numbered.ids]
    exact List.mem_map_of_mem mem
  obtain ⟨n, hn, hnumber⟩ := List.mem_map.mp hmem
  have hnext : number n = number store.accounts.length := by
    rw [hnumber, of_decide_eq_true hid, numbered.last]
    simp [number]
  rw [List.mem_range] at hn
  have hsame := number_injOn (by omega) room hnext
  omega

end Reachable

end SessionAuth.Store
