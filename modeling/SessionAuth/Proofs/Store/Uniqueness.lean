import SessionAuth.Proofs.Store.Reachable

/-!
# One under each key

A store looks things up by several keys: accounts by identifier and by email address, records
of personal tokens by identifier, and active ones also by owner and name. In a store that
operations lead to, each key belongs to one thing at most. So it does not matter in which order
a look-up goes through the store, and the identifier of a new account was never given before.

Only the identifiers of accounts can run out. The other keys stay apart without a limit, since
an operation looks for an email address or a name before it gives it away.

## Main definitions

* `Store.performAll`, `Store.madeBy` — what operations leave, and the accounts that they make
* `Store.Distinct` — the keys that operations look for before they give them away
* `Store.Keyed` — everything is alone under its keys

## Main results

* `Store.Distinct.respond` — every operation keeps the keys apart
* `Store.ids_performAll` — the accounts that were made are there, in the order of their making
* `Store.keyed_performAll` — everything in a store that operations lead to is alone under its
  keys
-/

namespace SessionAuth.Store

/-! ## Lists with keys -/

section Lists

variable {α κ : Type} {key : α → κ} {p : α → Bool} {l l' : List α}

/-- Where keys differ, a condition that only one key meets is met by one element at most. -/
theorem length_filter_le_one (nodup : (l.map key).Nodup)
    (single : ∀ a b, p a = true → p b = true → key a = key b) : (l.filter p).length ≤ 1 := by
  have hnodup : ((l.filter p).map key).Nodup := nodup.sublist (List.filter_sublist.map key)
  have hall : ∀ a ∈ l.filter p, p a = true := fun a ha => (List.mem_filter.mp ha).2
  -- Two elements that meet the condition would have the same key.
  match l.filter p, hnodup, hall with
  | [], _, _ | [_], _, _ => simp
  | a :: b :: _, hnodup, hall =>
    have hsame := single a b (hall a (by simp)) (hall b (by simp))
    simp [hsame] at hnodup

/-- What at most one element meets is found in any order. -/
theorem find?_eq_of_perm (perm : l'.Perm l) (single : (l.filter p).length ≤ 1) :
    l'.find? p = l.find? p := by
  have hperm := perm.filter p
  rw [← List.head?_filter, ← List.head?_filter]
  match l.filter p, hperm, single with
  | [], hperm, _ => rw [hperm.eq_nil]
  | [_], hperm, _ => rw [List.perm_singleton.mp hperm]
  | _ :: _ :: _, _, single => simp at single

end Lists

/-! ## Operations in a row -/

/-- What operations leave that are performed one behind the other. -/
def performAll (store : Store) : List StoreCall → Store
  | [] => store
  | op :: ops => (store.respond op).2.performAll ops

/-- The accounts that operations make which are performed one behind the other. -/
def madeBy (store : Store) : List StoreCall → List Account
  | [] => []
  | op :: ops => op.made (store.respond op).1 ++ (store.respond op).2.madeBy ops

variable {store after : Store}

theorem Reachable.performAll (reachable : store.Reachable) (ops : List StoreCall) :
    (store.performAll ops).Reachable := by
  induction ops generalizing store with
  | nil => exact reachable
  | cons op ops ih => exact ih (reachable.respond op)

/-- Behind the identifiers that there are stand those of the accounts that were made. -/
theorem AccountsChange.ids {made : List Account} (change : AccountsChange store made after) :
    after.accounts.map (·.id) = store.accounts.map (·.id) ++ made.map (·.id) := by
  cases change with
  | rewritten change id _ accounts => simp [accounts, Function.comp_def, id]
  | made _ _ accounts => simp [accounts]

theorem ids_performAll (ops : List StoreCall) :
    (store.performAll ops).accounts.map (·.id) =
      store.accounts.map (·.id) ++ (store.madeBy ops).map (·.id) := by
  induction ops generalizing store with
  | nil => simp [Store.performAll, madeBy]
  | cons op ops ih =>
    rw [Store.performAll, ih, (store.accountsChange_respond op).ids, madeBy, List.map_append,
      List.append_assoc]

/-! ## Keys -/

/-- No two accounts share an email address, no two records an identifier, and no two records
that are not revoked an owner and a name. -/
structure Distinct (store : Store) : Prop where
  emails : (store.accounts.map (·.email)).Nodup
  records : (store.tokens.map (·.id)).Nodup
  names : ((store.tokens.filter (!·.revoked)).map fun r => (r.owner, r.name)).Nodup

/-- A new account has a new email address, and the others keep theirs. -/
theorem AccountsChange.emails {made : List Account} (change : AccountsChange store made after)
    (emails : (store.accounts.map (·.email)).Nodup) : (after.accounts.map (·.email)).Nodup := by
  cases change with
  | rewritten change _ email accounts => simpa [accounts, Function.comp_def, email] using emails
  | made free _ accounts =>
    rw [accounts, List.map_append, List.nodup_append']
    refine ⟨emails, by simp, ?_⟩
    simp only [List.map_cons, List.map_nil, List.disjoint_singleton, List.mem_map, not_exists,
      not_and]
    intro other mem same
    simpa [same] using List.find?_eq_none.mp free other mem

/-- A record takes the place of any other that has its identifier. -/
theorem TokensChange.records (change : TokensChange store after)
    (records : (store.tokens.map (·.id)).Nodup) : (after.tokens.map (·.id)).Nodup := by
  cases change with
  | kept tokens => rwa [tokens]
  | inserted record _ tokens =>
    rw [tokens, List.map_append, List.nodup_append']
    refine ⟨records.sublist (List.filter_sublist.map _), by simp, ?_⟩
    simp
  | revoked id tokens =>
    have same : (fun t : PersonalToken =>
        (if t.id = id then { t with revoked := true } else t).id) = (·.id) := by
      funext t
      split <;> rfl
    simpa [tokens, Function.comp_def, same] using records

/-- Of the records that are not revoked a revocation leaves those with another identifier. -/
theorem filter_active_revoked (tokens : List PersonalToken) (id : Uuid) :
    (tokens.map fun t => if t.id = id then { t with revoked := true } else t).filter
        (!·.revoked) =
      (tokens.filter (!·.revoked)).filter (·.id ≠ id) := by
  induction tokens with
  | nil => rfl
  | cons t tokens ih =>
    by_cases hid : t.id = id
    · cases hrevoked : t.revoked <;> simp_all
    · cases hrevoked : t.revoked <;> simp_all

/-- A name is given to a record that is not revoked only if it is free. -/
theorem TokensChange.names (change : TokensChange store after)
    (names : ((store.tokens.filter (!·.revoked)).map fun r => (r.owner, r.name)).Nodup) :
    ((after.tokens.filter (!·.revoked)).map fun r => (r.owner, r.name)).Nodup := by
  cases change with
  | kept tokens => rwa [tokens]
  | inserted record free tokens =>
    have hfront : (((store.tokens.filter (·.id ≠ record.id)).filter (!·.revoked)).map
        fun r => (r.owner, r.name)).Nodup :=
      names.sublist ((List.filter_sublist.filter _).map _)
    rw [tokens, List.filter_append, List.map_append, List.nodup_append']
    refine ⟨hfront, ?_, ?_⟩
    · cases hrevoked : record.revoked <;> simp [hrevoked]
    -- An active record of the name, had it been there, would have been found.
    · intro pair hpair hnew
      simp only [List.mem_map, List.mem_filter, List.mem_singleton] at hpair hnew
      obtain ⟨other, ⟨⟨mem, -⟩, hother⟩, rfl⟩ := hpair
      obtain ⟨_, ⟨rfl, -⟩, hsame⟩ := hnew
      obtain ⟨howner, hname⟩ := Prod.mk.inj hsame
      have hfound := List.find?_eq_none.mp free other mem
      simp [isActive, howner, hname] at hfound
      simp [hfound] at hother
  | revoked id tokens =>
    rw [tokens, filter_active_revoked]
    exact names.sublist (List.filter_sublist.map _)

/-- Every operation keeps the keys apart. -/
theorem Distinct.respond (distinct : store.Distinct) (op : StoreCall) :
    (store.respond op).2.Distinct where
  emails := (store.accountsChange_respond op).emails distinct.emails
  records := (store.tokensChange_respond op).records distinct.records
  names := (store.tokensChange_respond op).names distinct.names

theorem Reachable.distinct (reachable : store.Reachable) : store.Distinct := by
  induction reachable with
  | empty => constructor <;> exact List.nodup_nil
  | respond _ op ih => exact ih.respond op

/-- Where identifiers differ, what is found under one is the record that has it. -/
theorem token?_eq_some_iff (records : (store.tokens.map (·.id)).Nodup) {id : Uuid}
    {record : PersonalToken} :
    store.token? id = some record ↔ record ∈ store.tokens ∧ record.id = id := by
  constructor
  · exact fun found => ⟨List.mem_of_find?_eq_some found, token?_id found⟩
  · rintro ⟨mem, rfl⟩
    cases found : store.token? record.id with
    | none => simpa using List.find?_eq_none.mp found record mem
    | some other =>
      have hmem : other ∈ store.tokens := List.mem_of_find?_eq_some found
      rw [List.inj_on_of_nodup_map records hmem mem (token?_id found)]

/-- A record is found under its identifier. -/
theorem Distinct.token?_of_mem (distinct : store.Distinct) {record : PersonalToken}
    (mem : record ∈ store.tokens) : store.token? record.id = some record :=
  (token?_eq_some_iff distinct.records).mpr ⟨mem, rfl⟩

/-- One account at most has an email address. -/
theorem Distinct.length_filter_email_le_one (distinct : store.Distinct) (email : String) :
    (store.accounts.filter (·.email = email)).length ≤ 1 := by
  apply length_filter_le_one distinct.emails
  simp only [decide_eq_true_eq]
  rintro a b rfl hb
  exact hb.symm

/-- One active record at most has an owner and a name. -/
theorem Distinct.length_filter_isActive_le_one (distinct : store.Distinct) (owner : Int32)
    (name : String) : (store.tokens.filter (isActive owner name)).length ≤ 1 := by
  have hactive : store.tokens.filter (isActive owner name) =
      (store.tokens.filter (!·.revoked)).filter (isActive owner name) := by
    rw [List.filter_filter]
    congr 1
    funext record
    cases h : record.revoked <;> simp [isActive, h]
  rw [hactive]
  apply length_filter_le_one distinct.names
  simp only [isActive, Bool.and_eq_true, decide_eq_true_eq]
  rintro a b ⟨⟨rfl, rfl⟩, -⟩ ⟨⟨howner, hname⟩, -⟩
  rw [howner, hname]

/-! ## Numbers -/

theorem toInt_number {n : Nat} (h : n < 2147483647) : (number n).toInt = n + 1 := by
  rw [number, Int32.toInt_ofNat_of_lt (by omega)]
  rfl

/-- While they last, the identifiers of the accounts are the numbers from 1 on. -/
theorem Numbered.toInt_ids (numbered : store.Numbered)
    (room : store.accounts.length < 2147483647) :
    store.accounts.map (·.id.toInt) =
      (List.range store.accounts.length).map fun n : Nat => (n : Int) + 1 := by
  have hids : store.accounts.map (·.id.toInt) = (store.accounts.map (·.id)).map Int32.toInt := by
    simp
  rw [hids, numbered.ids, List.map_map]
  apply List.map_congr_left
  intro n hn
  exact toInt_number (Nat.lt_trans (List.mem_range.mp hn) room)

/-- Everything in a store is alone under its keys, and the identifiers of the accounts are the
numbers from 1 to the last one. -/
structure Keyed (store : Store) : Prop extends Distinct store where
  account : ∀ account ∈ store.accounts, store.account? account.id = some account
  numbers : store.accounts.map (·.id.toInt) =
    (List.range store.lastId.toInt.toNat).map fun n : Nat => (n : Int) + 1
  token : ∀ record ∈ store.tokens, store.token? record.id = some record

theorem Reachable.keyed (reachable : store.Reachable)
    (room : store.accounts.length < 2147483647) : store.Keyed where
  toDistinct := reachable.distinct
  account _ mem := reachable.account?_of_mem (Nat.le_of_lt room) mem
  numbers := by
    have hlast : store.lastId.toInt.toNat = store.accounts.length := by
      rw [reachable.numbered.last, Int32.toInt_ofNat_of_lt (by omega)]
      rfl
    rw [reachable.numbered.toInt_ids room, hlast]
  token _ mem := reachable.distinct.token?_of_mem mem

/-- Whatever operations are performed on the empty store, everything in it is alone under its
keys, as long as the numbers for accounts last. An email address, and an owner with a name among
the active records, has one candidate at most, so that a look-up answers the same in whatever
order it goes through the store. The accounts that were made got the numbers from 1 on, one after
the other, and no number was given twice. -/
theorem keyed_performAll (ops : List StoreCall)
    (room : (empty.madeBy ops).length < 2147483647) :
    (empty.performAll ops).Keyed ∧
    (∀ email, ((empty.performAll ops).accounts.filter (·.email = email)).length ≤ 1) ∧
    (∀ owner name,
      ((empty.performAll ops).tokens.filter (isActive owner name)).length ≤ 1) ∧
    (∀ other : Store, other.accounts.Perm (empty.performAll ops).accounts →
      other.tokens.Perm (empty.performAll ops).tokens →
      (∀ email, other.accountByEmail? email = (empty.performAll ops).accountByEmail? email) ∧
      ∀ owner name,
        other.activeToken? owner name = (empty.performAll ops).activeToken? owner name) ∧
    (empty.madeBy ops).map (·.id) = (empty.performAll ops).accounts.map (·.id) ∧
    (empty.madeBy ops).map (·.id.toInt) =
      (List.range (empty.madeBy ops).length).map fun n : Nat => (n : Int) + 1 := by
  have reachable : (empty.performAll ops).Reachable := Reachable.empty.performAll ops
  have ids : (empty.madeBy ops).map (·.id) = (empty.performAll ops).accounts.map (·.id) :=
    Eq.symm (ids_performAll ops)
  have length : (empty.performAll ops).accounts.length = (empty.madeBy ops).length := by
    simpa using (congrArg List.length ids).symm
  rw [← length] at room
  have distinct := reachable.distinct
  refine ⟨reachable.keyed room, distinct.length_filter_email_le_one,
    distinct.length_filter_isActive_le_one, ?_, ids, ?_⟩
  · intro other accounts tokens
    refine ⟨fun email => ?_, fun owner name => ?_⟩
    · exact find?_eq_of_perm accounts (distinct.length_filter_email_le_one email)
    · exact find?_eq_of_perm tokens (distinct.length_filter_isActive_le_one owner name)
  · have numbers := reachable.numbered.toInt_ids room
    have hids := congrArg (List.map Int32.toInt) ids
    rw [List.map_map, List.map_map] at hids
    rw [← length, ← numbers]
    exact hids

namespace TwoRegistrations

/-- A record of the first account. -/
def record : PersonalToken := ⟨.nil, 1, "ci", .epoch, .epoch, "hash", false⟩

/-- Two accounts are made, between them one is refused, and a name is given again after the
record that had it was replaced and revoked. -/
def ops : List StoreCall :=
  [.createAccount ⟨"first", "a@b.c", "hash", .user⟩ .epoch,
    .createAccount ⟨"second", "a@b.c", "hash", .user⟩ .epoch,
    .createAccount ⟨"third", "c@b.c", "hash", .admin⟩ .epoch,
    .insertToken record, .insertToken { record with name := "cd" }, .revokeToken .nil,
    .insertToken { record with id := .version4 0, name := "cd" }]

/-- The two accounts got the numbers 1 and 2, and of the records one is active. -/
theorem keyed_of_two_registrations :
    (empty.madeBy ops).length < 2147483647 ∧ (empty.performAll ops).Keyed ∧
      (empty.madeBy ops).map (·.id.toInt) = [1, 2] ∧
      (empty.performAll ops).tokens.map (·.revoked) = [true, false] := by
  have room : (empty.madeBy ops).length < 2147483647 := by decide
  obtain ⟨keyed, -, -, -, -, numbers⟩ := keyed_performAll ops room
  exact ⟨room, keyed, numbers, by decide⟩

end TwoRegistrations

end SessionAuth.Store
