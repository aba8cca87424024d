import SessionAuth.Proofs.PersonalToken.Isolation

/-!
# Lists of personal tokens

The records of an owner are listed from among all records that a store keeps, and a name is looked
up among these again. In every store that operations lead to, nothing gets lost on the way and
nothing is listed twice: the list has the records that are found under their identifiers and belong
to the owner, those that are revoked among them, the newest first. The order in which the store
keeps its records shows in the order of records of the same time, and nowhere else. An active record
is found under a name if it is the one of its kind in the list. The list is what a caller is shown.

## Main results

* `Store.Distinct.toList_activeToken?` — an active record is the one of its kind in the list
* `App.Dispatches.run_handle_listTokens` — a caller is shown the list
* `Store.Reachable.lists` — what is listed, in which order, and to whom
-/

namespace SessionAuth

namespace Store

variable {store other : Store} {owner : Int32} {record : PersonalToken}

/-! ## What is listed -/

theorem Distinct.mem_tokensOf_iff (distinct : store.Distinct) :
    record ∈ store.tokensOf owner ↔
      store.token? record.id = some record ∧ record.owner = owner := by
  rw [mem_tokensOf, token?_eq_some_iff distinct.records]
  simp

theorem Distinct.nodup_tokensOf (distinct : store.Distinct) :
    ((store.tokensOf owner).map (·.id)).Nodup :=
  ((perm_tokensOf store owner).map _).nodup_iff.mpr
    (distinct.records.sublist (List.filter_sublist.map _))

/-- In whatever order the same records are kept, the lists have the same records of each time, and
the same times one behind the other. -/
theorem listed_of_perm (perm : other.tokens.Perm store.tokens) :
    (other.tokensOf owner).map (·.createdAt) = (store.tokensOf owner).map (·.createdAt) ∧
      ∀ time, ((other.tokensOf owner).filter (·.createdAt = time)).Perm
        ((store.tokensOf owner).filter (·.createdAt = time)) := by
  obtain ⟨hperm, times⟩ := tokensOf_of_perm (perm.filter (·.owner = owner))
  exact ⟨times, fun _ => hperm.filter _⟩

/-! ## What is found under a name -/

/-- The active records of a name in a list are those that a look-up of the name goes through. -/
theorem perm_filter_tokensOf (store : Store) (owner : Int32) (name : String) :
    ((store.tokensOf owner).filter fun record => record.name = name && !record.revoked).Perm
      (store.tokens.filter (isActive owner name)) := by
  refine ((perm_tokensOf store owner).filter _).trans (.of_eq ?_)
  rw [List.filter_filter]
  apply List.filter_congr
  intro record _
  simp only [isActive, Bool.and_comm, Bool.and_left_comm]

/-- What is found under a name is the active record of that name in the list, if there is one. -/
theorem Distinct.toList_activeToken? (distinct : store.Distinct) (owner : Int32) (name : String) :
    (store.activeToken? owner name).toList =
      (store.tokensOf owner).filter fun record => record.name = name && !record.revoked := by
  have hperm := perm_filter_tokensOf store owner name
  have hsingle := distinct.length_filter_isActive_le_one owner name
  rw [activeToken?, ← List.head?_filter]
  generalize store.tokens.filter (isActive owner name) = active at hperm hsingle ⊢
  rcases active with _ | ⟨record, _ | ⟨other, rest⟩⟩
  · exact hperm.eq_nil.symm
  · exact (List.perm_singleton.mp hperm).symm
  · simp at hsingle

end Store

/-! ## What a caller is shown -/

/-- A caller whose request for a list is let pass is shown the list of their own records. -/
theorem App.Dispatches.run_handle_listTokens {app : App} {service : Service} {occasion : Occasion}
    {request : Request} {store : Store} {caller : Caller}
    (dispatches : app.Dispatches occasion request .healthy store service (some caller))
    (asks : request.Asks .listTokens []) :
    (app.handle occasion request).run .healthy store =
      some (.json 200 (.array ((store.tokensOf caller.account.id).map PersonalToken.toJson)),
        store) := by
  rw [dispatches.run_handle, Service.dispatch_of_find? _ (asks.find?_of_places rfl),
    Program.run_healthy]
  rfl

/-- The list of an owner has exactly the records of this owner that are stored, each once and those
that are revoked among them, the newest first. It is the same in whatever order the records are
kept, but for the order of those of one time. An active record is found under a name exactly if it
is the only one of its kind in the list. And the list is what the owner is shown who asks for it. -/
theorem Store.Reachable.lists {store : Store} (reachable : store.Reachable) (owner : Int32) :
    (store.tokensOf owner).Perm (store.tokens.filter (·.owner = owner)) ∧
    ((store.tokensOf owner).map (·.id)).Nodup ∧
    (∀ record, record ∈ store.tokensOf owner ↔
      store.token? record.id = some record ∧ record.owner = owner) ∧
    ((store.tokensOf owner).Pairwise fun earlier later => later.createdAt ≤ earlier.createdAt) ∧
    (∀ other : Store, other.tokens.Perm store.tokens →
      (other.tokensOf owner).map (·.createdAt) = (store.tokensOf owner).map (·.createdAt) ∧
        ∀ time, ((other.tokensOf owner).filter (·.createdAt = time)).Perm
          ((store.tokensOf owner).filter (·.createdAt = time))) ∧
    (∀ name record, store.activeToken? owner name = some record ↔
      ((store.tokensOf owner).filter fun record => record.name = name && !record.revoked) =
        [record]) ∧
    ∀ (app : App) (service : Service) (occasion : Occasion) (request : Request) (caller : Caller),
      app.Dispatches occasion request .healthy store service (some caller) →
      request.Asks .listTokens [] → caller.account.id = owner →
      (app.handle occasion request).run .healthy store =
        some (.json 200 (.array ((store.tokensOf owner).map PersonalToken.toJson)), store) := by
  have distinct := reachable.distinct
  refine ⟨perm_tokensOf store owner, distinct.nodup_tokensOf,
    fun _ => distinct.mem_tokensOf_iff, List.pairwise_map.mp (pairwise_tokensOf store owner),
    fun _ => listed_of_perm, ?_, ?_⟩
  · intro name record
    rw [← distinct.toList_activeToken?, Option.toList_eq_singleton_iff]
  · rintro app service occasion request caller dispatches asks rfl
    exact dispatches.run_handle_listTokens asks

namespace LoginRequest

open AdminRequest (now get)

/-- A record of the account. -/
def older : PersonalToken := ⟨.nil, 1, "ci", .epoch, now, "hash", false⟩

/-- A later record of the same name. -/
def newer : PersonalToken := { older with id := .version4 1, createdAt := now }

/-- The store with the record of somebody else and those of the account, of which the older one was
revoked before the newer one was put in. -/
def listed : Store :=
  shared.performAll [.insertToken older, .revokeToken older.id, .insertToken newer]

theorem path_tokens (token : String) : (get "/api/tokens" token).path = "/api/tokens" := by
  change Percent.decodePath (String.ofList ("/api/tokens".toList.takeWhile _)) = _
  decide +kernel

/-- With an access token the gate lets the request for the list pass. -/
theorem dispatches_tokens {issued : IssuedToken}
    (h : service.issuer.issueAccess now .nil 1 [.user] = .ok issued) :
    (App.gated (some service)).Dispatches occasion (get "/api/tokens" issued.token) .healthy listed
      service (some ⟨issued.claims, holder, .header⟩) := by
  have known : listed.account? holder.id = some holder := rfl
  have notExempt : service.settings.isExempt (get "/api/tokens" issued.token).path = false := by
    rw [path_tokens]
    decide +kernel
  have permitted : Gate.checkRoles service.gate.policy (get "/api/tokens" issued.token).path "GET"
      ([.user].filter fun role => holder.role.covers role) = .ok () := by
    rw [path_tokens]
    decide +kernel
  have passes := AdminRequest.exec_authorize_of_bearer service.gate rfl known rfl rfl h
    (AdminRequest.rawHeader?_get _ _) service.settings.csrfHeader notExempt permitted
  exact .allowed ((Program.run_healthy _ _).trans (congrArg some passes))

/-- The account is shown its two records, the newer one first, and that one is found under the name
of both. -/
theorem lists_two_records : ∃ token,
    listed.Reachable ∧ listed.activeToken? 1 "ci" = some newer ∧
    ((App.gated (some service)).handle occasion (get "/api/tokens" token)).run .healthy listed =
      some (.json 200 (.array [newer.toJson, { older with revoked := true }.toJson]), listed) := by
  have reachable : listed.Reachable :=
    ((Store.Reachable.empty.respond _).respond _).performAll _
  obtain ⟨issued, hissued⟩ : ∃ issued,
      service.issuer.issueAccess now .nil 1 [.user] = .ok issued := ⟨_, rfl⟩
  have kept : listed.tokens.filter (·.owner = 1) = [{ older with revoked := true }, newer] := by
    decide
  have list : listed.tokensOf 1 = [newer, { older with revoked := true }] := by
    have swapped : newer.createdAt.le older.createdAt = false := by decide
    rw [Store.tokensOf, kept]
    simp [List.mergeSort, List.MergeSort.Internal.splitInTwo, swapped]
  obtain ⟨-, -, -, -, -, finds, shows⟩ := reachable.lists 1
  rw [list] at finds shows
  have asks : (get "/api/tokens" issued.token).Asks .listTokens [] := by
    refine ⟨rfl, ?_⟩
    rw [path_tokens]
    decide +kernel
  exact ⟨issued.token, reachable, (finds "ci" newer).mpr (by decide),
    shows _ _ _ _ _ (dispatches_tokens hissued) asks rfl⟩

end LoginRequest

end SessionAuth
