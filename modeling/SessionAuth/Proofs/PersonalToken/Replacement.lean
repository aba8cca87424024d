import SessionAuth.Proofs.PersonalToken.Lifetime
import SessionAuth.Proofs.Session.Freshness
import SessionAuth.Proofs.Store.Uniqueness

/-!
# What an insertion replaces

Before a record of a personal token is put into a store, its owner and its name are looked for among
the active records. Its identifier is not looked for, although the record is kept under it. So an
insertion that succeeds spares every record under another identifier, and a record under the same
one makes room for the new one. If that was a revoked record, the identifier stands for a record
that is not revoked, and it can be revoked once more. Nothing of this happens to a record while no
insertion under its identifier succeeds: once revoked, it is found as revoked for good.

## Main definitions

* `Answered.Inserts` — an operation put a record in under an identifier

## Main results

* `Store.spares_iff` — when an insertion leaves every record as it was
* `Store.Leads.token?_of_revoked` — a revoked record stays while none takes its place
* `Store.replaces_only_own` — an insertion replaces the record under its identifier and no other
-/

namespace SessionAuth

/-- An operation put a record in under an identifier. -/
def Answered.Inserts (id : Uuid) (did : Answered) : Prop :=
  ∃ record : PersonalToken, record.id = id ∧ did = ⟨.insertToken record, .ok ()⟩

namespace Store

variable {store later : Store} {record old : PersonalToken} {id : Uuid}

/-! ## One insertion -/

theorem respond_insertToken_eq_ok_iff :
    (store.respond (.insertToken record)).1 = .ok () ↔
      store.activeToken? record.owner record.name = none := by
  rw [respond_insertToken]
  split
  · next taken => exact iff_of_false nofun (Option.isSome_iff_ne_none.mp taken)
  · next free => exact iff_of_true rfl (Option.not_isSome_iff_eq_none.mp free)

/-- An insertion leaves every record as it was exactly if it is refused, or there is no other record
under its identifier. -/
theorem spares_iff :
    (∀ id old, store.token? id = some old →
        (store.respond (.insertToken record)).2.token? id = some old) ↔
      ((store.respond (.insertToken record)).1 = .ok () →
        ∀ old, store.token? record.id = some old → old = record) := by
  constructor
  · intro spares taken old stored
    have kept := spares record.id old stored
    rw [token?_respond_insertToken, if_pos ⟨taken, rfl⟩] at kept
    exact (Option.some.inj kept).symm
  · intro alone id old stored
    rw [token?_respond_insertToken]
    split
    · next replaced =>
      obtain ⟨taken, rfl⟩ := replaced
      rw [alone taken old stored]
    · exact stored

/-! ## Runs of operations -/

/-- An operation keeps the record of an identifier unless it puts another one in its place, and
marks it if it revokes it. -/
theorem token?_respond_of_not_inserts (stored : store.token? record.id = some record)
    (op : StoreCall) (other : ¬Answered.Inserts record.id ⟨op, (store.respond op).1⟩) :
    ∃ current, (store.respond op).2.token? record.id = some current ∧
      record.Kept current (record.revoked = true ∨
        Answered.Revokes record.id ⟨op, (store.respond op).1⟩) := by
  by_cases apart : ∀ inserted, op = .insertToken inserted → inserted.id ≠ record.id
  · exact token?_respond stored op apart
  · simp only [not_forall, not_not] at apart
    obtain ⟨inserted, rfl, same⟩ := apart
    -- An insertion under the identifier must have been refused.
    have refused : (store.respond (.insertToken inserted)).1 ≠ .ok () := fun taken =>
      other ⟨inserted, same, congrArg _ taken⟩
    refine ⟨record, ?_, rfl, ?_⟩
    · rw [token?_respond_insertToken, if_neg fun taken => refused taken.1, stored]
    · exact ⟨.inl, fun revoked => revoked.resolve_right nofun⟩

/-- A record that is revoked stays as it is while no other one takes its place. -/
theorem Leads.token?_of_revoked (leads : store.Leads (fun did => ¬did.Inserts id) later)
    (stored : store.token? id = some record) (revoked : record.revoked = true) :
    later.token? id = some record := by
  obtain rfl := token?_id stored
  induction leads with
  | refl => exact stored
  | respond _ op other ih =>
    obtain ⟨current, found, kept⟩ := token?_respond_of_not_inserts ih op other
    have marked : current.revoked = record.revoked := by
      rw [revoked]
      exact kept.revoked.mpr (.inl revoked)
    rw [found, kept.same, marked]

/-- A record that a revocation has marked is found as marked, and cannot be revoked once more, while
no other one takes its place. -/
theorem Leads.stays_revoked (revoked : (store.respond (.revokeToken id)).1 = .ok true)
    (leads : (store.respond (.revokeToken id)).2.Leads (fun did => ¬did.Inserts id) later) :
    ∃ old, store.token? id = some old ∧ later.token? id = some { old with revoked := true } ∧
      (later.respond (.revokeToken id)).1 = .ok false := by
  obtain ⟨old, stored, -⟩ := revokeToken_fst_iff.mp (Except.ok.inj revoked)
  obtain rfl := token?_id stored
  have marked : (store.respond (.revokeToken old.id)).2.token? old.id =
      some { old with revoked := true } := by
    rw [respond_revokeToken, token?_revokeToken, stored, Option.map_some, if_pos rfl]
  have found := leads.token?_of_revoked marked rfl
  refine ⟨old, stored, found, congrArg Except.ok (Bool.eq_false_iff.mpr fun again => ?_)⟩
  obtain ⟨current, hcurrent, active⟩ := revokeToken_fst_iff.mp again
  obtain rfl := Option.some.inj (found.symm.trans hcurrent)
  cases active

/-- An insertion replaces the record under its identifier and no other. What is found under another
identifier stays as it is. The record is taken in and found if its owner has no active record of the
name, and otherwise nothing changes. So every record stays as it was exactly if the insertion is
refused or no other record has its identifier. A record that was revoked is found as revoked, and
cannot be revoked once more, behind any operations that put no record in under its identifier. -/
theorem replaces_only_own (store : Store) (record : PersonalToken) :
    (∀ id, id ≠ record.id →
      (store.respond (.insertToken record)).2.token? id = store.token? id) ∧
    (if store.activeToken? record.owner record.name = none then
      (store.respond (.insertToken record)).1 = .ok () ∧
        (store.respond (.insertToken record)).2.token? record.id = some record
    else store.respond (.insertToken record) = (.error (.tokenNameTaken record.name), store)) ∧
    ((∀ id old, store.token? id = some old →
        (store.respond (.insertToken record)).2.token? id = some old) ↔
      ((store.respond (.insertToken record)).1 = .ok () →
        ∀ old, store.token? record.id = some old → old = record)) ∧
    ∀ id later, (store.respond (.revokeToken id)).1 = .ok true →
      (store.respond (.revokeToken id)).2.Leads (fun did => ¬did.Inserts id) later →
      ∃ old, store.token? id = some old ∧ later.token? id = some { old with revoked := true } ∧
        (later.respond (.revokeToken id)).1 = .ok false := by
  refine ⟨?_, ?_, spares_iff, fun _ _ => Leads.stays_revoked⟩
  · intro id apart
    rw [token?_respond_insertToken, if_neg fun replaced => apart replaced.2]
  · split
    · next free =>
      have taken := respond_insertToken_eq_ok_iff.mpr free
      exact ⟨taken, by rw [token?_respond_insertToken, if_pos ⟨taken, rfl⟩]⟩
    · next held => rw [respond_insertToken, if_pos (Option.isSome_iff_ne_none.mpr held)]

namespace ReusedIdentifier

/-- A record of the first account. -/
def first : PersonalToken := ⟨.nil, 1, "ci", .epoch, .epoch, "hash", false⟩

/-- Another record under the same identifier. -/
def second : PersonalToken := { first with name := "cd" }

/-- A record of the same name as the second one under an identifier of its own. -/
def other : PersonalToken := { second with id := .version4 0 }

/-- The first record is put in and revoked. -/
def ops : List StoreCall := [.insertToken first, .revokeToken .nil]

/-- The first record and the one beside it. -/
def start : Store := empty.performAll [.insertToken first, .insertToken other]

/-- A record under another identifier leaves the first one as it was. Once that is revoked, it stays
so behind an insertion that is refused. -/
theorem replaces_only_own_beside :
    start.token? .nil = some first ∧
    (start.respond (.insertToken { other with name := "ce" })).2.token? .nil = some first ∧
    (start.respond (.revokeToken .nil)).1 = .ok true ∧
    ∃ later, (start.respond (.revokeToken .nil)).2.Leads (fun did => ¬did.Inserts .nil) later ∧
      later.token? .nil = some { first with revoked := true } ∧
      (later.respond (.revokeToken .nil)).1 = .ok false := by
  have stored : start.token? .nil = some first := by decide
  have revoked : (start.respond (.revokeToken .nil)).1 = .ok true := by decide
  -- The name of the second record is taken by the one beside.
  have leads : (start.respond (.revokeToken .nil)).2.Leads (fun did => ¬did.Inserts .nil)
      ((start.respond (.revokeToken .nil)).2.respond (.insertToken second)).2 := by
    refine .respond .refl _ ?_
    rintro ⟨record, -, h⟩
    cases h
  obtain ⟨beside, -, -, -⟩ := replaces_only_own start { other with name := "ce" }
  obtain ⟨-, -, -, stays⟩ := replaces_only_own start second
  obtain ⟨old, hold, found, again⟩ := stays .nil _ revoked leads
  obtain rfl := Option.some.inj (stored.symm.trans hold)
  exact ⟨stored, (beside .nil (by decide)).trans stored, revoked, _, leads, found, again⟩

/-- The record that was revoked makes room for another one under its identifier, which can be
revoked in its turn. -/
theorem replaces_revoked_record :
    (empty.performAll ops).Reachable ∧
    (empty.performAll ops).token? .nil = some { first with revoked := true } ∧
    ((empty.performAll ops).respond (.insertToken second)).1 = .ok () ∧
    ((empty.performAll ops).respond (.insertToken second)).2.token? .nil = some second ∧
    (((empty.performAll ops).respond (.insertToken second)).2.respond (.revokeToken .nil)).1 =
      .ok true :=
  ⟨Reachable.empty.performAll ops, by decide, by decide, by decide, by decide⟩

end ReusedIdentifier

end Store

end SessionAuth
