import SessionAuth.Proofs.Admission

/-!
# The highest role decides

A token may carry several roles. The gate leaves out those that the account does not cover any more
and asks the policy for the others one after the other, until one is allowed. With a list of rules
this comes down to one comparison: the highest role that is left either reaches the role that the
rules ask for or no role does. So it does not matter in which order the roles stand in the token,
nor how often, and neither another role nor a promotion of the account takes an access away.

## Main definitions

* `Gate.decideRoles` — what the gate decides of the roles of a token by a list of rules

## Main results

* `Gate.checkRoles_engine_eq` — one role that is high enough is enough
* `Gate.exec_examine_of_working` — what is decided of the roles is the last word of the gate
* `Gate.highest_role_decides` — the highest role that the account covers decides
-/

namespace SessionAuth.Gate

variable {policy : RolePolicy} {path method : String} {claims : Claims} {account : Account}

/-- By a list of rules some roles are enough if one of them is, and are too low otherwise. -/
theorem checkRoles_engine_eq (policy : RolePolicy) (path method : String) (roles : List Role) :
    checkRoles policy.engine path method roles =
      if ∃ role ∈ roles, (policy.requiredRole path method).rank ≤ role.rank then .ok ()
      else .error .insufficientRole := by
  induction roles with
  | nil => rfl
  | cons role roles ih =>
    rw [checkRoles, policy.enforce_engine]
    -- The search ends at a role that is allowed and goes on behind any other.
    cases allowed : role.covers (policy.requiredRole path method) with
    | true =>
      rw [if_pos ⟨role, List.mem_cons_self, Role.covers_iff.mp allowed⟩]
    | false =>
      have low : ¬(policy.requiredRole path method).rank ≤ role.rank := by
        simpa [Role.covers] using allowed
      simp only [ih, List.mem_cons, exists_eq_or_imp, low, false_or]

/-- What the gate decides of the roles of a token by a list of rules. -/
def decideRoles (policy : RolePolicy) (path method : String) (claims : Claims)
    (account : Account) : Except AuthError Unit :=
  checkRoles policy.engine path method (effectiveRoles claims account)

/-- A role that the account covers and that reaches the one asked for is enough. -/
theorem decideRoles_eq :
    decideRoles policy path method claims account =
      if ∃ role ∈ claims.roles, (policy.requiredRole path method).rank ≤ role.rank ∧
          role.rank ≤ account.role.rank then .ok ()
      else .error .insufficientRole := by
  have enough (required : Role) :
      (∃ role ∈ effectiveRoles claims account, required.rank ≤ role.rank) ↔
        ∃ role ∈ claims.roles, required.rank ≤ role.rank ∧ role.rank ≤ account.role.rank := by
    simp only [mem_effectiveRoles, and_assoc, and_comm (a := _ ≤ account.role.rank)]
  simp only [decideRoles, checkRoles_engine_eq, enough]

/-- The roles are all that is left to decide of a request whose token works. -/
theorem exec_examine_of_working {gate : Gate} {store : Store} {now : Instant}
    {request : GateRequest} {token : String} {caller : Caller} (rules : gate.policy = policy.engine)
    (working : Working gate store now request token caller) :
    (gate.examine now request).exec store =
      ((decideRoles policy request.path request.method caller.claims caller.account).map
        fun _ => caller, store) := by
  rw [exec_examine, verdict_of_working working, rules]
  rfl

theorem decideRoles_eq_ok_iff :
    decideRoles policy path method claims account = .ok () ↔
      ∃ role ∈ claims.roles, (policy.requiredRole path method).rank ≤ role.rank ∧
        role.rank ≤ account.role.rank := by
  rw [decideRoles_eq]
  split
  · next enough => exact iff_of_true rfl enough
  · next low => exact iff_of_false nofun low

/-- A role of a list that is within a bound reaches another one exactly if the highest within the
bound does. -/
theorem exists_role_iff {roles : List Role} {required bound : Role} :
    (∃ role ∈ roles, required.rank ≤ role.rank ∧ role.rank ≤ bound.rank) ↔
      ∃ top, Role.highest? (roles.filter (·.rank ≤ bound.rank)) = some top ∧
        top.covers required = true := by
  constructor
  · rintro ⟨role, mem, reaches, within⟩
    have left : role ∈ roles.filter (·.rank ≤ bound.rank) :=
      List.mem_filter.mpr ⟨mem, decide_eq_true within⟩
    cases highest : Role.highest? (roles.filter (·.rank ≤ bound.rank)) with
    | none =>
      rw [Role.highest?_eq_none_iff.mp highest] at left
      cases left
    | some top =>
      obtain ⟨-, above⟩ := Role.highest?_eq_some_iff.mp highest
      exact ⟨top, rfl, Role.covers_iff.mpr (Nat.le_trans reaches (above role left))⟩
  · rintro ⟨top, highest, reaches⟩
    obtain ⟨left, -⟩ := Role.highest?_eq_some_iff.mp highest
    obtain ⟨mem, within⟩ := List.mem_filter.mp left
    exact ⟨top, mem, Role.covers_iff.mp reaches, of_decide_eq_true within⟩

/-- The roles of a token are decided by the highest one that the account covers, for every list of
rules, every path and every method. They are enough exactly if one of them reaches the role that the
rules ask for and does not go beyond that of the account, which is to say that the highest of those
that do not go beyond it reaches that role; otherwise they are refused as too low. So a token with
the same roles in another order, or with some of them repeated, is decided alike, and where the
roles are enough they stay so with others beside them and with a higher role of the account. -/
theorem highest_role_decides (policy : RolePolicy) (path method : String) (claims : Claims)
    (account : Account) :
    (decideRoles policy path method claims account = .ok () ↔
      ∃ role ∈ claims.roles, (policy.requiredRole path method).rank ≤ role.rank ∧
        role.rank ≤ account.role.rank) ∧
    (decideRoles policy path method claims account = .ok () ↔
      ∃ top, Role.highest? (claims.roles.filter (·.rank ≤ account.role.rank)) = some top ∧
        top.covers (policy.requiredRole path method) = true) ∧
    (decideRoles policy path method claims account ≠ .ok () →
      decideRoles policy path method claims account = .error .insufficientRole) ∧
    (∀ other : Claims, (∀ role, role ∈ other.roles ↔ role ∈ claims.roles) →
      decideRoles policy path method other account =
        decideRoles policy path method claims account) ∧
    (∀ other : Claims, claims.roles ⊆ other.roles →
      decideRoles policy path method claims account = .ok () →
      decideRoles policy path method other account = .ok ()) ∧
    (∀ promoted : Account, account.role.rank ≤ promoted.role.rank →
      decideRoles policy path method claims account = .ok () →
      decideRoles policy path method claims promoted = .ok ()) := by
  have grows {other : Claims} (roles : claims.roles ⊆ other.roles)
      (enough : decideRoles policy path method claims account = .ok ()) :
      decideRoles policy path method other account = .ok () := by
    obtain ⟨role, mem, decides⟩ := decideRoles_eq_ok_iff.mp enough
    exact decideRoles_eq_ok_iff.mpr ⟨role, roles mem, decides⟩
  refine ⟨decideRoles_eq_ok_iff, decideRoles_eq_ok_iff.trans exists_role_iff, ?_, ?_,
    fun _ => grows, ?_⟩
  · intro refused
    rw [decideRoles_eq, if_neg (mt decideRoles_eq_ok_iff.mpr refused)]
  · intro other same
    simp only [decideRoles_eq, same]
  · intro promoted higher enough
    obtain ⟨role, mem, reaches, within⟩ := decideRoles_eq_ok_iff.mp enough
    exact decideRoles_eq_ok_iff.mpr ⟨role, mem, reaches, Nat.le_trans within higher⟩

namespace RoleChange

/-- An account with a role. -/
def holder (role : Role) : Account := Account.create 4 ⟨"name", "a@b.c", "hash", role⟩ .epoch

/-- The claims of a token that carries some roles. -/
def carrying (roles : List Role) : Claims := ⟨4, "issuer", 0, 0, 0, .nil, .access, roles⟩

/-- A change of a role is for the highest one. A token that carries it twice and among others is as
good as one that carries it in front, and neither is while the account is an administrator's: then
the highest role that counts is that of an administrator. -/
theorem highest_role_decides_on_role_change :
    decideRoles .standard "/api/users/4/role" "PUT"
      (carrying [.user, .super, .admin, .super]) (holder .super) = .ok () ∧
    decideRoles .standard "/api/users/4/role" "PUT"
      (carrying [.super, .user, .admin]) (holder .super) = .ok () ∧
    Role.highest? ([Role.user, .super, .admin].filter (·.rank ≤ Role.admin.rank)) = some .admin ∧
    decideRoles .standard "/api/users/4/role" "PUT"
      (carrying [.user, .super, .admin]) (holder .admin) = .error .insufficientRole := by
  have required : RolePolicy.standard.requiredRole "/api/users/4/role" "PUT" = .super := by
    decide +kernel
  obtain ⟨enough, -, -, same, -⟩ := highest_role_decides .standard "/api/users/4/role" "PUT"
    (carrying [.user, .super, .admin, .super]) (holder .super)
  obtain ⟨-, highest, refused, -⟩ := highest_role_decides .standard "/api/users/4/role" "PUT"
    (carrying [.user, .super, .admin]) (holder .admin)
  rw [required] at enough highest
  have first := enough.mpr ⟨.super, by decide, by decide, by decide⟩
  have reordered := same (carrying [.super, .user, .admin]) fun role => by
    cases role <;> decide
  have low := refused fun granted => absurd (highest.mp granted) (by decide)
  exact ⟨first, reordered.trans first, by decide, low⟩

end RoleChange

end SessionAuth.Gate
