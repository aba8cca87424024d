/-!
# Roles

Every account holds one role, and roles are ordered by rank: `super` above
`admin` above `user`. A role stands in for every role of lower rank.

## Main definitions

* `Role` — the three roles, with `Role.rank` and `Role.name`
* `Role.covers` — a role is worth at least another one
* `Role.parse` — a role read from its name
* `Role.highest?` — the role of greatest rank in a list

## Main results

* `Role.parse_name` — reading inverts writing
* `Role.covers_trans` — what a role stands in for, a higher one does too
* `Role.highest?_eq_some_iff` — the highest role is the one of a list that none in it outranks
-/

namespace SessionAuth

/-- What an account may do, in three steps. -/
inductive Role where
  | user
  | admin
  | super
  deriving DecidableEq, Repr, Inhabited

/-- The fault of a text that names no role. -/
structure UnknownRole where
  text : String
  deriving DecidableEq, Repr

/-- What is reported of a text that names no role. -/
def UnknownRole.message (fault : UnknownRole) : String := "unknown role: " ++ fault.text

namespace Role

/-- The place of a role in the order, from 0. -/
def rank : Role → Nat
  | user => 0
  | admin => 1
  | super => 2

/-- The name of a role, as it is written in tokens and records. -/
def name : Role → String
  | user => "user"
  | admin => "admin"
  | super => "super"

/-- A role read from its exact name. -/
def parse : String → Except UnknownRole Role
  | "user" => .ok user
  | "admin" => .ok admin
  | "super" => .ok super
  | text => .error ⟨text⟩

/-- Whether `role` is worth at least `required`. -/
def covers (role required : Role) : Bool := required.rank ≤ role.rank

/-- Of two roles the one of greater rank. -/
def higher (a b : Role) : Role := if a.rank ≤ b.rank then b else a

/-- The role of greatest rank in a list. -/
def highest? : List Role → Option Role
  | [] => none
  | role :: rest => some (rest.foldl higher role)

@[simp] theorem parse_name (role : Role) : parse role.name = .ok role := by
  cases role <;> rfl

theorem name_injective {a b : Role} (h : a.name = b.name) : a = b := by
  have := parse_name a
  rw [h, parse_name] at this
  exact (Except.ok.inj this).symm

@[simp] theorem covers_iff {role required : Role} :
    role.covers required = true ↔ required.rank ≤ role.rank := by
  simp [covers]

theorem covers_refl (role : Role) : role.covers role = true := by simp

theorem covers_trans {a b c : Role} (hab : a.covers b = true) (hbc : b.covers c = true) :
    a.covers c = true := by
  rw [covers_iff] at *
  exact Nat.le_trans hbc hab

theorem rank_injective {a b : Role} (h : a.rank = b.rank) : a = b := by
  cases a <;> cases b <;> simp_all [rank]

/-! ## The highest of some roles -/

theorem higher_eq_or (a b : Role) : higher a b = a ∨ higher a b = b := by
  unfold higher
  split
  · exact .inr rfl
  · exact .inl rfl

theorem rank_le_higher (a b : Role) :
    a.rank ≤ (higher a b).rank ∧ b.rank ≤ (higher a b).rank := by
  unfold higher
  split
  · next hle => exact ⟨hle, Nat.le_refl _⟩
  · next hlt => exact ⟨Nat.le_refl _, Nat.le_of_not_le hlt⟩

/-- What is left of some roles is one of them, and none of them outranks it. -/
theorem foldl_higher (first : Role) (rest : List Role) :
    rest.foldl higher first ∈ first :: rest ∧
      ∀ role ∈ first :: rest, role.rank ≤ (rest.foldl higher first).rank := by
  induction rest generalizing first with
  | nil => simp
  | cons next rest ih =>
    obtain ⟨hmem, hall⟩ := ih (higher first next)
    obtain ⟨hfirst, hnext⟩ := rank_le_higher first next
    have hkept := hall _ List.mem_cons_self
    rw [List.foldl_cons]
    constructor
    · rcases List.mem_cons.mp hmem with heq | hmem
      · rw [heq]
        rcases higher_eq_or first next with h | h <;> simp [h]
      · simp [hmem]
    · intro role hrole
      rcases List.mem_cons.mp hrole with rfl | hrole
      · exact Nat.le_trans hfirst hkept
      · rcases List.mem_cons.mp hrole with rfl | hrole
        · exact Nat.le_trans hnext hkept
        · exact hall role (List.mem_cons_of_mem _ hrole)

theorem highest?_eq_none_iff {roles : List Role} : highest? roles = none ↔ roles = [] := by
  cases roles <;> simp [highest?]

/-- The highest of some roles is the one among them that none of them outranks. -/
theorem highest?_eq_some_iff {roles : List Role} {top : Role} :
    highest? roles = some top ↔ top ∈ roles ∧ ∀ role ∈ roles, role.rank ≤ top.rank := by
  cases roles with
  | nil => simp [highest?]
  | cons first rest =>
    obtain ⟨hmem, hall⟩ := foldl_higher first rest
    rw [highest?, Option.some_inj]
    constructor
    · rintro rfl
      exact ⟨hmem, hall⟩
    -- No two roles have the same rank, so that there is only one such role.
    · rintro ⟨htop, hle⟩
      exact rank_injective (Nat.le_antisymm (hle _ hmem) (hall top htop))

end Role

end SessionAuth
