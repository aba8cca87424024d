import Mathlib.Data.List.Forall2
import Mathlib.Data.List.Induction
import Mathlib.Data.Prod.Lex
import SessionAuth.Policy
import SessionAuth.Text.Utf8

/-!
# Which rule of a policy decides

Several rules of a policy may match one request. The longest decides, of equally long ones one for a
single action goes before one for every action, and of equals the last. This module says so without
the search that finds the rule: what it is that a rule matches, how rules compare, and that the
answer is the one of the rule that comes out on top. What follows needs no search either. The order
of rules that compare differently plays no part, and a rule plays none where it does not match.

## Main definitions

* `PolicyRule.Matches` — a rule is for a request
* `PolicyRule.key` — how rules compare
* `RolePolicy.Decides` — the rule that comes out on top

## Main results

* `PolicyRule.fits_iff` — what a pattern takes, place by place
* `PolicyRule.applies_kept_iff` — a rule applies where it matches
* `RolePolicy.requiredRole_of_decides`, `RolePolicy.decides_or_unmatched` — the rule on top is found
* `RolePolicy.longest_decides` — the longest rule decides, whatever the order and the other rules
-/

namespace SessionAuth

/-! ## What a rule matches -/

namespace PolicyRule

variable {rule a b : PolicyRule} {path action : String}

/-- A segment in braces. -/
def IsBraced (segment : Segment) : Prop := ∃ name, segment = '\x7b' :: (name ++ ['\x7d'])

theorem isPlaceholder_iff {segment : Segment} :
    isPlaceholder segment = true ↔ IsBraced segment := by
  rw [isPlaceholder, Bool.and_eq_true, decide_eq_true_eq, decide_eq_true_eq]
  constructor
  · rintro ⟨first, last⟩
    obtain ⟨inner, rfl⟩ := List.head?_eq_some_iff.mp first
    cases inner with
    | nil => simp at last
    | cons next inner =>
      rw [List.getLast?_cons_cons] at last
      obtain ⟨name, hname⟩ := List.getLast?_eq_some_iff.mp last
      exact ⟨name, by rw [hname]⟩
  · rintro ⟨name, rfl⟩
    exact ⟨rfl, by rw [← List.cons_append, List.getLast?_concat]⟩

/-- A rule matches a request: it is for every action or, in letters of either case, for this one,
and each segment of its pattern that is not empty finds itself in its place of the path, or is in
braces and finds any segment there that is not empty. -/
structure Matches (rule : PolicyRule) (path action : String) : Prop where
  action : rule.action = anyAction ∨
    rule.action.toList.map Char.toLower = action.toList.map Char.toLower
  pattern : ∀ (place : Nat) (expected : Segment),
    (segments rule.pattern)[place]? = some expected → expected ≠ [] →
    ∃ actual, (segments path)[place]? = some actual ∧
      (actual = expected ∨ IsBraced expected ∧ actual ≠ [])

theorem segmentFits_iff {expected actual : Segment} :
    segmentFits expected actual = true ↔
      (expected ≠ [] → actual = expected ∨ IsBraced expected ∧ actual ≠ []) := by
  simp only [segmentFits, Bool.or_eq_true, Bool.and_eq_true, decide_eq_true_eq, isPlaceholder_iff]
  tauto

/-- A pattern is laid over a path place by place. -/
theorem fits_iff {pattern path : List Segment} :
    fits pattern path = true ↔ ∀ (place : Nat) (expected : Segment),
      pattern[place]? = some expected → expected ≠ [] →
      ∃ actual, path[place]? = some actual ∧
        (actual = expected ∨ IsBraced expected ∧ actual ≠ []) := by
  induction pattern generalizing path with
  | nil => simp [fits]
  | cons expected pattern ih =>
    rw [← Nat.and_forall_add_one]
    cases path with
    | nil => simp [fits, ih]
    | cons actual path => simp [fits, ih, segmentFits_iff]

/-- How rules compare: first by the number of segments that are not empty, then whether they are
for a single action. -/
def key (rule : PolicyRule) : ℕ ×ₗ Bool := toLex (rule.length, decide (rule.action ≠ anyAction))

/-- A rule as a policy keeps it, with its action in upper case. -/
def kept (rule : PolicyRule) : PolicyRule := { rule with action := Text.uppercase rule.action }

/-- A rule for an action in ASCII. -/
def IsAscii (rule : PolicyRule) : Prop := ∀ c ∈ rule.action.toList, c.toNat < 128

instance (rule : PolicyRule) : Decidable rule.IsAscii := List.decidableBAll _ rule.action.toList

/-- In ASCII the upper case of a letter is the same letter, and a star is none. -/
theorem upper_of_ascii {c : Char} (ascii : c.toNat < 128) :
    c.toUpper.toLower = c.toLower ∧ (c.toUpper = '*' ↔ c = '*') :=
  Utf8.of_plain (fun c => c.toUpper.toLower = c.toLower ∧ (c.toUpper = '*' ↔ c = '*')) (by decide)
    ascii

theorem IsAscii.toList_action_kept (ascii : rule.IsAscii) :
    rule.kept.action.toList = rule.action.toList.map Char.toUpper :=
  Text.uppercase_of_ascii ascii

/-- Upper case keeps apart the rules for every action from those for a single one. -/
theorem IsAscii.action_kept_eq_iff (ascii : rule.IsAscii) :
    rule.kept.action = anyAction ↔ rule.action = anyAction := by
  rw [← String.toList_inj, ← String.toList_inj, ascii.toList_action_kept]
  change List.map _ _ = ['*'] ↔ _ = ['*']
  rw [List.map_eq_singleton_iff]
  constructor
  · rintro ⟨c, hc, star⟩
    rw [hc, (upper_of_ascii (ascii c (by simp [hc]))).2.mp star]
  · intro hc
    exact ⟨'*', hc, rfl⟩

/-- Upper case changes no letter but its case. -/
theorem IsAscii.lower_action_kept (ascii : rule.IsAscii) :
    rule.kept.action.toList.map Char.toLower = rule.action.toList.map Char.toLower := by
  rw [ascii.toList_action_kept, List.map_map]
  exact List.map_congr_left fun c hc => (upper_of_ascii (ascii c hc)).1

/-- A rule applies where it matches. -/
theorem applies_kept_iff (ascii : rule.IsAscii) :
    rule.kept.applies path action = true ↔ rule.Matches path action := by
  rw [applies, Bool.and_eq_true, coversAction, Bool.or_eq_true, decide_eq_true_eq,
    decide_eq_true_eq, ascii.action_kept_eq_iff, ascii.lower_action_kept, fits_iff]
  exact ⟨fun ⟨action, pattern⟩ => ⟨action, pattern⟩, fun ⟨action, pattern⟩ => ⟨action, pattern⟩⟩

/-- The weight puts rules into the order of their keys. -/
theorem weight_kept_le_iff (asciiA : a.IsAscii) (asciiB : b.IsAscii) :
    a.kept.weight ≤ b.kept.weight ↔ a.key ≤ b.key := by
  have hlength (rule : PolicyRule) : rule.kept.length = rule.length := rfl
  simp only [weight, key, hlength, asciiA.action_kept_eq_iff, asciiB.action_kept_eq_iff,
    Prod.Lex.toLex_le_toLex]
  by_cases anyA : a.action = anyAction <;> by_cases anyB : b.action = anyAction <;>
    simp [anyA, anyB, Bool.le_iff_imp] <;> omega

theorem weight_kept_lt_iff (asciiA : a.IsAscii) (asciiB : b.IsAscii) :
    a.kept.weight < b.kept.weight ↔ a.key < b.key := by
  rw [← not_le, ← not_le, weight_kept_le_iff asciiB asciiA]

/-! ## A slash at the end of a pattern -/

/-- A rule with one more slash at the end of its pattern. -/
def slashed (rule : PolicyRule) : PolicyRule := { rule with pattern := rule.pattern ++ "/" }

/-- The slash adds an empty segment. -/
theorem segments_slashed (rule : PolicyRule) :
    segments rule.slashed.pattern = segments rule.pattern ++ [[]] := by
  have hslash := segments_append_slash rule.pattern ""
  rwa [String.append_empty] at hslash

@[simp] theorem key_slashed (rule : PolicyRule) : rule.slashed.key = rule.key := by
  have hlength : rule.slashed.length = rule.length := by
    rw [length, length, segments_slashed, List.countP_append]
    rfl
  rw [key, key, hlength]
  rfl

@[simp] theorem matches_slashed : rule.slashed.Matches path action ↔ rule.Matches path action := by
  have hplace (place : Nat) (expected : Segment) (filled : expected ≠ []) :
      (segments rule.slashed.pattern)[place]? = some expected ↔
        (segments rule.pattern)[place]? = some expected := by
    rw [segments_slashed]
    grind
  constructor
  · rintro ⟨haction, hpattern⟩
    exact ⟨haction, fun place expected found filled =>
      hpattern place expected ((hplace place expected filled).mpr found) filled⟩
  · rintro ⟨haction, hpattern⟩
    exact ⟨haction, fun place expected found filled =>
      hpattern place expected ((hplace place expected filled).mp found) filled⟩

end PolicyRule

/-! ## The rule on top -/

namespace RolePolicy

variable {rules front back : List PolicyRule} {rule : PolicyRule} {path action : String}

/-- The policy of some rules, added one after the other. -/
def ofRules (rules : List PolicyRule) : RolePolicy :=
  rules.foldl (fun policy rule => policy.add rule.action rule.pattern rule.role) empty

/-- The policy keeps the rules in their order. -/
theorem ofRules_eq (rules : List PolicyRule) : ofRules rules = ⟨rules.map PolicyRule.kept⟩ := by
  have hfold (policy : RolePolicy) :
      rules.foldl (fun policy rule => policy.add rule.action rule.pattern rule.role) policy =
        ⟨policy.rules ++ rules.map PolicyRule.kept⟩ := by
    induction rules generalizing policy with
    | nil => simp
    | cons rule rules ih =>
      rw [List.foldl_cons, ih]
      simp [add, PolicyRule.kept]
  exact hfold empty

/-- The rule of a list that decides on a request: it matches, no rule in front of it that matches
goes before it, and it goes before those behind it that match. -/
structure Decides (rules : List PolicyRule) (path action : String) (rule : PolicyRule) : Prop where
  matching : rule.Matches path action
  last : ∃ front back, rules = front ++ rule :: back ∧
    (∀ other ∈ front, other.Matches path action → other.key ≤ rule.key) ∧
    ∀ other ∈ back, other.Matches path action → other.key < rule.key

theorem Decides.mem (decides : Decides rules path action rule) : rule ∈ rules := by
  obtain ⟨-, front, back, rfl, -, -⟩ := decides
  simp

/-- No rule that matches goes before the one that decides. -/
theorem Decides.key_le (decides : Decides rules path action rule) {other : PolicyRule}
    (mem : other ∈ rules) (matching : other.Matches path action) : other.key ≤ rule.key := by
  obtain ⟨-, front, back, rfl, hfront, hback⟩ := decides
  rcases List.mem_append.mp mem with mem | mem
  · exact hfront other mem matching
  · rcases List.mem_cons.mp mem with rfl | mem
    · exact le_rfl
    · exact (hback other mem matching).le

/-- A rule that matches and that no other one equals in its key decides once none goes before it,
wherever it stands. -/
theorem decides_of_key_le (distinct : rules.Pairwise fun a b => a.key ≠ b.key) (mem : rule ∈ rules)
    (matching : rule.Matches path action)
    (top : ∀ other ∈ rules, other.Matches path action → other.key ≤ rule.key) :
    Decides rules path action rule := by
  obtain ⟨front, back, rfl⟩ := List.append_of_mem mem
  refine ⟨matching, front, back, rfl, ?_, ?_⟩
  · intro other hother
    exact top other (List.mem_append_left _ hother)
  · intro other hother hmatches
    have hbehind := (List.pairwise_cons.mp (List.pairwise_append.mp distinct).2.1).1
    exact lt_of_le_of_ne (top other (by simp [hother]) hmatches) (hbehind other hother).symm

/-- A rule that does not come out on top changes nothing for the one that does. -/
theorem Decides.concat {other : PolicyRule} (decides : Decides rules path action rule)
    (below : other.Matches path action → other.key < rule.key) :
    Decides (rules ++ [other]) path action rule := by
  obtain ⟨matching, front, back, rfl, hfront, hback⟩ := decides
  refine ⟨matching, front, back ++ [other], by simp, hfront, ?_⟩
  intro next hnext hmatches
  rcases List.mem_append.mp hnext with hnext | hnext
  · exact hback next hnext hmatches
  · rw [List.mem_singleton.mp hnext] at hmatches ⊢
    exact below hmatches

/-- The rule added last decides if it matches and none that matches goes before it. -/
theorem decides_concat (matching : rule.Matches path action)
    (top : ∀ other ∈ rules, other.Matches path action → other.key ≤ rule.key) :
    Decides (rules ++ [rule]) path action rule :=
  ⟨matching, rules, [], rfl, top, by simp⟩

/-- Where a rule matches, one decides. -/
theorem decides_or_unmatched (rules : List PolicyRule) (path action : String) :
    (∃ rule, Decides rules path action rule) ∨ ∀ rule ∈ rules, ¬rule.Matches path action := by
  induction rules using List.reverseRecOn with
  | nil => exact .inr (by simp)
  | append_singleton rules rule ih =>
    by_cases matching : rule.Matches path action
    · left
      rcases ih with ⟨best, decides⟩ | unmatched
      · rcases le_or_gt best.key rule.key with hle | hlt
        · exact ⟨rule, decides_concat matching fun other mem hother =>
            (decides.key_le mem hother).trans hle⟩
        · exact ⟨best, decides.concat fun _ => hlt⟩
      · exact ⟨rule, decides_concat matching fun other mem hother =>
          absurd hother (unmatched other mem)⟩
    · rcases ih with ⟨best, decides⟩ | unmatched
      · exact .inl ⟨best, decides.concat fun hother => absurd hother matching⟩
      · right
        intro other mem
        rcases List.mem_append.mp mem with mem | mem
        · exact unmatched other mem
        · rwa [List.mem_singleton.mp mem]

/-! ## The search finds it -/

/-- A rule is kept over lighter ones behind it. -/
theorem foldl_weightier_eq_self (hback : ∀ other ∈ back, other.weight < rule.weight) :
    back.foldl weightier rule = rule := by
  induction back with
  | nil => rfl
  | cons other back ih =>
    have hlighter : ¬rule.weight ≤ other.weight := by
      have := hback other List.mem_cons_self
      omega
    rw [List.foldl_cons, weightier, if_neg hlighter]
    exact ih fun next mem => hback next (List.mem_cons_of_mem _ mem)

/-- A rule takes over from those in front of it that are no heavier. -/
theorem foldl_weightier_append_cons {first : PolicyRule} (hfirst : first.weight ≤ rule.weight)
    (hfront : ∀ other ∈ front, other.weight ≤ rule.weight)
    (hback : ∀ other ∈ back, other.weight < rule.weight) :
    (front ++ rule :: back).foldl weightier first = rule := by
  induction front generalizing first with
  | nil => rw [List.nil_append, List.foldl_cons, weightier, if_pos hfirst,
      foldl_weightier_eq_self hback]
  | cons other front ih =>
    have hother := hfront other List.mem_cons_self
    refine ih ?_ fun next mem => hfront next (List.mem_cons_of_mem _ mem)
    rw [weightier]
    split <;> assumption

/-- A rule that is no lighter than those in front of it and heavier than those behind it is the
weightiest. -/
theorem weightiest?_append_cons (hfront : ∀ other ∈ front, other.weight ≤ rule.weight)
    (hback : ∀ other ∈ back, other.weight < rule.weight) :
    weightiest? (front ++ rule :: back) = some rule := by
  cases front with
  | nil => rw [List.nil_append, weightiest?, foldl_weightier_eq_self hback]
  | cons first front =>
    rw [List.cons_append, weightiest?, foldl_weightier_append_cons (hfront first List.mem_cons_self)
      (fun other mem => hfront other (List.mem_cons_of_mem _ mem)) hback]

/-- The answer is the role of the rule that decides. -/
theorem requiredRole_of_decides (ascii : ∀ rule ∈ rules, rule.IsAscii)
    (decides : Decides rules path action rule) :
    (ofRules rules).requiredRole path action = rule.role := by
  have hrule := ascii rule decides.mem
  obtain ⟨matching, front, back, rfl, hfront, hback⟩ := decides
  have happlies : rule.kept.applies path action = true :=
    (PolicyRule.applies_kept_iff hrule).mpr matching
  -- What is left of the rules around it are those that match.
  have hsplit : ((front ++ rule :: back).map PolicyRule.kept).filter (·.applies path action) =
      (front.map PolicyRule.kept).filter (·.applies path action) ++ rule.kept ::
        (back.map PolicyRule.kept).filter (·.applies path action) := by
    rw [List.map_append, List.filter_append, List.map_cons, List.filter_cons, if_pos happlies]
  have hbest : weightiest? (((front ++ rule :: back).map PolicyRule.kept).filter
      (·.applies path action)) = some rule.kept := by
    rw [hsplit]
    refine weightiest?_append_cons ?_ ?_
    · intro kept hkept
      obtain ⟨hmem, happlies⟩ := List.mem_filter.mp hkept
      obtain ⟨other, mem, rfl⟩ := List.mem_map.mp hmem
      have hother := ascii other (List.mem_append_left _ mem)
      exact (PolicyRule.weight_kept_le_iff hother hrule).mpr
        (hfront other mem ((PolicyRule.applies_kept_iff hother).mp happlies))
    · intro kept hkept
      obtain ⟨hmem, happlies⟩ := List.mem_filter.mp hkept
      obtain ⟨other, mem, rfl⟩ := List.mem_map.mp hmem
      have hother := ascii other (List.mem_append_right _ (List.mem_cons_of_mem _ mem))
      exact (PolicyRule.weight_kept_lt_iff hother hrule).mpr
        (hback other mem ((PolicyRule.applies_kept_iff hother).mp happlies))
  rw [ofRules_eq, requiredRole, hbest]
  rfl

/-- Where no rule matches every role is enough. -/
theorem requiredRole_of_unmatched (ascii : ∀ rule ∈ rules, rule.IsAscii)
    (unmatched : ∀ rule ∈ rules, ¬rule.Matches path action) :
    (ofRules rules).requiredRole path action = .user := by
  have hnone : (rules.map PolicyRule.kept).filter (·.applies path action) = [] := by
    rw [List.filter_eq_nil_iff]
    intro kept mem
    obtain ⟨rule, hrule, rfl⟩ := List.mem_map.mp mem
    rw [PolicyRule.applies_kept_iff (ascii rule hrule)]
    exact unmatched rule hrule
  rw [ofRules_eq, requiredRole, hnone, weightiest?]

/-- The answer is the role of the rule that decides, or the least role where none matches. -/
theorem requiredRole_eq_iff (ascii : ∀ rule ∈ rules, rule.IsAscii) {role : Role} :
    (ofRules rules).requiredRole path action = role ↔
      (∃ rule, Decides rules path action rule ∧ rule.role = role) ∨
      (∀ rule ∈ rules, ¬rule.Matches path action) ∧ role = .user := by
  rcases decides_or_unmatched rules path action with ⟨rule, decides⟩ | unmatched
  · rw [requiredRole_of_decides ascii decides]
    constructor
    · intro hrole
      exact .inl ⟨rule, decides, hrole⟩
    · rintro (⟨other, hother, rfl⟩ | ⟨unmatched, -⟩)
      · rw [← requiredRole_of_decides ascii decides, requiredRole_of_decides ascii hother]
      · exact absurd decides.matching (unmatched rule decides.mem)
  · rw [requiredRole_of_unmatched ascii unmatched]
    constructor
    · rintro rfl
      exact .inr ⟨unmatched, rfl⟩
    · rintro (⟨rule, decides, -⟩ | ⟨-, rfl⟩)
      · exact absurd decides.matching (unmatched rule decides.mem)
      · rfl

/-! ## What plays no part -/

/-- The order of rules that compare differently plays no part. -/
theorem requiredRole_perm (ascii : ∀ rule ∈ rules, rule.IsAscii)
    (distinct : rules.Pairwise fun a b => a.key ≠ b.key) {others : List PolicyRule}
    (perm : rules.Perm others) :
    (ofRules others).requiredRole path action = (ofRules rules).requiredRole path action := by
  have hascii : ∀ rule ∈ others, rule.IsAscii := fun rule mem => ascii rule (perm.mem_iff.mpr mem)
  rcases decides_or_unmatched rules path action with ⟨rule, decides⟩ | unmatched
  · have hdistinct := distinct.perm perm fun h => h.symm
    have hothers := decides_of_key_le hdistinct (perm.mem_iff.mp decides.mem) decides.matching
      fun other mem => decides.key_le (perm.mem_iff.mpr mem)
    rw [requiredRole_of_decides ascii decides, requiredRole_of_decides hascii hothers]
  · rw [requiredRole_of_unmatched ascii unmatched, requiredRole_of_unmatched hascii
      fun rule mem => unmatched rule (perm.mem_iff.mpr mem)]

/-- A rule plays no part where it does not match. -/
theorem requiredRole_insert (ascii : rule.IsAscii) (unmatched : ¬rule.Matches path action) :
    (ofRules (front ++ rule :: back)).requiredRole path action =
      (ofRules (front ++ back)).requiredRole path action := by
  have hdropped : ((front ++ rule :: back).map PolicyRule.kept).filter (·.applies path action) =
      ((front ++ back).map PolicyRule.kept).filter (·.applies path action) := by
    have happlies : ¬rule.kept.applies path action = true :=
      mt (PolicyRule.applies_kept_iff ascii).mp unmatched
    rw [List.map_append, List.map_cons, List.filter_append, List.filter_cons, if_neg happlies,
      ← List.filter_append, ← List.map_append]
  rw [ofRules_eq, ofRules_eq, requiredRole, requiredRole, hdropped]

/-- Two rules of one weight and one role that apply to a request or do not, both. -/
structure Alike (path action : String) (a b : PolicyRule) : Prop where
  applies : a.applies path action = true ↔ b.applies path action = true
  weight : a.weight = b.weight
  role : a.role = b.role

/-- Rule by rule alike, two policies ask for the same role. -/
theorem requiredRole_congr {policy other : RolePolicy}
    (alike : List.Forall₂ (Alike path action) policy.rules other.rules) :
    policy.requiredRole path action = other.requiredRole path action := by
  have hfilter : List.Forall₂ (Alike path action) (policy.rules.filter (·.applies path action))
      (other.rules.filter (·.applies path action)) :=
    List.rel_filter (fun _ _ h => h.applies) alike
  have hweightier ⦃a b : PolicyRule⦄ (h : Alike path action a b) ⦃c d : PolicyRule⦄
      (h' : Alike path action c d) : Alike path action (weightier a c) (weightier b d) := by
    rw [weightier, weightier, h.weight, h'.weight]
    split <;> assumption
  rw [requiredRole, requiredRole]
  generalize policy.rules.filter (·.applies path action) = rules at hfilter ⊢
  generalize other.rules.filter (·.applies path action) = others at hfilter ⊢
  cases hfilter with
  | nil => rfl
  | cons hhead htail => exact (List.rel_foldl hweightier hhead htail).role

/-- A slash at the end of a pattern plays no part. -/
theorem requiredRole_slashed (ascii : ∀ rule ∈ rules, rule.IsAscii) {others : List PolicyRule}
    (slashes : List.Forall₂ (fun a b => b = a ∨ b = a.slashed) rules others) :
    (ofRules others).requiredRole path action = (ofRules rules).requiredRole path action := by
  have halike (rule : PolicyRule) (h : rule.IsAscii) :
      Alike path action rule.slashed.kept rule.kept := by
    have hslashed : rule.slashed.IsAscii := h
    refine ⟨?_, ?_, rfl⟩
    · rw [PolicyRule.applies_kept_iff hslashed, PolicyRule.applies_kept_iff h,
        PolicyRule.matches_slashed]
    · apply le_antisymm
      · exact (PolicyRule.weight_kept_le_iff hslashed h).mpr (PolicyRule.key_slashed rule).le
      · exact (PolicyRule.weight_kept_le_iff h hslashed).mpr (PolicyRule.key_slashed rule).ge
  rw [ofRules_eq, ofRules_eq]
  refine (requiredRole_congr ?_).symm
  rw [List.forall₂_map_left_iff, List.forall₂_map_right_iff]
  refine List.Forall₂.imp ?_ ((List.forall₂_and_left rules others).mpr ⟨ascii, slashes⟩)
  rintro a b ⟨hascii, rfl | rfl⟩
  · exact ⟨Iff.rfl, rfl, rfl⟩
  · exact ⟨(halike a hascii).applies.symm, (halike a hascii).weight.symm, rfl⟩

/-- The longest rule decides. The answer is the role of the rule that comes last among those that
match, have most segments and of these, if any does, name the action; where no rule matches every
role is enough. A slash more at the end of patterns changes nothing, nor does another order of rules
that compare differently, and a rule that is added anywhere changes nothing for the requests that it
does not match. -/
theorem longest_decides (ascii : ∀ rule ∈ rules, rule.IsAscii) (path action : String) :
    (∀ role, (ofRules rules).requiredRole path action = role ↔
      (∃ rule, Decides rules path action rule ∧ rule.role = role) ∨
      (∀ rule ∈ rules, ¬rule.Matches path action) ∧ role = .user) ∧
    (∀ others, List.Forall₂ (fun a b => b = a ∨ b = a.slashed) rules others →
      (ofRules others).requiredRole path action = (ofRules rules).requiredRole path action) ∧
    (rules.Pairwise (fun a b => a.key ≠ b.key) → ∀ others, rules.Perm others →
      (ofRules others).requiredRole path action = (ofRules rules).requiredRole path action) ∧
    ∀ rule front back, rule.IsAscii → rules = front ++ back → ¬rule.Matches path action →
      (ofRules (front ++ rule :: back)).requiredRole path action =
        (ofRules rules).requiredRole path action := by
  refine ⟨fun role => requiredRole_eq_iff ascii, fun others => requiredRole_slashed ascii,
    fun distinct others => requiredRole_perm ascii distinct, ?_⟩
  rintro rule front back hrule rfl unmatched
  exact requiredRole_insert hrule unmatched

namespace FileRules

/-- Everything below some folder needs an administrator. -/
def folder : PolicyRule := ⟨"*", "/files/{folder}", .admin⟩

/-- Reading whatever is shared is open. -/
def shared : PolicyRule := ⟨"get", "/{area}/shared", .user⟩

/-- Replacing what is shared is not. -/
def replaced : PolicyRule := ⟨"put", "/files/shared/7", .super⟩

/-- Of two rules of one length that match, the one that names the action decides, whichever was
added first and whatever slash stands behind it, and a longer rule for another action stays out
of it. -/
theorem longest_decides_shared :
    (∀ rule ∈ [folder, shared], rule.IsAscii) ∧
    Decides [folder, shared] "/files/shared/7" "GET" shared ∧
    ¬replaced.Matches "/files/shared/7" "GET" ∧
    (ofRules [folder, shared]).requiredRole "/files/shared/7" "GET" = .user ∧
    (ofRules [folder, shared.slashed]).requiredRole "/files/shared/7" "GET" = .user ∧
    (ofRules [shared, folder]).requiredRole "/files/shared/7" "GET" = .user ∧
    (ofRules [folder, replaced, shared]).requiredRole "/files/shared/7" "GET" = .user := by
  have ascii : ∀ rule ∈ [folder, shared], rule.IsAscii := by decide
  have hshared : shared.Matches "/files/shared/7" "GET" :=
    (PolicyRule.applies_kept_iff (by decide)).mp (by decide +kernel)
  have hreplaced : ¬replaced.Matches "/files/shared/7" "GET" :=
    mt (PolicyRule.applies_kept_iff (by decide)).mpr (by decide +kernel)
  have hkeys : folder.key < shared.key := by decide +kernel
  have hfolder : ∀ other ∈ [folder], other.Matches "/files/shared/7" "GET" →
      other.key ≤ shared.key := by
    intro other mem _
    rw [List.mem_singleton.mp mem]
    exact hkeys.le
  have hdecides : Decides [folder, shared] "/files/shared/7" "GET" shared :=
    decides_concat hshared hfolder
  obtain ⟨hrole, hslash, horder, hadded⟩ := longest_decides ascii "/files/shared/7" "GET"
  have huser := (hrole .user).mpr (.inl ⟨shared, hdecides, rfl⟩)
  refine ⟨ascii, hdecides, hreplaced, huser, ?_, ?_, ?_⟩
  · exact (hslash _ (.cons (.inl rfl) (.cons (.inr rfl) .nil))).trans huser
  · exact (horder (by simpa using hkeys.ne) _ (.swap shared folder [])).trans huser
  · exact (hadded replaced [folder] [shared] (by decide) rfl hreplaced).trans huser

end FileRules

end RolePolicy

end SessionAuth
