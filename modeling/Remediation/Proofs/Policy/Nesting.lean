import Remediation.Policy.Basic

/-! Policies inside of policies. A filter for what is missing holds a policy of its own, so that
policies nest to any depth; what holds level by level is proved by one induction over that nesting.
-/

namespace Remediation

/-- The policies right inside of a policy, in the order of its filters. -/
def Policy.nested (policy : Policy) : List Policy :=
  Filter.missingPoliciesOfAll policy.filters

/-- A policy, one right inside of it, one inside of that, and so on. -/
inductive Policy.Contains : Policy → Policy → Prop
  | self (policy : Policy) : Contains policy policy
  | inside {policy inner deeper : Policy} (nested : inner ∈ policy.nested)
    (below : Contains inner deeper)
    : Contains policy deeper

mutual

/-- A policy inside of a filter is smaller than the filter. -/
theorem Filter.missingPolicies_size (filter : Filter)
    : ∀ inner ∈ filter.missingPolicies, sizeOf inner < sizeOf filter := by
  intro inner member
  cases filter with
  | missing policy =>
      have same : inner = policy := by simpa [Filter.missingPolicies] using member
      subst same
      simp
  | all filters =>
      have smaller := Filter.missingPoliciesOfAll_size filters inner
        (by simpa [Filter.missingPolicies] using member)
      simp only [Filter.all.sizeOf_spec]
      omega
  | any filters =>
      have smaller := Filter.missingPoliciesOfAll_size filters inner
        (by simpa [Filter.missingPolicies] using member)
      simp only [Filter.any.sizeOf_spec]
      omega
  | negation filter =>
      have smaller := filter.missingPolicies_size inner
        (by simpa [Filter.missingPolicies] using member)
      simp only [Filter.negation.sizeOf_spec]
      omega
  | value _ | listItem _ _ _ | namespaceMetric _ _ => simp [Filter.missingPolicies] at member

theorem Filter.missingPoliciesOfAll_size (filters : List Filter)
    : ∀ inner ∈ Filter.missingPoliciesOfAll filters, sizeOf inner < sizeOf filters := by
  intro inner member
  cases filters with
  | nil => simp [Filter.missingPoliciesOfAll] at member
  | cons filter rest =>
      simp only [List.cons.sizeOf_spec]
      rcases List.mem_append.mp (by simpa only [Filter.missingPoliciesOfAll] using member)
        with first | later
      · have smaller := filter.missingPolicies_size inner first
        omega
      · have smaller := Filter.missingPoliciesOfAll_size rest inner later
        omega

end

/-- A policy inside of another one is smaller. -/
theorem Policy.sizeOf_nested {policy inner : Policy} (nested : inner ∈ policy.nested)
    : sizeOf inner < sizeOf policy := by
  cases policy with
  | mk name resource description filters actions maxResources maxPercent =>
      have smaller := Filter.missingPoliciesOfAll_size filters inner nested
      simp only [Policy.mk.sizeOf_spec]
      omega

/-- What holds of a policy as soon as it holds of those right inside of it holds of every policy. -/
theorem Policy.nesting_induction {motive : Policy → Prop}
    (step : ∀ policy, (∀ inner ∈ policy.nested, motive inner) → motive policy)
    (policy : Policy)
    : motive policy :=
  step policy (fun inner _ => nesting_induction step inner)
termination_by sizeOf policy
decreasing_by exact Policy.sizeOf_nested ‹_›

mutual

/-- A tree is deeper than each policy inside of it, and no deeper than the deepest of them asks for.
-/
theorem Filter.nestingDepth_le_iff (filter : Filter) (bound : Nat)
    : filter.nestingDepth ≤ bound
      ↔ ∀ inner ∈ filter.missingPolicies, inner.nestingDepth < bound := by
  cases filter with
  | missing policy =>
      simp only [Filter.nestingDepth, Filter.missingPolicies, List.mem_singleton, forall_eq]
      exact Nat.succ_le_iff
  | all filters =>
      simpa only [Filter.nestingDepth, Filter.missingPolicies]
        using Filter.nestingDepthOfAll_le_iff filters bound
  | any filters =>
      simpa only [Filter.nestingDepth, Filter.missingPolicies]
        using Filter.nestingDepthOfAll_le_iff filters bound
  | negation filter =>
      simpa only [Filter.nestingDepth, Filter.missingPolicies]
        using filter.nestingDepth_le_iff bound
  | value _ | listItem _ _ _ | namespaceMetric _ _ =>
      simp [Filter.nestingDepth, Filter.missingPolicies]

theorem Filter.nestingDepthOfAll_le_iff (filters : List Filter) (bound : Nat)
    : Filter.nestingDepthOfAll filters ≤ bound
      ↔ ∀ inner ∈ Filter.missingPoliciesOfAll filters, inner.nestingDepth < bound := by
  cases filters with
  | nil => simp [Filter.nestingDepthOfAll, Filter.missingPoliciesOfAll]
  | cons filter rest =>
      simp only [Filter.nestingDepthOfAll, Filter.missingPoliciesOfAll, Nat.max_le,
        List.forall_mem_append, filter.nestingDepth_le_iff bound,
        Filter.nestingDepthOfAll_le_iff rest bound]

end

/-- The depth of a policy bounds that of the policies inside of it, one level up. -/
theorem Policy.nestingDepth_nested {policy inner : Policy} (nested : inner ∈ policy.nested)
    : inner.nestingDepth < policy.nestingDepth := by
  have bound := Filter.nestingDepthOfAll_le_iff policy.filters policy.nestingDepth
  have same : policy.nestingDepth = Filter.nestingDepthOfAll policy.filters := by
    cases policy
    rfl
  exact bound.mp (Nat.le_of_eq same.symm) inner nested

/-- What is inside of a policy on the way down is inside of the policy. -/
theorem Policy.Contains.trans {policy inner deeper : Policy} (first : policy.Contains inner)
    (second : inner.Contains deeper)
    : policy.Contains deeper := by
  induction first with
  | self => exact second
  | inside nested _ ih => exact .inside nested (ih second)

end Remediation
