import Remediation.Filter.Matcher
import Remediation.Proofs.Policy.Nesting

/-! Policies without the actions of the policies inside of them. A filter for what is missing may
hold a policy with actions; erasing these at every level leaves what the filters select as it is.
-/

namespace Remediation

mutual

/-- A filter in which no policy has an action, at whatever level. -/
def Filter.withoutActions : Filter → Filter
  | .missing policy => .missing policy.withoutActions
  | .listItem key attributes count => .listItem key (Filter.allWithoutActions attributes) count
  | .all filters => .all (Filter.allWithoutActions filters)
  | .any filters => .any (Filter.allWithoutActions filters)
  | .negation filter => .negation filter.withoutActions
  | .value filter => .value filter
  | .namespaceMetric namespaces metricNames => .namespaceMetric namespaces metricNames

def Filter.allWithoutActions : List Filter → List Filter
  | [] => []
  | filter :: rest => filter.withoutActions :: Filter.allWithoutActions rest

/-- A policy that has no action and has none inside of it. -/
def Policy.withoutActions : Policy → Policy
  | ⟨name, resource, description, filters, _, maxResources, maxPercent⟩ =>
      ⟨name, resource, description, Filter.allWithoutActions filters, [], maxResources, maxPercent⟩

end

/-- A policy that has its own actions only: those of the policies inside of it are erased. -/
def Policy.withoutNestedActions (policy : Policy) : Policy :=
  { policy with filters := Filter.allWithoutActions policy.filters }

mutual

theorem Filter.missingPolicies_withoutActions (filter : Filter)
    : filter.withoutActions.missingPolicies = filter.missingPolicies.map Policy.withoutActions := by
  cases filter with
  | missing policy => simp [Filter.withoutActions, Filter.missingPolicies]
  | all filters =>
      simpa only [Filter.withoutActions, Filter.missingPolicies]
        using Filter.missingPoliciesOfAll_withoutActions filters
  | any filters =>
      simpa only [Filter.withoutActions, Filter.missingPolicies]
        using Filter.missingPoliciesOfAll_withoutActions filters
  | negation filter =>
      simpa only [Filter.withoutActions, Filter.missingPolicies]
        using filter.missingPolicies_withoutActions
  | value _ | listItem _ _ _ | namespaceMetric _ _ =>
      simp [Filter.withoutActions, Filter.missingPolicies]

theorem Filter.missingPoliciesOfAll_withoutActions (filters : List Filter)
    : Filter.missingPoliciesOfAll (Filter.allWithoutActions filters)
      = (Filter.missingPoliciesOfAll filters).map Policy.withoutActions := by
  cases filters with
  | nil => rfl
  | cons filter rest =>
      simp only [Filter.allWithoutActions, Filter.missingPoliciesOfAll, List.map_append,
        filter.missingPolicies_withoutActions, Filter.missingPoliciesOfAll_withoutActions rest]

end

mutual

theorem Filter.nestingDepth_withoutActions (filter : Filter)
    : filter.withoutActions.nestingDepth = filter.nestingDepth := by
  cases filter with
  | missing policy =>
      simp only [Filter.withoutActions, Filter.nestingDepth, policy.nestingDepth_withoutActions]
  | all filters =>
      simpa only [Filter.withoutActions, Filter.nestingDepth]
        using Filter.nestingDepthOfAll_withoutActions filters
  | any filters =>
      simpa only [Filter.withoutActions, Filter.nestingDepth]
        using Filter.nestingDepthOfAll_withoutActions filters
  | negation filter =>
      simpa only [Filter.withoutActions, Filter.nestingDepth]
        using filter.nestingDepth_withoutActions
  | value _ | listItem _ _ _ | namespaceMetric _ _ =>
      simp only [Filter.withoutActions, Filter.nestingDepth]

theorem Filter.nestingDepthOfAll_withoutActions (filters : List Filter)
    : Filter.nestingDepthOfAll (Filter.allWithoutActions filters)
      = Filter.nestingDepthOfAll filters := by
  cases filters with
  | nil => simp only [Filter.allWithoutActions]
  | cons filter rest =>
      simp only [Filter.allWithoutActions, Filter.nestingDepthOfAll,
        filter.nestingDepth_withoutActions, Filter.nestingDepthOfAll_withoutActions rest]

theorem Policy.nestingDepth_withoutActions (policy : Policy)
    : policy.withoutActions.nestingDepth = policy.nestingDepth := by
  cases policy with
  | mk name resource description filters actions maxResources maxPercent =>
      simpa only [Policy.withoutActions, Policy.nestingDepth]
        using Filter.nestingDepthOfAll_withoutActions filters

end

mutual

/-- A filter is compiled to the same matcher without the actions, from whatever sets there are. -/
theorem Matcher.compile_withoutActions (idField : String) (filter : Filter)
    (sets : List IdentitySet)
    : Matcher.compile idField filter.withoutActions sets = Matcher.compile idField filter sets := by
  cases filter with
  | missing policy => cases sets <;> simp only [Filter.withoutActions, Matcher.compile]
  | listItem key attributes count =>
      simp only [Filter.withoutActions, Matcher.compile,
        Matcher.compileAttributes_withoutActions attributes]
  | all filters =>
      simp only [Filter.withoutActions, Matcher.compile,
        Matcher.compileAll_withoutActions idField filters sets]
  | any filters =>
      simp only [Filter.withoutActions, Matcher.compile,
        Matcher.compileAll_withoutActions idField filters sets]
  | negation filter =>
      simp only [Filter.withoutActions, Matcher.compile,
        Matcher.compile_withoutActions idField filter sets]
  | value _ | namespaceMetric _ _ => simp only [Filter.withoutActions, Matcher.compile]

theorem Matcher.compileAll_withoutActions (idField : String) (filters : List Filter)
    (sets : List IdentitySet)
    : Matcher.compileAll idField (Filter.allWithoutActions filters) sets
      = Matcher.compileAll idField filters sets := by
  cases filters with
  | nil => simp only [Filter.allWithoutActions]
  | cons filter rest =>
      simp only [Filter.allWithoutActions, Matcher.compileAll,
        Matcher.compile_withoutActions idField filter,
        Matcher.compileAll_withoutActions idField rest]

theorem Matcher.compileAttributes_withoutActions (attributes : List Filter)
    : Matcher.compileAttributes (Filter.allWithoutActions attributes)
      = Matcher.compileAttributes attributes := by
  cases attributes with
  | nil => simp only [Filter.allWithoutActions]
  | cons filter rest =>
      simp only [Filter.allWithoutActions, Matcher.compileAttributes,
        Matcher.compile_withoutActions "id" filter,
        Matcher.compileAttributes_withoutActions rest]

end

end Remediation
