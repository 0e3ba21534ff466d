import Remediation.Policy.Validate
import Remediation.Proofs.Policy.Nesting
import Remediation.Proofs.Table

/-! What is reported of a policy before it is run. A resource type is reported as unknown exactly if
the policy or a policy inside of it, at any depth, asks for it, and a policy without problems has
only actions that are known and take their parameters.
-/

namespace Remediation

variable {σ : Type}

-----------------------------------------------------------------------------------------
-- Problems of nested policies
-----------------------------------------------------------------------------------------

mutual

/-- The nested problems of a tree are those of the policies inside of it, in their order. -/
theorem Filter.nestedProblems_eq_flatMap (resources : ResourceRegistry) (schemas : SchemaTable)
    (filter : Filter)
    : filter.nestedProblems resources schemas
      = filter.missingPolicies.flatMap (Policy.problems resources schemas) := by
  cases filter with
  | missing policy => simp [Filter.nestedProblems, Filter.missingPolicies]
  | all filters =>
      simpa only [Filter.nestedProblems, Filter.missingPolicies]
        using Filter.nestedProblemsOfAll_eq_flatMap resources schemas filters
  | any filters =>
      simpa only [Filter.nestedProblems, Filter.missingPolicies]
        using Filter.nestedProblemsOfAll_eq_flatMap resources schemas filters
  | negation filter =>
      simpa only [Filter.nestedProblems, Filter.missingPolicies]
        using filter.nestedProblems_eq_flatMap resources schemas
  | value _ | listItem _ _ _ | namespaceMetric _ _ =>
      simp [Filter.nestedProblems, Filter.missingPolicies]

theorem Filter.nestedProblemsOfAll_eq_flatMap (resources : ResourceRegistry)
    (schemas : SchemaTable) (filters : List Filter)
    : Filter.nestedProblemsOfAll resources schemas filters
      = (Filter.missingPoliciesOfAll filters).flatMap (Policy.problems resources schemas) := by
  cases filters with
  | nil => simp [Filter.nestedProblemsOfAll, Filter.missingPoliciesOfAll]
  | cons filter rest =>
      simp only [Filter.nestedProblemsOfAll, Filter.missingPoliciesOfAll, List.flatMap_append,
        filter.nestedProblems_eq_flatMap resources schemas,
        Filter.nestedProblemsOfAll_eq_flatMap resources schemas rest]

end

/-- The problems of filters are their own ones and those of the policies inside of them. -/
theorem Filter.mem_problemsWithin_iff {resources : ResourceRegistry} {schemas : SchemaTable}
    {problem : PolicyProblem} (filters : List Filter)
    : problem ∈ Filter.problemsWithin resources schemas filters
      ↔ (∃ filter ∈ filters, ∃ own ∈ filter.problems, .filter own = problem)
        ∨ ∃ inner ∈ Filter.missingPoliciesOfAll filters,
            problem ∈ inner.problems resources schemas := by
  induction filters with
  | nil => simp [Filter.problemsWithin, Filter.missingPoliciesOfAll]
  | cons filter rest ih =>
      simp only [Filter.problemsWithin, Filter.missingPoliciesOfAll, List.mem_append,
        List.mem_map, List.mem_cons, ih, filter.nestedProblems_eq_flatMap, List.mem_flatMap,
        or_and_right, exists_or, exists_eq_left]
      exact or_or_or_comm

/-- The problems of a policy are that its type is unknown, and those of its filters, of the policies
right inside of it and of its actions. -/
theorem Policy.mem_problems_iff {resources : ResourceRegistry} {schemas : SchemaTable}
    {policy : Policy} {problem : PolicyProblem}
    : problem ∈ policy.problems resources schemas
      ↔ (resources.get? policy.resource = none ∧ problem = .unknownResource policy.resource)
        ∨ (∃ filter ∈ policy.filters, ∃ own ∈ filter.problems, .filter own = problem)
        ∨ (∃ inner ∈ policy.nested, problem ∈ inner.problems resources schemas)
        ∨ ∃ spec ∈ policy.actions, problem ∈ spec.problems schemas := by
  cases policy with
  | mk _ resource _ filters actions _ _ =>
      simp only [Policy.problems, Policy.nested, List.mem_append, Filter.mem_problemsWithin_iff,
        List.mem_flatMap, or_assoc]
      refine or_congr_left ?_
      cases resources.get? resource with
      | none => simp
      | some _ => simp

/-- The problems of an action are about the action alone. -/
theorem ActionSpec.eq_of_mem_problems {schemas : SchemaTable} {spec : ActionSpec}
    {problem : PolicyProblem} (reported : problem ∈ spec.problems schemas)
    : (∃ error, problem = .parameters error) ∨ problem = .unknownAction spec.name := by
  unfold ActionSpec.problems at reported
  cases known : Table.get? schemas spec.name with
  | none =>
      rw [known] at reported
      exact .inr (List.mem_singleton.mp reported)
  | some schema =>
      simp only [known] at reported
      cases checked : spec.check schema with
      | ok _ =>
          rw [checked] at reported
          cases reported
      | error error =>
          rw [checked] at reported
          exact .inl ⟨error, List.mem_singleton.mp reported⟩

-----------------------------------------------------------------------------------------
-- Unknown types and nesting
-----------------------------------------------------------------------------------------

/-- A type is reported as unknown exactly if some policy of the tree asks for it and it is not
registered. Witness: induction over the nesting. -/
theorem Policy.unknownResource_mem_problems_iff (resources : ResourceRegistry)
    (schemas : SchemaTable) {name : String} (policy : Policy)
    : .unknownResource name ∈ policy.problems resources schemas
      ↔ ∃ inner,
          policy.Contains inner ∧ inner.resource = name ∧ resources.get? name = none := by
  induction policy using Policy.nesting_induction with
  | step policy ih =>
      rw [Policy.mem_problems_iff]
      constructor
      · rintro (⟨unknown, same⟩ | ⟨_, _, _, _, same⟩ | ⟨inner, nested, reported⟩
          | ⟨spec, _, reported⟩)
        · cases same
          exact ⟨policy, .self policy, rfl, unknown⟩
        · cases same
        · obtain ⟨deeper, below, asked, unknown⟩ := (ih inner nested).mp reported
          exact ⟨deeper, .inside nested below, asked, unknown⟩
        · rcases ActionSpec.eq_of_mem_problems reported with ⟨_, same⟩ | same <;> cases same
      · rintro ⟨deeper, below, rfl, unknown⟩
        cases below with
        | self => exact .inl ⟨unknown, rfl⟩
        | @inside _ inner _ nested below =>
            exact .inr (.inr (.inl
              ⟨inner, nested, (ih inner nested).mpr ⟨deeper, below, rfl, unknown⟩⟩))

/-- How deep a policy is nested is looked at once and for all, not at every level. -/
theorem Policy.nestingTooDeep_not_mem_problems (resources : ResourceRegistry)
    (schemas : SchemaTable) (depth most : Nat) (policy : Policy)
    : .nestingTooDeep depth most ∉ policy.problems resources schemas := by
  induction policy using Policy.nesting_induction with
  | step policy ih =>
      rw [Policy.mem_problems_iff]
      rintro (⟨_, same⟩ | ⟨_, _, _, _, same⟩ | ⟨inner, nested, reported⟩ | ⟨spec, _, reported⟩)
      · cases same
      · cases same
      · exact ih inner nested reported
      · rcases ActionSpec.eq_of_mem_problems reported with ⟨_, same⟩ | same <;> cases same

section Validate

variable {resources : ResourceRegistry} {schemas : SchemaTable} {maxDepth : Nat} {policy : Policy}

theorem Policy.unknownResource_mem_validate_iff {name : String}
    : .unknownResource name ∈ policy.validate resources schemas maxDepth
      ↔ ∃ inner,
          policy.Contains inner ∧ inner.resource = name ∧ resources.get? name = none := by
  rw [← policy.unknownResource_mem_problems_iff resources schemas]
  simp only [Policy.validate, List.mem_append]
  constructor
  · rintro ((unnamed | deep) | reported)
    · split at unnamed <;> simp at unnamed
    · split at deep <;> simp at deep
    · exact reported
  · exact .inr

theorem Policy.nestingTooDeep_mem_validate_iff {depth most : Nat}
    : .nestingTooDeep depth most ∈ policy.validate resources schemas maxDepth
      ↔ maxDepth < policy.nestingDepth ∧ depth = policy.nestingDepth ∧ most = maxDepth := by
  simp only [Policy.validate, List.mem_append,
    policy.nestingTooDeep_not_mem_problems resources schemas depth most, or_false]
  constructor
  · rintro (unnamed | deep)
    · split at unnamed <;> simp at unnamed
    · split at deep
      · rename_i beyond
        simp only [List.mem_singleton, PolicyProblem.nestingTooDeep.injEq] at deep
        exact ⟨beyond, deep⟩
      · cases deep
  · rintro ⟨beyond, rfl, rfl⟩
    exact .inr (by simp [beyond])

/-- A policy without problems is not nested too deep, all types in its tree are known, and its
actions have no problems. -/
theorem Policy.of_validate_eq_nil (clean : policy.validate resources schemas maxDepth = [])
    : policy.nestingDepth ≤ maxDepth
      ∧ (∀ inner, policy.Contains inner → ∃ resource, resources.get? inner.resource = some resource)
      ∧ ∀ spec ∈ policy.actions, spec.problems schemas = [] := by
  refine ⟨?_, ?_, ?_⟩
  · refine Nat.le_of_not_lt (fun beyond => ?_)
    have reported : .nestingTooDeep _ _ ∈ policy.validate resources schemas maxDepth :=
      Policy.nestingTooDeep_mem_validate_iff.mpr ⟨beyond, rfl, rfl⟩
    rw [clean] at reported
    cases reported
  · intro inner inside
    cases known : resources.get? inner.resource with
    | some resource => exact ⟨resource, rfl⟩
    | none =>
        have reported : .unknownResource _ ∈ policy.validate resources schemas maxDepth :=
          Policy.unknownResource_mem_validate_iff.mpr ⟨inner, inside, rfl, known⟩
        rw [clean] at reported
        cases reported
  · intro spec member
    refine List.eq_nil_iff_forall_not_mem.mpr (fun problem own => ?_)
    have reported : problem ∈ policy.validate resources schemas maxDepth := by
      refine List.mem_append_right _ ?_
      exact Policy.mem_problems_iff.mpr (.inr (.inr (.inr ⟨spec, member, own⟩)))
    rw [clean] at reported
    cases reported

end Validate

end Remediation
