import Mathlib.Algebra.GroupWithZero.Nat
import Mathlib.Algebra.Order.BigOperators.Group.List
import Mathlib.Algebra.Order.Group.Nat
import Remediation.Action.Builtin
import Remediation.Proofs.Policy.Problems

/-! How often the faults of a policy are reported. The check of a policy asks its filters for all
that is wrong in them, which takes in the filters of the policies inside of them, and then checks
these policies too. So a type or an action is reported once wherever it stands, but a fault of a
filter once for each policy that it is below.
-/

namespace Remediation

-----------------------------------------------------------------------------------------
-- Faults of a policy's own
-----------------------------------------------------------------------------------------

mutual

/-- The faults of the key paths and patterns of a tree itself, not of those in policies inside of
it.
-/
def Filter.leafProblems : Filter → List FilterProblem
  | .value filter => filter.problems
  | .listItem key attributes _ => pathProblems key ++ Filter.leafProblemsOfAll attributes
  | .missing _ => []
  | .namespaceMetric .. => []
  | .all filters => Filter.leafProblemsOfAll filters
  | .any filters => Filter.leafProblemsOfAll filters
  | .negation filter => filter.leafProblems

def Filter.leafProblemsOfAll : List Filter → List FilterProblem
  | [] => []
  | filter :: rest => filter.leafProblems ++ Filter.leafProblemsOfAll rest

end

/-- Whether an action is unknown or does not take its parameters. -/
def ActionSpec.isDefective (schemas : SchemaTable) (spec : ActionSpec) : Bool :=
  match Table.get? schemas spec.name with
  | none => true
  | some schema => !(spec.check schema).isOk

/-- How many faults a policy has besides those of its filters and of the policies inside of it. -/
def Policy.plainDefects (resources : ResourceRegistry) (schemas : SchemaTable) (policy : Policy)
    : Nat :=
  (if (resources.get? policy.resource).isSome then 0 else 1)
    + policy.actions.countP (·.isDefective schemas)

theorem ActionSpec.length_problems (schemas : SchemaTable) (spec : ActionSpec)
    : (spec.problems schemas).length = if spec.isDefective schemas then 1 else 0 := by
  unfold ActionSpec.problems ActionSpec.isDefective
  cases Table.get? schemas spec.name with
  | none => rfl
  | some schema =>
      cases checked : spec.check schema with
      | ok _ => simp [checked, Except.isOk, Except.toBool]
      | error _ => simp [checked, Except.isOk, Except.toBool]

theorem ActionSpec.length_flatMap_problems (schemas : SchemaTable) (specs : List ActionSpec)
    : (specs.flatMap (·.problems schemas)).length = specs.countP (·.isDefective schemas) := by
  induction specs with
  | nil => rfl
  | cons spec rest ih =>
      rw [List.flatMap_cons, List.length_append, spec.length_problems, ih, List.countP_cons,
        Nat.add_comm]

-----------------------------------------------------------------------------------------
-- The policies inside of a policy
-----------------------------------------------------------------------------------------

/-- A policy where it stands inside of another one. -/
structure Policy.Place where
  policy : Policy
  /-- How many of the policies that it is below are checked themselves, it included. -/
  reports : Nat
  /-- Whether it is checked itself; a policy below a filter on elements is not. -/
  checked : Bool

mutual

/-- A policy that has been reported so often, and all policies inside of it. -/
def Policy.placesFrom (reports : Nat) (checked : Bool) : Policy → List Policy.Place
  | ⟨name, resource, description, filters, actions, maxResources, maxPercent⟩ =>
      ⟨⟨name, resource, description, filters, actions, maxResources, maxPercent⟩, reports, checked⟩
        :: Filter.placesOfAll reports checked filters

def Filter.places (reports : Nat) (checked : Bool) : Filter → List Policy.Place
  | .missing policy => policy.placesFrom (if checked then reports + 1 else reports) checked
  | .listItem _ attributes _ => Filter.placesOfAll reports false attributes
  | .all filters => Filter.placesOfAll reports checked filters
  | .any filters => Filter.placesOfAll reports checked filters
  | .negation filter => filter.places reports checked
  | .value _ => []
  | .namespaceMetric .. => []

def Filter.placesOfAll (reports : Nat) (checked : Bool) : List Filter → List Policy.Place
  | [] => []
  | filter :: rest => filter.places reports checked ++ Filter.placesOfAll reports checked rest

end

/-- A policy and all policies inside of it, at any depth. -/
def Policy.places (policy : Policy) : List Policy.Place :=
  policy.placesFrom 1 true

namespace Policy.Place

variable (resources : ResourceRegistry) (schemas : SchemaTable)

/-- How many faults of its own a policy has, as far as it is checked. -/
def defects (place : Place) : Nat :=
  (if place.checked then place.policy.plainDefects resources schemas else 0)
    + (Filter.leafProblemsOfAll place.policy.filters).length

/-- How many problems are reported for a policy. -/
def reported (place : Place) : Nat :=
  (if place.checked then place.policy.plainDefects resources schemas else 0)
    + place.reports * (Filter.leafProblemsOfAll place.policy.filters).length

end Policy.Place

-----------------------------------------------------------------------------------------
-- Counting
-----------------------------------------------------------------------------------------

section Counting

variable (resources : ResourceRegistry) (schemas : SchemaTable)

/-- How many problems are reported for policies. -/
def Policy.reportedFor (places : List Policy.Place) : Nat :=
  (places.map (·.reported resources schemas)).sum

theorem Policy.reportedFor_append (places others : List Policy.Place)
    : reportedFor resources schemas (places ++ others)
      = reportedFor resources schemas places + reportedFor resources schemas others := by
  simp [reportedFor]

mutual

/-- Policies below a filter on elements are reported with each of the policies above only. -/
theorem Filter.reportedFor_unchecked (reports : Nat) (filter : Filter)
    : Policy.reportedFor resources schemas (filter.places reports false)
        + reports * filter.leafProblems.length
      = reports * filter.problems.length := by
  cases filter with
  | value _ | namespaceMetric _ _ =>
      simp [Filter.places, Filter.leafProblems, Filter.problems, Policy.reportedFor]
  | listItem key attributes count =>
      have below := Filter.reportedFor_uncheckedOfAll reports attributes
      simp only [Filter.places, Filter.leafProblems, Filter.problems, List.length_append,
        Nat.mul_add]
      omega
  | missing policy =>
      have below := policy.reportedFor_unchecked reports
      simpa [Filter.places, Filter.leafProblems, Filter.problems] using below
  | all filters =>
      simpa only [Filter.places, Filter.leafProblems, Filter.problems]
        using Filter.reportedFor_uncheckedOfAll reports filters
  | any filters =>
      simpa only [Filter.places, Filter.leafProblems, Filter.problems]
        using Filter.reportedFor_uncheckedOfAll reports filters
  | negation filter =>
      simpa only [Filter.places, Filter.leafProblems, Filter.problems]
        using filter.reportedFor_unchecked reports

theorem Filter.reportedFor_uncheckedOfAll (reports : Nat) (filters : List Filter)
    : Policy.reportedFor resources schemas (Filter.placesOfAll reports false filters)
        + reports * (Filter.leafProblemsOfAll filters).length
      = reports * (Filter.problemsOfAll filters).length := by
  cases filters with
  | nil =>
      simp [Filter.placesOfAll, Filter.leafProblemsOfAll, Filter.problemsOfAll, Policy.reportedFor]
  | cons filter rest =>
      have first := filter.reportedFor_unchecked reports
      have others := Filter.reportedFor_uncheckedOfAll reports rest
      simp only [Filter.placesOfAll, Filter.leafProblemsOfAll, Filter.problemsOfAll,
        Policy.reportedFor_append, List.length_append, Nat.mul_add]
      omega

theorem Policy.reportedFor_unchecked (reports : Nat) (policy : Policy)
    : Policy.reportedFor resources schemas (policy.placesFrom reports false)
      = reports * policy.filterProblems.length := by
  cases policy with
  | mk name resource description filters actions maxResources maxPercent =>
      have below := Filter.reportedFor_uncheckedOfAll reports filters
      simp only [Policy.placesFrom, Policy.reportedFor, Policy.Place.reported, List.map_cons,
        List.sum_cons, Policy.filterProblems, Bool.false_eq_true, if_false] at below ⊢
      omega

end

/-- The problems of filters are those of all their leaves, and those of the policies right inside of
them. -/
theorem Filter.length_problemsWithin (filters : List Filter)
    : (Filter.problemsWithin resources schemas filters).length
      = (Filter.problemsOfAll filters).length
        + (Filter.nestedProblemsOfAll resources schemas filters).length := by
  induction filters with
  | nil => simp [Filter.problemsWithin, Filter.problemsOfAll, Filter.nestedProblemsOfAll]
  | cons filter rest ih =>
      simp only [Filter.problemsWithin, Filter.problemsOfAll, Filter.nestedProblemsOfAll,
        List.length_append, List.length_map, ih]
      omega

mutual

/-- A policy that is checked is reported once more than the policies above ask for its filters. -/
theorem Filter.reportedFor_checked (above : Nat) (filter : Filter)
    : Policy.reportedFor resources schemas (filter.places (above + 1) true)
        + (above + 1) * filter.leafProblems.length
      = (filter.nestedProblems resources schemas).length
        + (above + 1) * filter.problems.length := by
  cases filter with
  | value _ | namespaceMetric _ _ =>
      simp [Filter.places, Filter.leafProblems, Filter.problems, Filter.nestedProblems,
        Policy.reportedFor]
  | listItem key attributes count =>
      have below := Filter.reportedFor_uncheckedOfAll resources schemas (above + 1) attributes
      simp only [Filter.places, Filter.leafProblems, Filter.problems, Filter.nestedProblems,
        List.length_append, List.length_nil, Nat.mul_add (above + 1)]
      omega
  | missing policy =>
      have below := policy.reportedFor_checked (above + 1)
      simpa [Filter.places, Filter.leafProblems, Filter.problems, Filter.nestedProblems]
        using below
  | all filters =>
      simpa only [Filter.places, Filter.leafProblems, Filter.problems, Filter.nestedProblems]
        using Filter.reportedFor_checkedOfAll above filters
  | any filters =>
      simpa only [Filter.places, Filter.leafProblems, Filter.problems, Filter.nestedProblems]
        using Filter.reportedFor_checkedOfAll above filters
  | negation filter =>
      simpa only [Filter.places, Filter.leafProblems, Filter.problems, Filter.nestedProblems]
        using filter.reportedFor_checked above

theorem Filter.reportedFor_checkedOfAll (above : Nat) (filters : List Filter)
    : Policy.reportedFor resources schemas (Filter.placesOfAll (above + 1) true filters)
        + (above + 1) * (Filter.leafProblemsOfAll filters).length
      = (Filter.nestedProblemsOfAll resources schemas filters).length
        + (above + 1) * (Filter.problemsOfAll filters).length := by
  cases filters with
  | nil =>
      simp [Filter.placesOfAll, Filter.leafProblemsOfAll, Filter.problemsOfAll,
        Filter.nestedProblemsOfAll, Policy.reportedFor]
  | cons filter rest =>
      have first := filter.reportedFor_checked above
      have others := Filter.reportedFor_checkedOfAll above rest
      simp only [Filter.placesOfAll, Filter.leafProblemsOfAll, Filter.problemsOfAll,
        Filter.nestedProblemsOfAll, Policy.reportedFor_append, List.length_append,
        Nat.mul_add (above + 1)]
      omega

theorem Policy.reportedFor_checked (above : Nat) (policy : Policy)
    : Policy.reportedFor resources schemas (policy.placesFrom (above + 1) true)
      = (policy.problems resources schemas).length + above * policy.filterProblems.length := by
  cases policy with
  | mk name resource description filters actions maxResources maxPercent =>
      have below := Filter.reportedFor_checkedOfAll above filters
      have unknown
          : (if (resources.get? resource).isSome then ([] : List PolicyProblem)
              else [.unknownResource resource]).length
            = if (resources.get? resource).isSome then 0 else 1 := by
        split <;> rfl
      simp only [Policy.placesFrom, Policy.reportedFor, Policy.Place.reported, List.map_cons,
        List.sum_cons, Policy.filterProblems, Policy.problems, Policy.plainDefects, if_true,
        List.length_append, unknown, Filter.length_problemsWithin,
        ActionSpec.length_flatMap_problems, Nat.succ_mul] at below ⊢
      omega

end

end Counting

-----------------------------------------------------------------------------------------
-- Faults that are reported again
-----------------------------------------------------------------------------------------

mutual

/-- A policy inside of another one is reported no less often. -/
theorem Policy.le_reports_placesFrom {reports : Nat} {checked : Bool} (policy : Policy)
    : ∀ place ∈ policy.placesFrom reports checked, reports ≤ place.reports := by
  intro place member
  cases policy with
  | mk name resource description filters actions maxResources maxPercent =>
      rcases List.mem_cons.mp (by simpa only [Policy.placesFrom] using member) with rfl | below
      · exact Nat.le_refl reports
      · exact Filter.le_reports_placesOfAll filters place below

theorem Filter.le_reports_places {reports : Nat} {checked : Bool} (filter : Filter)
    : ∀ place ∈ filter.places reports checked, reports ≤ place.reports := by
  intro place member
  cases filter with
  | value _ | namespaceMetric _ _ => simp [Filter.places] at member
  | listItem key attributes count =>
      exact Filter.le_reports_placesOfAll attributes place
        (by simpa only [Filter.places] using member)
  | missing policy =>
      have least := policy.le_reports_placesFrom place (by simpa only [Filter.places] using member)
      split at least <;> omega
  | all filters =>
      exact Filter.le_reports_placesOfAll filters place (by simpa only [Filter.places] using member)
  | any filters =>
      exact Filter.le_reports_placesOfAll filters place (by simpa only [Filter.places] using member)
  | negation filter =>
      exact filter.le_reports_places place (by simpa only [Filter.places] using member)

theorem Filter.le_reports_placesOfAll {reports : Nat} {checked : Bool} (filters : List Filter)
    : ∀ place ∈ Filter.placesOfAll reports checked filters, reports ≤ place.reports := by
  intro place member
  cases filters with
  | nil => simp [Filter.placesOfAll] at member
  | cons filter rest =>
      rcases List.mem_append.mp (by simpa only [Filter.placesOfAll] using member) with first | later
      · exact filter.le_reports_places place first
      · exact Filter.le_reports_placesOfAll rest place later

end

/-- How many problems of a policy have been reported before. -/
def Policy.Place.repeated (place : Place) : Nat :=
  (place.reports - 1) * (Filter.leafProblemsOfAll place.policy.filters).length

theorem Policy.Place.reported_eq (resources : ResourceRegistry) (schemas : SchemaTable)
    {place : Place} (some : 1 ≤ place.reports)
    : place.reported resources schemas = place.defects resources schemas + place.repeated := by
  obtain ⟨above, same⟩ := Nat.exists_eq_add_of_le some
  unfold reported defects repeated
  rw [same, Nat.add_sub_cancel_left, Nat.add_mul, Nat.one_mul, Nat.add_assoc]

theorem Policy.Place.repeated_eq_zero_iff {place : Place}
    : place.repeated = 0
      ↔ (1 < place.reports → Filter.leafProblemsOfAll place.policy.filters = []) := by
  rw [repeated, Nat.mul_eq_zero, List.length_eq_zero_iff, Nat.sub_eq_zero_iff_le, ← not_lt,
    imp_iff_not_or]

theorem Policy.reportedFor_places (resources : ResourceRegistry) (schemas : SchemaTable)
    {places : List Policy.Place} (some : ∀ place ∈ places, 1 ≤ place.reports)
    : reportedFor resources schemas places
      = (places.map (·.defects resources schemas)).sum + (places.map (·.repeated)).sum := by
  induction places with
  | nil => rfl
  | cons place rest ih =>
      obtain ⟨first, others⟩ := List.forall_mem_cons.mp some
      have later := ih others
      simp only [reportedFor, List.map_cons, List.sum_cons] at later ⊢
      rw [later, place.reported_eq resources schemas first]
      omega

/-- A policy is reported for having no name, for being nested too deep, and for the faults of its
own and of all policies inside of it, but those of their filters are reported again for each policy
above. So every fault is reported exactly once if, and only if, no policy that is inside of another
one has a fault in its filters.
-/
theorem Policy.length_validate (resources : ResourceRegistry) (schemas : SchemaTable)
    (maxDepth : Nat) (policy : Policy)
    : let once :=
        (if policy.name.isEmpty then 1 else 0)
          + (if maxDepth < policy.nestingDepth then 1 else 0)
          + (policy.places.map (·.defects resources schemas)).sum
      (policy.validate resources schemas maxDepth).length
        = once + (policy.places.map (·.repeated)).sum
      ∧ ((policy.validate resources schemas maxDepth).length = once
        ↔ ∀ place ∈ policy.places,
            1 < place.reports → Filter.leafProblemsOfAll place.policy.filters = []) := by
  intro once
  have reported := policy.reportedFor_checked resources schemas 0
  rw [Policy.reportedFor_places resources schemas policy.le_reports_placesFrom] at reported
  have unnamed
      : (if policy.name.isEmpty then ([.unnamed] : List PolicyProblem) else []).length
        = if policy.name.isEmpty then 1 else 0 := by
    split <;> rfl
  have deep
      : (if maxDepth < policy.nestingDepth then
            ([.nestingTooDeep policy.nestingDepth maxDepth] : List PolicyProblem)
          else []).length
        = if maxDepth < policy.nestingDepth then 1 else 0 := by
    split <;> rfl
  have total
      : (policy.validate resources schemas maxDepth).length
        = once + (policy.places.map (·.repeated)).sum := by
    simp only [Policy.validate, List.length_append, unnamed, deep, once, Policy.places]
      at reported ⊢
    omega
  refine ⟨total, ?_⟩
  rw [total, Nat.add_eq_left, List.sum_eq_zero_iff, List.forall_mem_map]
  exact forall₂_congr (fun place _ => place.repeated_eq_zero_iff)

namespace Sample

/-- A policy with an open bracket in a key, below two other ones. -/
def buried : Policy :=
  let innermost : Filter := .value ⟨"policies[", .present, none, none⟩
  let middle : Filter := .missing ⟨"", "alarm", none, [innermost], [], none, none⟩
  let outermost : Filter := .missing ⟨"", "alarm", none, [middle], [], none, none⟩
  ⟨"buried", "alarm", none, [outermost], [], none, none⟩

end Sample

/-- The one fault is reported three times. -/
theorem Policy.length_validate_buried
    : let places := Sample.buried.places
      (places.map (·.defects ⟨[("alarm", .alarm)]⟩ .builtin)).sum = 1
      ∧ (Sample.buried.validate ⟨[("alarm", .alarm)]⟩ .builtin 3).length = 3 := by
  intro places
  have total := (length_validate ⟨[("alarm", .alarm)]⟩ .builtin 3 Sample.buried).1
  exact ⟨by rfl, total.trans (by rfl)⟩

end Remediation
