import Remediation.Proofs.Filter.Meaning

/-! The parts of a tree, down to the bottom of it: what is joined, what is negated, the filters on
the elements of a list, and the filters of the policies inside of the tree. Elements have no
identity, so that a filter for what is missing has no place below a list.
-/

namespace Remediation

namespace Filter

/-- A tree, and everything that it is made of. -/
inductive HasPart : Filter → Filter → Prop
  | self (filter : Filter) : HasPart filter filter
  | inAll {filters : List Filter} {filter part : Filter} (member : filter ∈ filters)
    (below : HasPart filter part)
    : HasPart (.all filters) part
  | inAny {filters : List Filter} {filter part : Filter} (member : filter ∈ filters)
    (below : HasPart filter part)
    : HasPart (.any filters) part
  | inNegation {filter part : Filter} (below : HasPart filter part)
    : HasPart (.negation filter) part
  | inList {key : String} {attributes : List Filter} {count : Option (Operator × Nat)}
    {filter part : Filter} (member : filter ∈ attributes) (below : HasPart filter part)
    : HasPart (.listItem key attributes count) part
  | inPolicy {policy : Policy} {filter part : Filter} (member : filter ∈ policy.filters)
    (below : HasPart filter part)
    : HasPart (.missing policy) part

namespace HasPart

theorem trans {filter part deeper : Filter} (first : filter.HasPart part)
    (second : part.HasPart deeper)
    : filter.HasPart deeper := by
  induction first with
  | self => exact second
  | inAll member _ ih => exact .inAll member (ih second)
  | inAny member _ ih => exact .inAny member (ih second)
  | inNegation _ ih => exact .inNegation (ih second)
  | inList member _ ih => exact .inList member (ih second)
  | inPolicy member _ ih => exact .inPolicy member (ih second)

end HasPart

mutual

/-- The policies that the search finds in a tree are parts of it. -/
theorem hasPart_of_mem_missingPolicies (filter : Filter) {inner : Policy}
    (found : inner ∈ filter.missingPolicies)
    : filter.HasPart (.missing inner) := by
  cases filter with
  | missing policy =>
      obtain rfl : inner = policy := by simpa [missingPolicies] using found
      exact .self _
  | all filters =>
      obtain ⟨_, member, inside⟩ := exists_hasPart_of_mem_missingPoliciesOfAll filters found
      exact .inAll member inside
  | any filters =>
      obtain ⟨_, member, inside⟩ := exists_hasPart_of_mem_missingPoliciesOfAll filters found
      exact .inAny member inside
  | negation filter => exact .inNegation (hasPart_of_mem_missingPolicies filter found)
  | value _ | listItem _ _ _ | namespaceMetric _ _ => simp [missingPolicies] at found

theorem exists_hasPart_of_mem_missingPoliciesOfAll (filters : List Filter) {inner : Policy}
    (found : inner ∈ missingPoliciesOfAll filters)
    : ∃ filter ∈ filters, filter.HasPart (.missing inner) := by
  cases filters with
  | nil => cases found
  | cons filter rest =>
      rcases List.mem_append.mp found with first | later
      · exact ⟨filter, List.mem_cons_self, hasPart_of_mem_missingPolicies filter first⟩
      · obtain ⟨other, member, inside⟩ := exists_hasPart_of_mem_missingPoliciesOfAll rest later
        exact ⟨other, List.mem_cons_of_mem filter member, inside⟩

end

/-- No filter for what is missing stands anywhere below a list, however deep either of them is. -/
def HasPlainLists (filter : Filter) : Prop :=
  ∀ key attributes count,
    filter.HasPart (.listItem key attributes count)
    → ∀ condition ∈ attributes, ∀ policy, ¬condition.HasPart (.missing policy)

/-- There is no policy right inside of filters if there is none in any of them. -/
theorem missingPoliciesOfAll_eq_nil {filters : List Filter}
    : missingPoliciesOfAll filters = [] ↔ ∀ filter ∈ filters, filter.missingPolicies = [] := by
  induction filters with
  | nil => simp [missingPoliciesOfAll]
  | cons filter rest ih => simp [missingPoliciesOfAll, ih]

namespace HasPlainLists

variable {filters : List Filter}

theorem part {filter part : Filter} (plain : filter.HasPlainLists) (inside : filter.HasPart part)
    : part.HasPlainLists :=
  fun key attributes count list => plain key attributes count (inside.trans list)

theorem value (filter : ValueFilter) : HasPlainLists (.value filter) := by
  intro key attributes count list
  cases list

theorem namespaceMetric (namespaces metricNames : List String)
    : HasPlainLists (.namespaceMetric namespaces metricNames) := by
  intro key attributes count list
  cases list

theorem all (each : ∀ filter ∈ filters, filter.HasPlainLists) : HasPlainLists (.all filters) := by
  intro key attributes count list
  cases list with
  | inAll member below => exact each _ member key attributes count below

theorem any (each : ∀ filter ∈ filters, filter.HasPlainLists) : HasPlainLists (.any filters) := by
  intro key attributes count list
  cases list with
  | inAny member below => exact each _ member key attributes count below

theorem negation {filter : Filter} (plain : filter.HasPlainLists)
    : HasPlainLists (.negation filter) := by
  intro key attributes count list
  cases list with
  | inNegation below => exact plain key attributes count below

theorem missing {policy : Policy} (each : ∀ filter ∈ policy.filters, filter.HasPlainLists)
    : HasPlainLists (.missing policy) := by
  intro key attributes count list
  cases list with
  | inPolicy member below => exact each _ member key attributes count below

/-- Where the search for policies in a tree finds none, there is none: below a list, where it does
not look, plain lists have none either. Witness: induction on the way down to the policy. -/
theorem noPolicy {filter : Filter} (plain : filter.HasPlainLists)
    (none : filter.missingPolicies = []) (policy : Policy)
    : ¬filter.HasPart (.missing policy) := by
  intro inside
  generalize found : Filter.missing policy = part at inside
  induction inside with
  | self =>
      subst found
      simp [missingPolicies] at none
  | inAll member _ ih =>
      refine ih (plain.part (.inAll member (.self _))) ?_ found
      exact missingPoliciesOfAll_eq_nil.mp none _ member
  | inAny member _ ih =>
      refine ih (plain.part (.inAny member (.self _))) ?_ found
      exact missingPoliciesOfAll_eq_nil.mp none _ member
  | inNegation _ ih => exact ih (plain.part (.inNegation (.self _))) none found
  | inList member below _ =>
      subst found
      exact plain _ _ _ (.self _) _ member policy below
  | inPolicy => simp [missingPolicies] at none

/-- A filter on the elements of a list is plain if its conditions are and hold no policy that the
search finds. -/
theorem list {key : String} {attributes : List Filter} {count : Option (Operator × Nat)}
    (each : ∀ condition ∈ attributes, condition.HasPlainLists)
    (none : ∀ condition ∈ attributes, condition.missingPolicies = [])
    : HasPlainLists (.listItem key attributes count) := by
  intro name conditions asked inside
  cases inside with
  | self => exact fun condition member => (each condition member).noPolicy (none condition member)
  | inList member below => exact each _ member name conditions asked below

end HasPlainLists

-----------------------------------------------------------------------------------------
-- Level by level
-----------------------------------------------------------------------------------------

mutual

/-- A tree in which no filter for what is missing stands anywhere is free of them. -/
theorem isMissingFree_of_noPolicy (filter : Filter)
    (none : ∀ policy, ¬filter.HasPart (.missing policy))
    : filter.isMissingFree = true := by
  cases filter with
  | missing policy => exact absurd (.self _) (none policy)
  | value _ | namespaceMetric _ _ => rfl
  | listItem key attributes count =>
      exact areMissingFree_of_noPolicy attributes
        (fun _ member policy inside => none policy (.inList member inside))
  | all filters =>
      exact areMissingFree_of_noPolicy filters
        (fun _ member policy inside => none policy (.inAll member inside))
  | any filters =>
      exact areMissingFree_of_noPolicy filters
        (fun _ member policy inside => none policy (.inAny member inside))
  | negation filter =>
      exact isMissingFree_of_noPolicy filter (fun policy inside => none policy (.inNegation inside))

theorem areMissingFree_of_noPolicy (filters : List Filter)
    (none : ∀ filter ∈ filters, ∀ policy, ¬filter.HasPart (.missing policy))
    : areMissingFree filters = true := by
  cases filters with
  | nil => rfl
  | cons filter rest =>
      simp only [areMissingFree, Bool.and_eq_true]
      exact ⟨isMissingFree_of_noPolicy filter (none filter List.mem_cons_self),
        areMissingFree_of_noPolicy rest (fun other member =>
          none other (List.mem_cons_of_mem filter member))⟩

end

mutual

/-- A tree with plain lists has nothing below them that needs a set. -/
theorem HasPlainLists.isMissingFreeInLists (filter : Filter) (plain : filter.HasPlainLists)
    : filter.isMissingFreeInLists = true := by
  cases filter with
  | missing _ | value _ | namespaceMetric _ _ => rfl
  | listItem key attributes count =>
      exact areMissingFree_of_noPolicy attributes (plain _ _ _ (.self _))
  | all filters =>
      exact HasPlainLists.areMissingFreeInLists filters
        (fun _ member => plain.part (.inAll member (.self _)))
  | any filters =>
      exact HasPlainLists.areMissingFreeInLists filters
        (fun _ member => plain.part (.inAny member (.self _)))
  | negation filter =>
      exact HasPlainLists.isMissingFreeInLists filter (plain.part (.inNegation (.self _)))

theorem HasPlainLists.areMissingFreeInLists (filters : List Filter)
    (plain : ∀ filter ∈ filters, filter.HasPlainLists)
    : Filter.areMissingFreeInLists filters = true := by
  cases filters with
  | nil => rfl
  | cons filter rest =>
      simp only [Filter.areMissingFreeInLists, Bool.and_eq_true]
      exact ⟨HasPlainLists.isMissingFreeInLists filter (plain filter List.mem_cons_self),
        HasPlainLists.areMissingFreeInLists rest (fun other member =>
          plain other (List.mem_cons_of_mem filter member))⟩

end

end Filter

end Remediation
