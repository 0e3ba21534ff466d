import Remediation.Filter.Matcher
import Remediation.Proofs.Policy.Nesting
import Remediation.Resource.Registry

/-! The meaning of filters, given directly by recursion on the tree, and the proof that a compiled
tree has it. Compiling takes the sets of nested policies off the front of one list, in an order that
another traversal put them in; what ties the two is that every filter takes its own sets and leaves
those behind them alone.
-/

namespace Remediation

-----------------------------------------------------------------------------------------
-- Filters that need no set below a list
-----------------------------------------------------------------------------------------

mutual

/-- Whether a tree holds no filter for what is missing, not even below a list. -/
def Filter.isMissingFree : Filter → Bool
  | .missing _ => false
  | .listItem _ attributes _ => Filter.areMissingFree attributes
  | .all filters => Filter.areMissingFree filters
  | .any filters => Filter.areMissingFree filters
  | .negation filter => filter.isMissingFree
  | .value _ => true
  | .namespaceMetric .. => true

def Filter.areMissingFree : List Filter → Bool
  | [] => true
  | filter :: rest => filter.isMissingFree && Filter.areMissingFree rest

end

mutual

/-- Whether a tree holds no filter for what is missing below a list, where elements have no
identity. Nested policies are not looked into. -/
def Filter.isMissingFreeInLists : Filter → Bool
  | .listItem _ attributes _ => Filter.areMissingFree attributes
  | .all filters => Filter.areMissingFreeInLists filters
  | .any filters => Filter.areMissingFreeInLists filters
  | .negation filter => filter.isMissingFreeInLists
  | .missing _ => true
  | .value _ => true
  | .namespaceMetric .. => true

def Filter.areMissingFreeInLists : List Filter → Bool
  | [] => true
  | filter :: rest => filter.isMissingFreeInLists && Filter.areMissingFreeInLists rest

end

mutual

/-- A tree without filters for what is missing has no nested policies, and its lists are fine. -/
theorem Filter.isMissingFree.lists {filter : Filter} (free : filter.isMissingFree = true)
    : filter.missingPolicies = [] ∧ filter.isMissingFreeInLists = true := by
  cases filter with
  | missing policy => simp [Filter.isMissingFree] at free
  | all filters =>
      simp only [Filter.isMissingFree] at free
      simpa only [Filter.missingPolicies, Filter.isMissingFreeInLists]
        using Filter.areMissingFree.lists free
  | any filters =>
      simp only [Filter.isMissingFree] at free
      simpa only [Filter.missingPolicies, Filter.isMissingFreeInLists]
        using Filter.areMissingFree.lists free
  | negation filter =>
      simp only [Filter.isMissingFree] at free
      simpa only [Filter.missingPolicies, Filter.isMissingFreeInLists]
        using Filter.isMissingFree.lists free
  | listItem key attributes count =>
      exact ⟨rfl, by simpa only [Filter.isMissingFree, Filter.isMissingFreeInLists] using free⟩
  | value _ | namespaceMetric _ _ => exact ⟨rfl, rfl⟩

theorem Filter.areMissingFree.lists {filters : List Filter}
    (free : Filter.areMissingFree filters = true)
    : Filter.missingPoliciesOfAll filters = []
      ∧ Filter.areMissingFreeInLists filters = true := by
  cases filters with
  | nil => exact ⟨rfl, rfl⟩
  | cons filter rest =>
      simp only [Filter.areMissingFree, Bool.and_eq_true] at free
      obtain ⟨none, lists⟩ := Filter.isMissingFree.lists free.1
      obtain ⟨noneInRest, restLists⟩ := Filter.areMissingFree.lists free.2
      simp [Filter.missingPoliciesOfAll, Filter.areMissingFreeInLists, none, noneInRest, lists,
        restLists]

end

-----------------------------------------------------------------------------------------
-- Meaning
-----------------------------------------------------------------------------------------

/-- What there is to select from: the resource types that are known, and the records that a fetch of
each hands out. -/
structure Inventory where
  resources : ResourceRegistry
  records : ResourceType → List Json

/-- Whether the value that a key reaches is one of some texts. -/
def isOneOf (key : String) (texts : List String) (record : Json) : Bool :=
  (ValueMatcher.compile ⟨key, .isIn, some (.strings texts), none⟩).accepts record

/-- Whether there is a list at a key with an element that satisfies a test, or with as many of them
as a count asks for. -/
def listHolds (key : String) (satisfies : Json → Bool) (count : Option (Operator × Nat))
    (record : Json) : Bool :=
  match KeyPath.parse key with
  | .error _ => false
  | .ok path =>
      match path.resolve record with
      | some (.array elements) =>
          match count with
          | some (operator, expected) =>
              operator.comparesCounts (elements.countP satisfies) expected
          | none => elements.any satisfies
      | _ => false

mutual

/-- Whether a record satisfies a filter. A filter for what is missing asks for records whose
identity the nested policy does not select; elements of a list have no identity of their own. -/
def Filter.holds (inventory : Inventory) (idField : String) : Filter → Json → Bool
  | .value filter, record => (ValueMatcher.compile filter).accepts record
  | .listItem key attributes count, record =>
      listHolds key (Filter.allHold inventory "id" attributes) count record
  | .missing policy, record =>
      match identity record idField with
      | some id => !(policy.selectedIds inventory).contains id
      | none => false
  | .namespaceMetric namespaces metricNames, record =>
      isOneOf "namespace" namespaces record
        && listHolds "policies" (isOneOf "metric_name" metricNames) none record
  | .all filters, record => Filter.allHold inventory idField filters record
  | .any filters, record => Filter.anyHolds inventory idField filters record
  | .negation filter, record => !filter.holds inventory idField record

def Filter.allHold (inventory : Inventory) (idField : String) : List Filter → Json → Bool
  | [], _ => true
  | filter :: rest, record =>
      filter.holds inventory idField record && Filter.allHold inventory idField rest record

def Filter.anyHolds (inventory : Inventory) (idField : String) : List Filter → Json → Bool
  | [], _ => false
  | filter :: rest, record =>
      filter.holds inventory idField record || Filter.anyHolds inventory idField rest record

/-- The identities, under the policy's own type, of the records that a policy selects. -/
def Policy.selectedIds (inventory : Inventory) : Policy → IdentitySet
  | ⟨_, name, _, filters, _, _, _⟩ =>
      match inventory.resources.get? name with
      | some resource =>
          identities
            ((inventory.records resource).filter
              (Filter.allHold inventory resource.idField filters))
            resource.idField
      | none => []

end

/-- The sets that a tree takes when it is compiled. -/
abbrev Filter.ownSets (inventory : Inventory) (filter : Filter) : List IdentitySet :=
  filter.missingPolicies.map (Policy.selectedIds inventory)

/-- A list filter is about the elements that all attributes accept. -/
theorem Matcher.accepts_listItem {key : String} {attributes : List Matcher}
    {count : Option (Operator × Nat)} {satisfies : Json → Bool}
    (same : ∀ element, Matcher.acceptsAll attributes element = satisfies element) (record : Json)
    : (Matcher.listItem (KeyPath.parse key) attributes count).accepts record
      = listHolds key satisfies count record := by
  have attributesEq : Matcher.acceptsAll attributes = satisfies := funext same
  simp only [Matcher.accepts, listHolds, attributesEq]
  cases KeyPath.parse key with
  | error fault => rfl
  | ok path =>
      dsimp only
      cases path.resolve record with
      | none => rfl
      | some value =>
          cases value with
          | array elements =>
              cases count with
              | none =>
                  rw [Bool.eq_iff_iff]
                  simp
              | some count => simp only [List.countP_eq_length_filter]
          | null | bool _ | number _ | string _ | object _ => rfl

-----------------------------------------------------------------------------------------
-- A compiled tree means what the tree means
-----------------------------------------------------------------------------------------

mutual

/-- A tree takes its own sets and leaves the ones behind them; compiled, it accepts the records that
satisfy it. -/
theorem Matcher.compile_meaning (inventory : Inventory) (idField : String) (filter : Filter)
    (free : filter.isMissingFreeInLists = true) (behind : List IdentitySet)
    : ∃ matcher,
        Matcher.compile idField filter (filter.ownSets inventory ++ behind) = (matcher, behind)
        ∧ ∀ record, matcher.accepts record = filter.holds inventory idField record := by
  cases filter with
  | value filter => exact ⟨_, rfl, fun _ => by simp only [Matcher.accepts, Filter.holds]⟩
  | missing policy =>
      refine ⟨_, rfl, fun record => ?_⟩
      unfold Matcher.accepts Filter.holds
      cases identity record idField with
      | none => rfl
      | some id => rfl
  | listItem key attributes count =>
      refine ⟨_, rfl, fun record => ?_⟩
      rw [Matcher.accepts_listItem (Matcher.compileAttributes_meaning inventory attributes
        (by simpa only [Filter.isMissingFreeInLists] using free)), Filter.holds]
  | namespaceMetric namespaces metricNames =>
      refine ⟨_, rfl, fun record => ?_⟩
      have metrics
          : ∀ element,
              Matcher.acceptsAll [Matcher.ofKeyIn "metric_name" metricNames] element
                = isOneOf "metric_name" metricNames element := by
        intro element
        simp only [Matcher.acceptsAll, Matcher.ofKeyIn, Matcher.accepts, isOneOf, Bool.and_true]
      simp only [Matcher.accepts, Matcher.acceptsAll, Filter.holds, Bool.and_true,
        ← Matcher.accepts_listItem metrics]
      simp only [Matcher.ofKeyIn, Matcher.accepts, isOneOf]
  | all filters =>
      obtain ⟨matchers, compiled, all, _⟩ := Matcher.compileAll_meaning inventory idField filters
        (by simpa only [Filter.isMissingFreeInLists] using free) behind
      refine ⟨.all matchers, ?_, fun record => ?_⟩
      · simp only [Matcher.compile, Filter.ownSets, Filter.missingPolicies, compiled]
      · simp only [Matcher.accepts, Filter.holds, all]
  | any filters =>
      obtain ⟨matchers, compiled, _, any⟩ := Matcher.compileAll_meaning inventory idField filters
        (by simpa only [Filter.isMissingFreeInLists] using free) behind
      refine ⟨.any matchers, ?_, fun record => ?_⟩
      · simp only [Matcher.compile, Filter.ownSets, Filter.missingPolicies, compiled]
      · simp only [Matcher.accepts, Filter.holds, any]
  | negation filter =>
      obtain ⟨matcher, compiled, meaning⟩ := Matcher.compile_meaning inventory idField filter
        (by simpa only [Filter.isMissingFreeInLists] using free) behind
      refine ⟨.negation matcher, ?_, fun record => ?_⟩
      · simp only [Matcher.compile, Filter.ownSets, Filter.missingPolicies, compiled]
      · simp only [Matcher.accepts, Filter.holds, meaning]

theorem Matcher.compileAll_meaning (inventory : Inventory) (idField : String)
    (filters : List Filter) (free : Filter.areMissingFreeInLists filters = true)
    (behind : List IdentitySet)
    : ∃ matchers,
        Matcher.compileAll idField filters
            ((Filter.missingPoliciesOfAll filters).map (Policy.selectedIds inventory) ++ behind)
          = (matchers, behind)
        ∧ (∀ record,
            Matcher.acceptsAll matchers record = Filter.allHold inventory idField filters record)
        ∧ ∀ record,
            Matcher.acceptsAny matchers record
              = Filter.anyHolds inventory idField filters record := by
  cases filters with
  | nil =>
      exact ⟨[], rfl, fun _ => by simp only [Matcher.acceptsAll, Filter.allHold],
        fun _ => by simp only [Matcher.acceptsAny, Filter.anyHolds]⟩
  | cons filter rest =>
      simp only [Filter.areMissingFreeInLists, Bool.and_eq_true] at free
      -- What stands behind the sets of the first filter are the sets of the others.
      obtain ⟨matcher, compiled, meaning⟩ := Matcher.compile_meaning inventory idField filter free.1
        ((Filter.missingPoliciesOfAll rest).map (Policy.selectedIds inventory) ++ behind)
      obtain ⟨matchers, compiledRest, all, any⟩ :=
        Matcher.compileAll_meaning inventory idField rest free.2 behind
      refine ⟨matcher :: matchers, ?_, fun record => ?_, fun record => ?_⟩
      · simp only [Filter.missingPoliciesOfAll, List.map_append, List.append_assoc,
          Matcher.compileAll]
        rw [compiled]
        simp only [compiledRest]
      · simp only [Matcher.acceptsAll, Filter.allHold, meaning, all]
      · simp only [Matcher.acceptsAny, Filter.anyHolds, meaning, any]

theorem Matcher.compileAttributes_meaning (inventory : Inventory) (attributes : List Filter)
    (free : Filter.areMissingFree attributes = true) (element : Json)
    : Matcher.acceptsAll (Matcher.compileAttributes attributes) element
      = Filter.allHold inventory "id" attributes element := by
  cases attributes with
  | nil => simp only [Matcher.compileAttributes, Matcher.acceptsAll, Filter.allHold]
  | cons filter rest =>
      simp only [Filter.areMissingFree, Bool.and_eq_true] at free
      obtain ⟨noSets, lists⟩ := Filter.isMissingFree.lists free.1
      obtain ⟨matcher, compiled, meaning⟩ :=
        Matcher.compile_meaning inventory "id" filter lists []
      simp only [Filter.ownSets, noSets, List.map_nil, List.append_nil] at compiled
      simp only [Matcher.compileAttributes, Matcher.acceptsAll, Filter.allHold, compiled, meaning,
        Matcher.compileAttributes_meaning inventory rest free.2]

end

/-- A tree without filters for what is missing means the same whatever there is to select from. -/
theorem Filter.holds_of_isMissingFree {filter : Filter} (free : filter.isMissingFree = true)
    (inventory other : Inventory) (idField : String) (record : Json)
    : filter.holds inventory idField record = filter.holds other idField record := by
  obtain ⟨noSets, lists⟩ := Filter.isMissingFree.lists free
  obtain ⟨matcher, compiled, meaning⟩ := Matcher.compile_meaning inventory idField filter lists []
  obtain ⟨same, compiledToo, meaningToo⟩ := Matcher.compile_meaning other idField filter lists []
  simp only [Filter.ownSets, noSets, List.map_nil, List.append_nil] at compiled compiledToo
  cases compiled.symm.trans compiledToo
  rw [← meaning, meaningToo]

end Remediation
