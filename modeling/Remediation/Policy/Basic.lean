import Remediation.Filter.Operator
import Remediation.Number.Binary64

/-!
Policies and the filters they are made of. A policy names a resource type, filters that all have
to hold, and actions for the records they match; a filter for what is missing holds a policy of
its own.
-/

namespace Remediation

/-- An action by name, with its parameters. -/
structure ActionSpec where
  name : String
  params : Fields
  deriving Repr

/-- Whether one of two limits has to be exceeded or both. -/
inductive LimitMode where
  | either
  | both
  deriving DecidableEq, Repr

/-- How many records a policy may match. -/
inductive MaxResources where
  | amount (most : Nat)
  | limits (amount : Option Nat) (percent : Option Binary64) (mode : LimitMode)
  deriving DecidableEq, Repr

/-- Compares the value that a key path reaches with an expected one. -/
structure ValueFilter where
  key : String
  operator : Operator
  value : Option Json
  conversion : Option Conversion
  deriving Repr

mutual

/-- A policy. A policy of a document has a name; one inside a filter may do without. -/
structure Policy where
  name : String
  resource : String
  description : Option String
  filters : List Filter
  actions : List ActionSpec
  maxResources : Option MaxResources
  maxPercent : Option Binary64

/-- A tree of filters. -/
inductive Filter where
  | value (filter : ValueFilter)
  /-- Records with elements in a list that satisfy all the attributes: some, or as many as the
  count asks for. -/
  | listItem (key : String) (attributes : List Filter) (count : Option (Operator × Nat))
  /-- Records whose identity is not among those that a policy matches. -/
  | missing (policy : Policy)
  /-- Alarms of one of the namespaces that watch one of the metrics. -/
  | namespaceMetric (namespaces metricNames : List String)
  | all (filters : List Filter)
  | any (filters : List Filter)
  | negation (filter : Filter)

end

instance : Inhabited Filter := ⟨.all []⟩

mutual

/-- The policies of the filters for what is missing in a tree, in the order of the tree. Those
inside of these policies are not among them. -/
def Filter.missingPolicies : Filter → List Policy
  | .missing policy => [policy]
  | .all filters => Filter.missingPoliciesOfAll filters
  | .any filters => Filter.missingPoliciesOfAll filters
  | .negation filter => filter.missingPolicies
  | .value _ => []
  | .listItem .. => []
  | .namespaceMetric .. => []

def Filter.missingPoliciesOfAll : List Filter → List Policy
  | [] => []
  | filter :: rest => filter.missingPolicies ++ Filter.missingPoliciesOfAll rest

end

mutual

/-- How many levels of policies there are below a policy. -/
def Policy.nestingDepth : Policy → Nat
  | ⟨_, _, _, filters, _, _, _⟩ => Filter.nestingDepthOfAll filters

/-- How many levels of policies a tree holds. -/
def Filter.nestingDepth : Filter → Nat
  | .missing policy => policy.nestingDepth + 1
  | .all filters => Filter.nestingDepthOfAll filters
  | .any filters => Filter.nestingDepthOfAll filters
  | .negation filter => filter.nestingDepth
  | .value _ => 0
  | .listItem .. => 0
  | .namespaceMetric .. => 0

def Filter.nestingDepthOfAll : List Filter → Nat
  | [] => 0
  | filter :: rest => max filter.nestingDepth (Filter.nestingDepthOfAll rest)

end

/-- The filters of a policy as one tree. -/
def Policy.filterTree (policy : Policy) : Filter :=
  .all policy.filters

end Remediation
