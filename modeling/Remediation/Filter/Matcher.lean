import Remediation.Filter.Value
import Remediation.Resource.Identity

/-!
Matching records with trees of filters. A tree is compiled together with the identities that the
policies inside of it match, one set for each filter for what is missing, in the order of the
tree.
-/

namespace Remediation

/-- The identities that a policy matches. -/
abbrev IdentitySet := List String

/-- A compiled tree of filters. -/
inductive Matcher where
  | value (matcher : ValueMatcher)
  | listItem (path : Except MalformedPath KeyPath) (attributes : List Matcher)
      (count : Option (Operator × Nat))
  /-- Records whose identity is not in the set. -/
  | missing (idField : String) (matched : IdentitySet)
  /-- A filter for what is missing without its set, which matches nothing. -/
  | unresolved
  | all (matchers : List Matcher)
  | any (matchers : List Matcher)
  | negation (matcher : Matcher)

/-- A filter that compares a key with a list of texts. -/
def Filter.keyIn (key : String) (texts : List String) : Filter :=
  .value ⟨key, .isIn, some (.strings texts), none⟩

/-- What a filter on namespaces and metrics stands for. -/
def Filter.ofNamespaceMetric (namespaces metricNames : List String) : Filter :=
  .all
    [
      .keyIn "namespace" namespaces,
      .listItem "policies" [.keyIn "metric_name" metricNames] none
    ]

namespace Matcher

def ofKeyIn (key : String) (texts : List String) : Matcher :=
  .value (ValueMatcher.compile ⟨key, .isIn, some (.strings texts), none⟩)

mutual

/-- Compiles a tree. Takes the sets that it needs from the front of those that are given, and
answers the ones that are left. -/
def compile (idField : String) : Filter → List IdentitySet → Matcher × List IdentitySet
  | .value filter, sets => (.value (ValueMatcher.compile filter), sets)
  | .listItem key attributes count, sets =>
      (.listItem (KeyPath.parse key) (compileAttributes attributes) count, sets)
  | .missing _, set :: sets => (.missing idField set, sets)
  | .missing _, [] => (.unresolved, [])
  | .namespaceMetric namespaces metricNames, sets =>
      (.all
        [
          ofKeyIn "namespace" namespaces,
          .listItem (KeyPath.parse "policies") [ofKeyIn "metric_name" metricNames] none
        ], sets)
  | .all filters, sets =>
      let (matchers, sets) := compileAll idField filters sets
      (.all matchers, sets)
  | .any filters, sets =>
      let (matchers, sets) := compileAll idField filters sets
      (.any matchers, sets)
  | .negation filter, sets =>
      let (matcher, sets) := compile idField filter sets
      (.negation matcher, sets)

def compileAll (idField : String)
    : List Filter → List IdentitySet → List Matcher × List IdentitySet
  | [], sets => ([], sets)
  | filter :: rest, sets =>
      let (matcher, sets) := compile idField filter sets
      let (matchers, sets) := compileAll idField rest sets
      (matcher :: matchers, sets)

/-- Compiles filters on the elements of a list, which have no identities of their own. -/
def compileAttributes : List Filter → List Matcher
  | [] => []
  | filter :: rest => (compile "id" filter []).1 :: compileAttributes rest

end

/-- Compiles a tree without the sets of policies inside of it. -/
def compileAlone (filter : Filter) : Matcher :=
  (compile "id" filter []).1

mutual

/-- Whether a record matches. -/
def accepts : Matcher → Json → Bool
  | .value matcher, record => matcher.accepts record
  | .listItem path attributes count, record =>
      match path with
      | .error _ => false
      | .ok path =>
          match path.resolve record with
          | some (.array elements) =>
              let matching := elements.filter (acceptsAll attributes)
              match count with
              | some (operator, expected) => operator.comparesCounts matching.length expected
              | none => !matching.isEmpty
          | _ => false
  | .missing idField matched, record =>
      match identity record idField with
      | some id => !matched.contains id
      | none => false
  | .unresolved, _ => false
  | .all matchers, record => acceptsAll matchers record
  | .any matchers, record => acceptsAny matchers record
  | .negation matcher, record => !accepts matcher record

def acceptsAll : List Matcher → Json → Bool
  | [], _ => true
  | matcher :: rest, record => accepts matcher record && acceptsAll rest record

def acceptsAny : List Matcher → Json → Bool
  | [], _ => false
  | matcher :: rest, record => accepts matcher record || acceptsAny rest record

end

/-- The records that match, in their order. -/
def select (matcher : Matcher) (records : List Json) : List Json :=
  records.filter matcher.accepts

/-- The records that match and those that do not, each in their order. -/
def partition (matcher : Matcher) (records : List Json) : List Json × List Json :=
  records.partition matcher.accepts

end Matcher

end Remediation
