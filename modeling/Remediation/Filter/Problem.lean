import Remediation.Filter.Value

/-!
What is wrong with a tree of filters before any record is matched: key paths that cannot be read
and patterns that are rejected. The filters of policies inside the tree are looked at too.
-/

namespace Remediation

/-- A fault of a filter that shows without records. -/
inductive FilterProblem where
  | malformedPath (malformed : MalformedPath)
  | invalidPattern (key : String) (rejection : Regex.Rejection)
  deriving DecidableEq, Repr

def FilterProblem.message : FilterProblem → String
  | .malformedPath malformed => malformed.message
  | .invalidPattern key rejection => s!"invalid regex in '{key}': {rejection.message}"

/-- The fault of a key path. -/
def pathProblems (key : String) : List FilterProblem :=
  match KeyPath.parse key with
  | .ok _ => []
  | .error malformed => [.malformedPath malformed]

/-- The faults of a value filter. Its pattern is looked at as it stands. -/
def ValueFilter.problems (filter : ValueFilter) : List FilterProblem :=
  pathProblems filter.key
    ++ match filter.operator, filter.value with
      | .regex, some (.string pattern) =>
          match Regex.compile pattern with
          | .ok _ => []
          | .error rejection => [.invalidPattern filter.key rejection]
      | _, _ => []

mutual

def Filter.problems : Filter → List FilterProblem
  | .value filter => filter.problems
  | .listItem key attributes _ => pathProblems key ++ Filter.problemsOfAll attributes
  | .missing policy => policy.filterProblems
  | .namespaceMetric .. => []
  | .all filters => Filter.problemsOfAll filters
  | .any filters => Filter.problemsOfAll filters
  | .negation filter => filter.problems

def Filter.problemsOfAll : List Filter → List FilterProblem
  | [] => []
  | filter :: rest => filter.problems ++ Filter.problemsOfAll rest

def Policy.filterProblems : Policy → List FilterProblem
  | ⟨_, _, _, filters, _, _, _⟩ => Filter.problemsOfAll filters

end

end Remediation
