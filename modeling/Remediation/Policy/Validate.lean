import Remediation.Action.Basic
import Remediation.Filter.Problem
import Remediation.Run.Basic

/-!
What is wrong with a policy before it is run. The problems of its filters come first, then those
of the policies inside of them, then those of its actions.
-/

namespace Remediation

/-- A reason why a policy would not run, or would not do what it says. -/
inductive PolicyProblem where
  | unnamed
  | nestingTooDeep (depth most : Nat)
  | unknownResource (name : String)
  | filter (problem : FilterProblem)
  | parameters (error : SchemaError)
  | unknownAction (name : String)
  deriving Repr

def PolicyProblem.message : PolicyProblem → String
  | .unnamed => "policy has no name"
  | .nestingTooDeep depth most => RunError.nestingMessage depth most
  | .unknownResource name => RunError.unknownResourceMessage name
  | .filter problem => problem.message
  | .parameters error => error.text
  | .unknownAction name => s!"unknown action '{name}'"

/-- The problem of an action, if it has one. -/
def ActionSpec.problems (schemas : SchemaTable) (spec : ActionSpec) : List PolicyProblem :=
  match Table.get? schemas spec.name with
  | some schema =>
      match spec.check schema with
      | .ok _ => []
      | .error error => [.parameters error]
  | none => [.unknownAction spec.name]

mutual

/-- The problems of a policy and of the policies inside of it. -/
def Policy.problems (resources : ResourceRegistry) (schemas : SchemaTable)
    : Policy → List PolicyProblem
  | ⟨_, resource, _, filters, actions, _, _⟩ =>
      (if (resources.get? resource).isSome then [] else [.unknownResource resource])
        ++ Filter.problemsWithin resources schemas filters
        ++ actions.flatMap (·.problems schemas)

/-- The problems of filters, each followed by those of the policies inside of it. -/
def Filter.problemsWithin (resources : ResourceRegistry) (schemas : SchemaTable)
    : List Filter → List PolicyProblem
  | [] => []
  | filter :: rest =>
      filter.problems.map .filter ++ filter.nestedProblems resources schemas
        ++ Filter.problemsWithin resources schemas rest

/-- The problems of the policies inside of a filter, in the order of the tree. -/
def Filter.nestedProblems (resources : ResourceRegistry) (schemas : SchemaTable)
    : Filter → List PolicyProblem
  | .missing policy => policy.problems resources schemas
  | .all filters => Filter.nestedProblemsOfAll resources schemas filters
  | .any filters => Filter.nestedProblemsOfAll resources schemas filters
  | .negation filter => filter.nestedProblems resources schemas
  | .value _ => []
  | .listItem .. => []
  | .namespaceMetric .. => []

def Filter.nestedProblemsOfAll (resources : ResourceRegistry) (schemas : SchemaTable)
    : List Filter → List PolicyProblem
  | [] => []
  | filter :: rest =>
      filter.nestedProblems resources schemas
        ++ Filter.nestedProblemsOfAll resources schemas rest

end

/-- What is wrong with a policy of a document. -/
def Policy.validate (resources : ResourceRegistry) (schemas : SchemaTable) (maxDepth : Nat)
    (policy : Policy) : List PolicyProblem :=
  (if policy.name.isEmpty then [.unnamed] else [])
    ++ (if maxDepth < policy.nestingDepth then [.nestingTooDeep policy.nestingDepth maxDepth] else [])
    ++ policy.problems resources schemas

end Remediation
