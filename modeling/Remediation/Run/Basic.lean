import Remediation.Action.Execute
import Remediation.Filter.Matcher
import Remediation.Policy.Limits
import Remediation.Resource.Fetch
import Remediation.Run.Report

/-!
Running policies. The records of the policy's type are fetched and filtered, where a filter for
what is missing first evaluates its own policy; then the limits are checked, and only then the
actions are run on the records that matched.
-/

namespace Remediation

/-- Why a policy has no report. -/
inductive RunError where
  | unknownResource (name : String)
  | fetch (error : FetchError)
  | nestingTooDeep (depth most : Nat)
  | limitExceeded (refusal : LimitExceeded)
  | cancelled

namespace RunError

/-- The error of a nesting that is too deep, as it is also reported before a run. -/
def nestingMessage (depth most : Nat) : String :=
  s!"policy nesting depth {depth} exceeds the limit of {most}"

def unknownResourceMessage (name : String) : String :=
  s!"unknown resource type: {name}"

def message : RunError → String
  | .unknownResource name => unknownResourceMessage name
  | .fetch error => error.message
  | .nestingTooDeep depth most => nestingMessage depth most
  | .limitExceeded refusal => refusal.message
  | .cancelled => "policy run cancelled"

/-- The error of a run whose fetch failed. -/
def ofFetch : FetchError → RunError
  | .cancelled => .cancelled
  | error => .fetch error

end RunError

/-- What a run depends on besides the state of the control plane. -/
structure RunSetting (σ : Type) where
  plane : ControlPlane σ
  resources : ResourceRegistry
  actions : ActionRegistry σ
  options : ExecuteOptions
  /-- How many levels of policies may be nested. -/
  maxDepth : Nat
  /-- How many pages of one list may be read. -/
  pageBudget : Nat

/-- A step of a run, which may end it. -/
abbrev RunM (σ : Type) := ExceptT RunError (StateM σ)

/-- The records of a policy's type, split by its filters. -/
structure Evaluation where
  population : Nat
  matched : List Json
  excluded : List Json
  deriving Repr

namespace RunSetting

variable {σ : Type}

/-- The resource type of a name. -/
def resource (setting : RunSetting σ) (name : String) : RunM σ ResourceType :=
  match setting.resources.get? name with
  | some resource => pure resource
  | none => throw (.unknownResource name)

/-- All records of a type. -/
def fetch (setting : RunSetting σ) (resource : ResourceType) : RunM σ (List Json) := do
  match ← fetchAll setting.plane setting.pageBudget resource with
  | .ok records => pure records
  | .error error => throw (.ofFetch error)

/-- Refuses a policy below too many others. -/
def checkDepth (setting : RunSetting σ) (depth : Nat) : RunM σ Unit :=
  if setting.maxDepth < depth then throw (.nestingTooDeep depth setting.maxDepth) else pure ()

end RunSetting

mutual

/-- Fetches and filters the records of a policy that has some number of policies above it. All
fetches are over before a record is matched. -/
def Policy.evaluate (setting : RunSetting σ) (depth : Nat) : Policy → RunM σ Evaluation
  | ⟨_, name, _, filters, _, _, _⟩ => do
      setting.checkDepth depth
      let resource ← setting.resource name
      let records ← setting.fetch resource
      let sets ← Filter.matchedSetsOfAll setting (depth + 1) filters
      let matcher := (Matcher.compile resource.idField (.all filters) sets).1
      let (matched, excluded) := matcher.partition records
      pure ⟨records.length, matched, excluded⟩

/-- The identities that a policy inside of another one matches. -/
def Policy.matchedIds (setting : RunSetting σ) (depth : Nat) : Policy → RunM σ IdentitySet
  | ⟨policyName, name, description, filters, actions, limit, percent⟩ => do
      let resource ← setting.resource name
      let evaluation ←
        Policy.evaluate setting depth
          ⟨policyName, name, description, filters, actions, limit, percent⟩
      pure (identities evaluation.matched resource.idField)

/-- The identities that the policies inside of a filter match, in the order of the tree. -/
def Filter.matchedSets (setting : RunSetting σ) (depth : Nat)
    : Filter → RunM σ (List IdentitySet)
  | .missing policy => do
      let set ← policy.matchedIds setting depth
      pure [set]
  | .all filters => Filter.matchedSetsOfAll setting depth filters
  | .any filters => Filter.matchedSetsOfAll setting depth filters
  | .negation filter => filter.matchedSets setting depth
  | .value _ => pure []
  | .listItem .. => pure []
  | .namespaceMetric .. => pure []

def Filter.matchedSetsOfAll (setting : RunSetting σ) (depth : Nat)
    : List Filter → RunM σ (List IdentitySet)
  | [] => pure []
  | filter :: rest => do
      let first ← filter.matchedSets setting depth
      let others ← Filter.matchedSetsOfAll setting depth rest
      pure (first ++ others)

end

namespace Policy

variable {σ : Type}

/-- The entries of a report for the records that the filters left out. -/
def excludedEntries (resource : ResourceType) (evaluation : Evaluation) : List ActionResult :=
  ActionResult.forAll "filter" (.skipped "excluded by filters") (shownIds resource evaluation.excluded)

/-- Runs actions one after the other on records. -/
def act (setting : RunSetting σ) (policy : String) (resource : ResourceType) (records : List Json)
    : List ActionSpec → StateM σ (List ActionResult)
  | [] => pure []
  | spec :: rest => do
      let first ←
        spec.execute setting.plane setting.actions setting.resources setting.options policy
          resource records
      let others ← act setting policy resource records rest
      pure (first ++ others)

/-- Checks the limits of a policy on what it matches, and runs its actions. -/
def remediate (setting : RunSetting σ) (policy : Policy) (resource : ResourceType)
    (evaluation : Evaluation) : RunM σ RunReport := do
  match policy.checkLimits evaluation.matched.length evaluation.population with
  | .error refusal => throw (.limitExceeded refusal)
  | .ok _ => do
      let results ←
        if evaluation.matched.isEmpty then pure []
        else act setting policy.name resource evaluation.matched policy.actions
      let cancelled := setting.plane.cancelled (← get)
      pure
        {
          policy := policy.name,
          resource := resource.key,
          population := evaluation.population,
          matched := evaluation.matched.length,
          results := results,
          excluded := excludedEntries resource evaluation,
          cancelled := cancelled
        }

/-- Evaluates a policy that has no other above it; there is nothing if the run was cancelled
before all records were fetched. -/
def evaluateUnlessCancelled (setting : RunSetting σ) (policy : Policy)
    : RunM σ (Option Evaluation) :=
  tryCatch (some <$> policy.evaluate setting 0)
    (fun
      | .cancelled => pure none
      | error => throw error)

/-- Runs a policy. A run that is cancelled before its records are filtered has a report that
says so and has no results. -/
def run (setting : RunSetting σ) (policy : Policy) : RunM σ RunReport := do
  let resource ← setting.resource policy.resource
  setting.checkDepth policy.nestingDepth
  match ← policy.evaluateUnlessCancelled setting with
  | some evaluation => policy.remediate setting resource evaluation
  | none => pure (.cutShort policy.name resource.key)

end Policy

end Remediation
