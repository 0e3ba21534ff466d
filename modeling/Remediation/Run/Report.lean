import Remediation.Action.Basic

/-!
The report of a run: how many records there were and how many of them matched, the result of
every action for every matched record, and an entry for each record that was left out.
-/

namespace Remediation

/-- How many results there are of each kind. -/
structure Summary where
  succeeded : Nat
  failed : Nat
  skipped : Nat
  deriving DecidableEq, Repr

/-- What came of running a policy. -/
structure RunReport where
  policy : String
  /-- The key of the resource type. -/
  resource : String
  population : Nat
  matched : Nat
  /-- The results of the actions in order, each in the order of the records. -/
  results : List ActionResult
  /-- One entry for each record that the filters left out. -/
  excluded : List ActionResult
  cancelled : Bool
  deriving Repr

namespace RunReport

/-- A run that was cancelled before its records were known. -/
def cutShort (policy resource : String) : RunReport :=
  ⟨policy, resource, 0, 0, [], [], true⟩

def summary (report : RunReport) : Summary :=
  let count (label : String) := (report.results.filter (·.outcome.label == label)).length
  ⟨count "succeeded", count "failed", count "skipped"⟩

def hasFailures (report : RunReport) : Bool :=
  report.results.any (·.outcome.isFailed)

end RunReport

end Remediation
