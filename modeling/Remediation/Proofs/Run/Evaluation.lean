import Remediation.Proofs.Resource.Fetch
import Remediation.Proofs.Run.Steps

/-! What an evaluation hands out. Whatever the filters are and whatever the policies inside of them
match, the records of a fetch are split by a test, so that none is lost and both parts keep the
order of the fetch.
-/

namespace Remediation

variable {σ : Type}

/-- Records split by a test. -/
def Evaluation.ofTest (records : List Json) (test : Json → Bool) : Evaluation where
  population := records.length
  matched := records.filter test
  excluded := records.filter (fun record => !test record)

theorem Evaluation.ofTest_congr {records : List Json} {test other : Json → Bool}
    (same : ∀ record ∈ records, test record = other record)
    : ofTest records test = ofTest records other := by
  have different : ∀ record ∈ records, (!test record) = !other record :=
    fun record member => congrArg not (same record member)
  simp only [ofTest, List.filter_congr same, List.filter_congr different]

/-- No record is lost in a split. -/
theorem Evaluation.population_ofTest (records : List Json) (test : Json → Bool)
    : (ofTest records test).population
      = (ofTest records test).matched.length + (ofTest records test).excluded.length :=
  List.length_eq_length_filter_add test

/-- A compiled tree splits records by whether it accepts them. -/
theorem Matcher.evaluation_eq_ofTest (matcher : Matcher) (records : List Json)
    : (⟨records.length, (matcher.partition records).1, (matcher.partition records).2⟩ : Evaluation)
      = .ofTest records matcher.accepts := by
  simp only [partition, List.partition_eq_filter_filter]
  rfl

/-- The records that a fetch hands out can be told apart. -/
theorem RunSetting.distinguished_of_fetch {setting : RunSetting σ} {resource : ResourceType}
    {state final : σ} {records : List Json}
    (fetched : outcomeOf (setting.fetch resource) state = (.ok records, final))
    : Distinguished resource.idField records := by
  rw [outcomeOf_fetch] at fetched
  cases handed : ((fetchAll setting.plane setting.pageBudget resource).run state).1 with
  | error error => simp [handed, Except.mapError] at fetched
  | ok _ =>
      have same := (Prod.mk.inj fetched).1
      rw [handed] at same
      cases same
      exact Listing.records_distinguished handed

section Evaluate

variable {setting : RunSetting σ} {policy : Policy} {resource : ResourceType}

/-- An evaluation fetches the records of the policy's type, evaluates the policies right inside of
the policy, and splits the records by the filters as they are compiled with what these match.
-/
theorem Policy.outcomeOf_evaluate {depth : Nat} (within : depth ≤ setting.maxDepth)
    (known : setting.resources.get? policy.resource = some resource) (state : σ)
    : outcomeOf (policy.evaluate setting depth) state
      = match outcomeOf (setting.fetch resource) state with
        | (.error error, after) => (.error error, after)
        | (.ok records, after) =>
            match outcomeOf (policy.nested.mapM (Policy.matchedIds setting (depth + 1))) after with
            | (.error error, final) => (.error error, final)
            | (.ok sets, final) =>
                (.ok
                  (.ofTest records
                    (Matcher.compile resource.idField policy.filterTree sets).1.accepts),
                final) := by
  rw [evaluate_eq, RunSetting.checkDepth_of_le within, pure_bind,
    RunSetting.resource_of_known known, pure_bind, outcomeOf_bind]
  simp only [outcomeOf_bind, Matcher.evaluation_eq_ofTest, outcomeOf_pure]
  cases outcomeOf (setting.fetch resource) state with
  | mk outcome after =>
      cases outcome with
      | error error => rfl
      | ok records =>
          dsimp only
          cases outcomeOf (policy.nested.mapM (Policy.matchedIds setting (depth + 1))) after with
          | mk outcome final => cases outcome <;> rfl

/-- Whether a record satisfies the compiled filters of a policy that has no other one inside of it.
-/
def Policy.compiledTest (policy : Policy) (resource : ResourceType) : Json → Bool :=
  (Matcher.compile resource.idField policy.filterTree []).1.accepts

/-- Without policies inside of a policy, its evaluation depends on the records of its fetch alone.
-/
theorem Policy.outcomeOf_evaluate_of_nested_eq_nil (nested : policy.nested = []) {depth : Nat}
    (within : depth ≤ setting.maxDepth)
    (known : setting.resources.get? policy.resource = some resource) (state : σ)
    : outcomeOf (policy.evaluate setting depth) state
      = match outcomeOf (setting.fetch resource) state with
        | (.error error, after) => (.error error, after)
        | (.ok records, after) =>
            (.ok (.ofTest records (policy.compiledTest resource)), after) := by
  rw [outcomeOf_evaluate within known, nested]
  rfl

/-- An evaluation that succeeds has fetched the records of the policy's type and split them by a
test. -/
theorem Policy.split_of_evaluate_eq_ok {depth : Nat} {state final : σ} {evaluation : Evaluation}
    (known : setting.resources.get? policy.resource = some resource)
    (evaluated : outcomeOf (policy.evaluate setting depth) state = (.ok evaluation, final))
    : ∃ records after test,
        outcomeOf (setting.fetch resource) state = (.ok records, after)
        ∧ Distinguished resource.idField records
        ∧ evaluation = .ofTest records test := by
  have within : depth ≤ setting.maxDepth := by
    by_contra beyond
    rw [evaluate_eq, RunSetting.checkDepth_of_lt (Nat.lt_of_not_le beyond)] at evaluated
    cases evaluated
  rw [outcomeOf_evaluate within known] at evaluated
  cases fetched : outcomeOf (setting.fetch resource) state with
  | mk outcome after =>
      simp only [fetched] at evaluated
      cases outcome with
      | error error => cases evaluated
      | ok records =>
          have told := RunSetting.distinguished_of_fetch fetched
          dsimp only at evaluated
          cases sets
              : outcomeOf (policy.nested.mapM (Policy.matchedIds setting (depth + 1))) after with
          | mk outcome last =>
              rw [sets] at evaluated
              cases outcome with
              | error error => cases evaluated
              | ok sets =>
                  cases evaluated
                  exact ⟨records, after, _, rfl, told, rfl⟩

end Evaluate

end Remediation
