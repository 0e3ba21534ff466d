import Remediation.Proofs.Policy.Nesting
import Remediation.Run.Basic

/-! The steps of a run. A failing step ends what it is part of, so each outcome of a composed step
splits into the outcomes of its parts; the nested policies of a tree are evaluated one after the
other, in the order of the tree.
-/

namespace Remediation

variable {σ ε α β : Type}

-----------------------------------------------------------------------------------------
-- Steps one after the other
-----------------------------------------------------------------------------------------

/-- What a step answers from a state, and the state that it leaves. -/
def outcomeOf (step : ExceptT ε (StateM σ) α) (state : σ) : Except ε α × σ :=
  step.run.run state

@[simp]
theorem outcomeOf_pure (answer : α) (state : σ)
    : outcomeOf (pure answer : ExceptT ε (StateM σ) α) state = (.ok answer, state) :=
  rfl

@[simp]
theorem outcomeOf_throw (error : ε) (state : σ)
    : outcomeOf (throw error : ExceptT ε (StateM σ) α) state = (.error error, state) :=
  rfl

/-- A step that cannot fail answers what it answers by itself. -/
@[simp]
theorem outcomeOf_lift (step : StateM σ α) (state : σ)
    : outcomeOf (liftM step : ExceptT ε (StateM σ) α) state
      = (.ok (step.run state).1, (step.run state).2) :=
  rfl

/-- A failed step skips what follows it; a step that succeeds hands its answer and state on. -/
theorem outcomeOf_bind (step : ExceptT ε (StateM σ) α) (next : α → ExceptT ε (StateM σ) β)
    (state : σ)
    : outcomeOf (step >>= next) state
      = match outcomeOf step state with
        | (.ok answer, after) => outcomeOf (next answer) after
        | (.error error, after) => (.error error, after) := by
  change (match (outcomeOf step state).1 with
    | .ok answer => (next answer).run
    | .error error => pure (.error error)).run (outcomeOf step state).2 = _
  cases outcomeOf step state with
  | mk outcome after => cases outcome <;> rfl

/-- Two steps succeed together exactly if the first one does and the second one does after it. -/
theorem outcomeOf_bind_eq_ok_iff {step : ExceptT ε (StateM σ) α}
    {next : α → ExceptT ε (StateM σ) β} {state final : σ} {answer : β}
    : outcomeOf (step >>= next) state = (.ok answer, final)
      ↔ ∃ first middle,
          outcomeOf step state = (.ok first, middle)
          ∧ outcomeOf (next first) middle = (.ok answer, final) := by
  rw [outcomeOf_bind]
  cases outcomeOf step state with
  | mk outcome after => cases outcome <;> simp [and_assoc]

/-- Mapping changes the answer of a step that succeeds. -/
theorem outcomeOf_map (f : α → β) (step : ExceptT ε (StateM σ) α) (state : σ)
    : outcomeOf (f <$> step) state
      = ((outcomeOf step state).1.map f, (outcomeOf step state).2) := by
  rw [map_eq_pure_bind, outcomeOf_bind]
  cases outcomeOf step state with
  | mk outcome after => cases outcome <;> rfl

/-- A handler takes over from the state in which a step fails. -/
theorem outcomeOf_tryCatch (step : ExceptT ε (StateM σ) α)
    (handle : ε → ExceptT ε (StateM σ) α) (state : σ)
    : outcomeOf (tryCatch step handle) state
      = match outcomeOf step state with
        | (.ok answer, after) => (.ok answer, after)
        | (.error error, after) => outcomeOf (handle error) after := by
  change (match (outcomeOf step state).1 with
    | .ok answer => pure (.ok answer)
    | .error error => (handle error).run : StateM σ (Except ε α)).run (outcomeOf step state).2 = _
  cases outcomeOf step state with
  | mk outcome after => cases outcome <;> rfl

/-- A step that answers in its own way for each element, whenever a property of the state holds that
it keeps, answers in that way for all of them.
-/
theorem outcomeOf_mapM_eq_ok {holds : σ → Prop} {step : α → ExceptT ε (StateM σ) β}
    {answer : α → β} (list : List α)
    (each
      : ∀ element ∈ list,
          ∀ state,
            holds state
            → ∃ final, holds final ∧ outcomeOf (step element) state = (.ok (answer element), final))
    (state : σ) (start : holds state)
    : ∃ final,
        holds final ∧ outcomeOf (list.mapM step) state = (.ok (list.map answer), final) := by
  induction list generalizing state with
  | nil => exact ⟨state, start, rfl⟩
  | cons element rest ih =>
      obtain ⟨middle, held, first⟩ := each element (by simp) state start
      obtain ⟨final, kept, others⟩ :=
        ih (fun other member => each other (by simp [member])) middle held
      refine ⟨final, kept, ?_⟩
      simp only [List.mapM_cons, List.map_cons, outcomeOf_bind, first, others, outcomeOf_pure]

/-- Where a step for each element succeeded, it succeeded for each of them from some state. -/
theorem exists_of_outcomeOf_mapM_eq_ok {step : α → ExceptT ε (StateM σ) β} {list : List α}
    {state final : σ} {answers : List β}
    (succeeded : outcomeOf (list.mapM step) state = (.ok answers, final))
    : ∀ element ∈ list,
        ∃ before answer after, outcomeOf (step element) before = (.ok answer, after) := by
  induction list generalizing state final answers with
  | nil => simp
  | cons first rest ih =>
      rw [List.mapM_cons] at succeeded
      obtain ⟨answer, middle, atFirst, others⟩ := outcomeOf_bind_eq_ok_iff.mp succeeded
      obtain ⟨more, last, atRest, _⟩ := outcomeOf_bind_eq_ok_iff.mp others
      intro element member
      rcases List.mem_cons.mp member with rfl | later
      · exact ⟨state, answer, middle, atFirst⟩
      · exact ih atRest element later

-----------------------------------------------------------------------------------------
-- The steps that a run is made of
-----------------------------------------------------------------------------------------

namespace RunSetting

variable {setting : RunSetting σ} {state : σ}

theorem resource_of_known {name : String} {resource : ResourceType}
    (known : setting.resources.get? name = some resource)
    : setting.resource name = pure resource := by
  simp only [RunSetting.resource, known]

theorem resource_of_unknown {name : String} (unknown : setting.resources.get? name = none)
    : setting.resource name = throw (.unknownResource name) := by
  simp only [RunSetting.resource, unknown]

theorem checkDepth_of_le {depth : Nat} (within : depth ≤ setting.maxDepth)
    : setting.checkDepth depth = pure () := by
  simp only [RunSetting.checkDepth, Nat.not_lt.mpr within, if_false]

theorem checkDepth_of_lt {depth : Nat} (beyond : setting.maxDepth < depth)
    : setting.checkDepth depth = throw (.nestingTooDeep depth setting.maxDepth) := by
  simp only [RunSetting.checkDepth, beyond, if_true]

/-- A failed fetch fails the step that it is part of, with an error that tells why. -/
theorem outcomeOf_fetch (setting : RunSetting σ) (resource : ResourceType) (state : σ)
    : outcomeOf (setting.fetch resource) state
      = (((fetchAll setting.plane setting.pageBudget resource).run state).1.mapError .ofFetch,
        ((fetchAll setting.plane setting.pageBudget resource).run state).2) := by
  simp only [RunSetting.fetch, outcomeOf_bind, outcomeOf_lift]
  cases ((fetchAll setting.plane setting.pageBudget resource).run state).1 <;> rfl

end RunSetting

-----------------------------------------------------------------------------------------
-- Evaluation, with the nested policies as a list
-----------------------------------------------------------------------------------------

mutual

/-- A tree hands out the sets of the policies inside of it, in the order of the tree. -/
theorem Filter.matchedSets_eq_mapM (setting : RunSetting σ) (depth : Nat) (filter : Filter)
    : filter.matchedSets setting depth
      = filter.missingPolicies.mapM (Policy.matchedIds setting depth) := by
  cases filter with
  | missing policy => simp [Filter.matchedSets, Filter.missingPolicies]
  | all filters =>
      simpa only [Filter.matchedSets, Filter.missingPolicies]
        using Filter.matchedSetsOfAll_eq_mapM setting depth filters
  | any filters =>
      simpa only [Filter.matchedSets, Filter.missingPolicies]
        using Filter.matchedSetsOfAll_eq_mapM setting depth filters
  | negation filter =>
      simpa only [Filter.matchedSets, Filter.missingPolicies]
        using filter.matchedSets_eq_mapM setting depth
  | value _ | listItem _ _ _ | namespaceMetric _ _ =>
      simp [Filter.matchedSets, Filter.missingPolicies]

theorem Filter.matchedSetsOfAll_eq_mapM (setting : RunSetting σ) (depth : Nat)
    (filters : List Filter)
    : Filter.matchedSetsOfAll setting depth filters
      = (Filter.missingPoliciesOfAll filters).mapM (Policy.matchedIds setting depth) := by
  cases filters with
  | nil => simp [Filter.matchedSetsOfAll, Filter.missingPoliciesOfAll]
  | cons filter rest =>
      simp only [Filter.matchedSetsOfAll, Filter.missingPoliciesOfAll, List.mapM_append,
        filter.matchedSets_eq_mapM setting depth,
        Filter.matchedSetsOfAll_eq_mapM setting depth rest]

end

/-- Evaluating a policy fetches its records, then evaluates the policies right inside of it, and
splits the records by the compiled filters. -/
theorem Policy.evaluate_eq (setting : RunSetting σ) (depth : Nat) (policy : Policy)
    : policy.evaluate setting depth
      = (do
          setting.checkDepth depth
          let resource ← setting.resource policy.resource
          let records ← setting.fetch resource
          let sets ← policy.nested.mapM (Policy.matchedIds setting (depth + 1))
          let matcher := (Matcher.compile resource.idField policy.filterTree sets).1
          pure
            ⟨records.length, (matcher.partition records).1, (matcher.partition records).2⟩) := by
  cases policy
  simp only [Policy.evaluate, Filter.matchedSetsOfAll_eq_mapM, Policy.nested, Policy.filterTree]

/-- An evaluation fails if its fetch does. -/
theorem Policy.evaluate_eq_error {setting : RunSetting σ} {policy : Policy} {depth : Nat}
    {resource : ResourceType} {state final : σ} {error : RunError}
    (within : depth ≤ setting.maxDepth)
    (known : setting.resources.get? policy.resource = some resource)
    (failed : outcomeOf (setting.fetch resource) state = (.error error, final))
    : outcomeOf (policy.evaluate setting depth) state = (.error error, final) := by
  rw [Policy.evaluate_eq, RunSetting.checkDepth_of_le within, pure_bind,
    RunSetting.resource_of_known known, pure_bind, outcomeOf_bind, failed]

/-- The identities of a nested policy are those of the records that its evaluation matches. -/
theorem Policy.matchedIds_eq (setting : RunSetting σ) (depth : Nat) (policy : Policy)
    : policy.matchedIds setting depth
      = (do
          let resource ← setting.resource policy.resource
          let evaluation ← policy.evaluate setting depth
          pure (identities evaluation.matched resource.idField)) := by
  cases policy
  simp only [Policy.matchedIds]

-----------------------------------------------------------------------------------------
-- From the evaluation to the report
-----------------------------------------------------------------------------------------

namespace Policy

/-- What is left to do for the matched records: nothing if there are none. -/
def actOnMatched (setting : RunSetting σ) (policy : Policy) (resource : ResourceType)
    (matched : List Json)
    : StateM σ (List ActionResult) :=
  if matched.isEmpty then pure []
  else act setting policy.name resource matched policy.actions

/-- The report of a run that evaluated its policy. -/
def reportOf (policy : Policy) (resource : ResourceType) (evaluation : Evaluation)
    (results : List ActionResult) (cancelled : Bool)
    : RunReport where
  policy := policy.name
  resource := resource.key
  population := evaluation.population
  matched := evaluation.matched.length
  results := results
  excluded := excludedEntries resource evaluation
  cancelled := cancelled

/-- Limits that are exceeded end a run before its actions; otherwise the actions are run and their
results reported.
-/
theorem outcomeOf_remediate (setting : RunSetting σ) (policy : Policy)
    (resource : ResourceType) (evaluation : Evaluation) (state : σ)
    : outcomeOf (policy.remediate setting resource evaluation) state
      = match policy.checkLimits evaluation.matched.length evaluation.population with
        | .error refusal => (.error (.limitExceeded refusal), state)
        | .ok _ =>
            let acted := (policy.actOnMatched setting resource evaluation.matched).run state
            (.ok
              (policy.reportOf resource evaluation acted.1 (setting.plane.cancelled acted.2)),
            acted.2) := by
  unfold remediate actOnMatched
  cases policy.checkLimits evaluation.matched.length evaluation.population with
  | error refusal => rfl
  | ok _ =>
      cases evaluation.matched.isEmpty with
      | true => rfl
      | false => rfl

/-- A run checks the policy's type and depth, evaluates the policy and goes on with what it matched,
or reports that it was cancelled before.
-/
theorem outcomeOf_run (setting : RunSetting σ) (policy : Policy) (state : σ)
    : outcomeOf (policy.run setting) state
      = match setting.resources.get? policy.resource with
        | none => (.error (.unknownResource policy.resource), state)
        | some resource =>
            if setting.maxDepth < policy.nestingDepth then
              (.error (.nestingTooDeep policy.nestingDepth setting.maxDepth), state)
            else
              match outcomeOf (policy.evaluate setting 0) state with
              | (.ok evaluation, middle) =>
                  outcomeOf (policy.remediate setting resource evaluation) middle
              | (.error .cancelled, middle) =>
                  (.ok (.cutShort policy.name resource.key), middle)
              | (.error error, middle) => (.error error, middle) := by
  unfold run
  cases known : setting.resources.get? policy.resource with
  | none => rw [RunSetting.resource_of_unknown known]; rfl
  | some resource =>
      rw [RunSetting.resource_of_known known, pure_bind]
      by_cases beyond : setting.maxDepth < policy.nestingDepth
      · rw [RunSetting.checkDepth_of_lt beyond]
        simp only [beyond, if_true]
        rfl
      · rw [RunSetting.checkDepth_of_le (Nat.le_of_not_lt beyond), pure_bind]
        simp only [beyond, if_false]
        rw [outcomeOf_bind]
        have guarded
            : outcomeOf (policy.evaluateUnlessCancelled setting) state
              = match outcomeOf (policy.evaluate setting 0) state with
                | (.ok evaluation, middle) => (.ok (some evaluation), middle)
                | (.error .cancelled, middle) => (.ok none, middle)
                | (.error error, middle) => (.error error, middle) := by
          unfold evaluateUnlessCancelled
          rw [outcomeOf_tryCatch, outcomeOf_map]
          cases outcomeOf (policy.evaluate setting 0) state with
          | mk outcome middle =>
              cases outcome with
              | ok evaluation => rfl
              | error error => cases error <;> rfl
        rw [guarded]
        cases outcomeOf (policy.evaluate setting 0) state with
        | mk outcome middle =>
            cases outcome with
            | ok evaluation => rfl
            | error error => cases error <;> rfl

/-- A run with a report has passed its checks. It has acted on the records that its policy matched
within the limits, or it was cancelled before these were known.
-/
theorem outcomeOf_run_eq_ok {setting : RunSetting σ} {policy : Policy} {state final : σ}
    {report : RunReport} (ran : outcomeOf (policy.run setting) state = (.ok report, final))
    : ∃ resource,
        setting.resources.get? policy.resource = some resource
        ∧ policy.nestingDepth ≤ setting.maxDepth
        ∧ ((∃ evaluation middle results,
              outcomeOf (policy.evaluate setting 0) state = (.ok evaluation, middle)
              ∧ policy.checkLimits evaluation.matched.length evaluation.population = .ok ()
              ∧ (policy.actOnMatched setting resource evaluation.matched).run middle
                = (results, final)
              ∧ report
                = policy.reportOf resource evaluation results (setting.plane.cancelled final))
          ∨ outcomeOf (policy.evaluate setting 0) state = (.error .cancelled, final)
            ∧ report = .cutShort policy.name resource.key) := by
  rw [outcomeOf_run] at ran
  cases known : setting.resources.get? policy.resource with
  | none =>
      rw [known] at ran
      cases ran
  | some resource =>
      simp only [known] at ran
      by_cases beyond : setting.maxDepth < policy.nestingDepth
      · simp only [beyond, if_true] at ran
        cases ran
      · simp only [beyond, if_false] at ran
        refine ⟨resource, rfl, Nat.le_of_not_lt beyond, ?_⟩
        cases evaluated : outcomeOf (policy.evaluate setting 0) state with
        | mk outcome middle =>
            rw [evaluated] at ran
            cases outcome with
            | ok evaluation =>
                simp only [outcomeOf_remediate] at ran
                cases limits
                    : policy.checkLimits evaluation.matched.length evaluation.population with
                | error refusal =>
                    rw [limits] at ran
                    cases ran
                | ok _ =>
                    rw [limits] at ran
                    cases ran
                    exact .inl ⟨evaluation, middle, _, rfl, limits, rfl, rfl⟩
            | error error =>
                cases error with
                | cancelled =>
                    cases ran
                    exact .inr ⟨rfl, rfl⟩
                | unknownResource _ | fetch _ | nestingTooDeep _ _ | limitExceeded _ => cases ran

end Policy

end Remediation
