import Remediation.Proofs.Policy.Problems
import Remediation.Proofs.Run.Answers

/-! What the check of a policy promises of its runs. A policy without problems never fails for its
types or its depth, and none of its actions is refused; a policy that is reported for a type or for
its depth changes nothing.
-/

namespace Remediation

variable {σ ε α β : Type}

-----------------------------------------------------------------------------------------
-- The errors of a step
-----------------------------------------------------------------------------------------

/-- Whatever state a step starts from, if it fails then with one of some errors. -/
def FailsOnlyWith (errors : ε → Prop) (step : ExceptT ε (StateM σ) α) : Prop :=
  ∀ state error, (outcomeOf step state).1 = .error error → errors error

namespace FailsOnlyWith

variable {errors : ε → Prop}

theorem pure (answer : α) : FailsOnlyWith errors (Pure.pure answer : ExceptT ε (StateM σ) α) := by
  intro state error failed
  cases failed

theorem bind {step : ExceptT ε (StateM σ) α} {next : α → ExceptT ε (StateM σ) β}
    (first : FailsOnlyWith errors step) (goesOn : ∀ answer, FailsOnlyWith errors (next answer))
    : FailsOnlyWith errors (step >>= next) := by
  intro state error failed
  rw [outcomeOf_bind] at failed
  cases ran : outcomeOf step state with
  | mk outcome after =>
      rw [ran] at failed
      cases outcome with
      | ok answer => exact goesOn answer after error failed
      | error other =>
          cases failed
          exact first state _ (congrArg Prod.fst ran)

theorem mapM {step : α → ExceptT ε (StateM σ) β} {list : List α}
    (each : ∀ element ∈ list, FailsOnlyWith errors (step element))
    : FailsOnlyWith errors (list.mapM step) := by
  induction list with
  | nil => exact .pure _
  | cons element rest ih =>
      rw [List.mapM_cons]
      refine (each element List.mem_cons_self).bind (fun answer => ?_)
      exact (ih (fun other member => each other (List.mem_cons_of_mem _ member))).bind
        (fun others => .pure _)

end FailsOnlyWith

/-- The error of a fetch, as a run reports it. -/
def RunError.IsOfFetch (error : RunError) : Prop :=
  ∃ source, error = .ofFetch source

theorem RunError.not_isOfFetch_unknownResource (name : String)
    : ¬(unknownResource name).IsOfFetch := by
  rintro ⟨source, same⟩
  cases source <;> cases same

theorem RunError.not_isOfFetch_nestingTooDeep (depth most : Nat)
    : ¬(nestingTooDeep depth most).IsOfFetch := by
  rintro ⟨source, same⟩
  cases source <;> cases same

theorem RunSetting.fetch_failsOnlyWith (setting : RunSetting σ) (resource : ResourceType)
    : FailsOnlyWith RunError.IsOfFetch (setting.fetch resource) := by
  intro state error failed
  rw [outcomeOf_fetch] at failed
  cases fetched
      : ((fetchAll setting.plane setting.pageBudget resource).run state).1 with
  | ok records =>
      rw [fetched] at failed
      cases failed
  | error source =>
      rw [fetched] at failed
      cases failed
      exact ⟨source, rfl⟩

/-- Where all types are known and the depth is within bounds, an evaluation fails only if a fetch
does, at every level of nesting. Witness: induction over the nesting; each level down is one step
closer to the bound. -/
theorem Policy.evaluate_failsOnlyWith {setting : RunSetting σ} (policy : Policy) {depth : Nat}
    (within : depth + policy.nestingDepth ≤ setting.maxDepth)
    (known
      : ∀ inner,
          policy.Contains inner
          → ∃ resource, setting.resources.get? inner.resource = some resource)
    : FailsOnlyWith RunError.IsOfFetch (policy.evaluate setting depth) := by
  induction policy using Policy.nesting_induction generalizing depth with
  | step policy ih =>
      obtain ⟨resource, found⟩ := known policy (.self policy)
      rw [Policy.evaluate_eq, RunSetting.checkDepth_of_le (Nat.le_of_add_right_le within),
        pure_bind,
        RunSetting.resource_of_known found, pure_bind]
      refine (setting.fetch_failsOnlyWith resource).bind (fun records => ?_)
      refine (FailsOnlyWith.mapM (fun inner nested => ?_)).bind (fun sets => .pure _)
      have knownInner := fun deeper below => known deeper (.inside nested below)
      obtain ⟨innerResource, innerFound⟩ := knownInner inner (.self inner)
      have less := Policy.nestingDepth_nested nested
      rw [Policy.matchedIds_eq, RunSetting.resource_of_known innerFound, pure_bind]
      exact (ih inner nested (by omega) knownInner).bind (fun evaluation => .pure _)

-----------------------------------------------------------------------------------------
-- Results of valid actions
-----------------------------------------------------------------------------------------

/-- An action without problems is valid. -/
theorem ActionSpec.isValid_of_problems_eq_nil {actions : ActionRegistry σ} {spec : ActionSpec}
    (clean : spec.problems actions.schemas = [])
    : spec.IsValid actions := by
  unfold ActionSpec.problems at clean
  rw [ActionRegistry.schemas, Table.get?_map fun _ => Action.schema] at clean
  cases found : Table.get? actions spec.name with
  | none =>
      rw [found] at clean
      cases clean
  | some action =>
      simp only [found, Option.map_some] at clean
      cases checked : spec.check action.schema with
      | ok _ => exact ⟨action, found, checked⟩
      | error error =>
          rw [checked] at clean
          cases clean

/-- Whether an outcome says that the parameters of an action were refused. -/
def Outcome.IsRefusal (outcome : Outcome) : Prop :=
  ∃ message, outcome = .failed .schema message

theorem Outcome.not_isRefusal_skipped (reason : String) : ¬(skipped reason).IsRefusal := by
  rintro ⟨_, same⟩
  cases same

/-- No answer of a unit is a refusal. -/
theorem UnitAnswer.not_isRefusal (answer : UnitAnswer) : ¬answer.outcome.IsRefusal := by
  rintro ⟨message, same⟩
  cases answer with
  | none => cases same
  | some answer =>
      cases answer with
      | ok response => cases same
      | error error => cases error <;> cases same

/-- A valid action is not refused for any record, whatever its units are answered. -/
theorem ActionSpec.not_isRefusal_of_isValid {setting : RunSetting σ} {spec : ActionSpec}
    (valid : spec.IsValid setting.actions) (resource : ResourceType) (records : List Json)
    (answers : List UnitAnswer)
    : ∀ result ∈ spec.resultsFor setting resource records answers, ¬result.outcome.IsRefusal := by
  obtain ⟨action, found, checked⟩ := valid
  intro result member
  simp only [resultsFor, found, checked] at member
  cases dry : setting.options.dryRun with
  | true =>
      simp only [dry, if_true, ActionResult.forAll] at member
      obtain ⟨id, _, rfl⟩ := List.mem_map.mp member
      exact Outcome.not_isRefusal_skipped "dry-run"
  | false =>
      simp only [dry, Bool.false_eq_true, if_false, resultsOf] at member
      obtain ⟨place, _, rfl⟩ := List.mem_mapIdx.mp member
      exact UnitAnswer.not_isRefusal _

-----------------------------------------------------------------------------------------
-- Runs
-----------------------------------------------------------------------------------------

/-- A policy without problems never fails for an unknown type or for its depth, and no result of it
says that parameters were refused. -/
theorem Policy.run_of_validate_eq_nil {setting : RunSetting σ} {policy : Policy}
    (clean : policy.validate setting.resources setting.actions.schemas setting.maxDepth = [])
    {state final : σ} {outcome : Except RunError RunReport}
    (ran : outcomeOf (policy.run setting) state = (outcome, final))
    : (∀ name, outcome ≠ .error (.unknownResource name))
      ∧ (∀ depth most, outcome ≠ .error (.nestingTooDeep depth most))
      ∧ ∀ report,
          outcome = .ok report
          → ∀ result ∈ report.results, ∀ message, result.outcome ≠ .failed .schema message := by
  obtain ⟨within, known, actions⟩ := Policy.of_validate_eq_nil clean
  obtain ⟨resource, found⟩ := known policy (.self policy)
  have fails : FailsOnlyWith RunError.IsOfFetch (policy.evaluate setting 0) :=
    policy.evaluate_failsOnlyWith (by omega) known
  rw [Policy.outcomeOf_run, found] at ran
  simp only [Nat.not_lt.mpr within, if_false] at ran
  cases evaluated : outcomeOf (policy.evaluate setting 0) state with
  | mk evaluation middle =>
      rw [evaluated] at ran
      cases evaluation with
      | error error =>
          have ofFetch := fails state error (congrArg Prod.fst evaluated)
          cases error with
          | cancelled =>
              cases ran
              refine ⟨by simp, by simp, ?_⟩
              rintro report same result member
              cases same
              cases member
          | unknownResource name =>
              exact absurd ofFetch (RunError.not_isOfFetch_unknownResource name)
          | nestingTooDeep depth most =>
              exact absurd ofFetch (RunError.not_isOfFetch_nestingTooDeep depth most)
          | fetch _ | limitExceeded _ =>
              cases ran
              exact ⟨by simp, by simp, by simp⟩
      | ok evaluation =>
          obtain ⟨answers, last, acts⟩ :=
            Policy.exists_acts setting policy.name resource evaluation.matched policy.actions middle
          dsimp only at ran
          cases limits
              : policy.checkLimits evaluation.matched.length evaluation.population with
          | error refusal =>
              rw [Policy.outcomeOf_remediate, limits] at ran
              cases ran
              exact ⟨by simp, by simp, by simp⟩
          | ok _ =>
              rw [acts.outcomeOf_remediate limits] at ran
              cases ran
              refine ⟨by simp, by simp, ?_⟩
              rintro report same result member message refused
              cases same
              obtain ⟨⟨spec, given⟩, acted, member⟩ := List.mem_flatMap.mp member
              have valid := ActionSpec.isValid_of_problems_eq_nil
                (actions spec (List.of_mem_zip acted).1)
              exact ActionSpec.not_isRefusal_of_isValid valid resource _ given result member
                ⟨message, refused⟩

/-- A run of a policy with an unknown type in its tree, or that is nested too deep, asks for pages
only. -/
theorem Policy.run_asks_for_lists (plane : ControlPlane σ) (setting : RunSetting (Recorded σ))
    (sameCalls : setting.plane = plane.recorded) {policy : Policy}
    (refused
      : (∃ inner, policy.Contains inner ∧ setting.resources.get? inner.resource = none)
        ∨ setting.maxDepth < policy.nestingDepth)
    (before : Recorded σ)
    : ∃ made,
        (outcomeOf (policy.run setting) before).2.exchanges = before.exchanges ++ made
        ∧ ∀ exchange ∈ made, exchange.isList = true := by
  have noCalls : before.exchanges = before.exchanges ++ [] := (List.append_nil _).symm
  rw [Policy.outcomeOf_run]
  cases known : setting.resources.get? policy.resource with
  | none => exact ⟨[], noCalls, by simp⟩
  | some resource =>
      by_cases beyond : setting.maxDepth < policy.nestingDepth
      · simp only [beyond, if_true]
        exact ⟨[], noCalls, by simp⟩
      · simp only [beyond, if_false]
        obtain ⟨made, recorded, _, reads⟩ := policy.evaluate_onlyReads sameCalls 0 before
        change (outcomeOf (policy.evaluate setting 0) before).2.exchanges
          = before.exchanges ++ made at recorded
        cases evaluated : outcomeOf (policy.evaluate setting 0) before with
        | mk outcome middle =>
            rw [evaluated] at recorded
            cases outcome with
            | error error => cases error <;> exact ⟨made, recorded, reads.onlyLists⟩
            | ok evaluation =>
                -- An evaluation that succeeds has found every type in the tree.
                rcases refused with ⟨inner, inside, unknown⟩ | deep
                · obtain ⟨found, knownInner⟩ :=
                    Policy.known_of_evaluate_eq_ok evaluated inner inside
                  cases unknown.symm.trans knownInner
                · exact absurd deep beyond

/-- What the check of a policy says holds of all its runs with the same registries and the same
bound on the depth, whatever the control plane answers and whenever it is cancelled. Without
problems, a run fails neither for an unknown type nor for the depth, and no action is refused for
its parameters. If a type that the policy or a policy inside of it asks for is reported as unknown,
or the depth is, then no run asks for a change.
-/
theorem Policy.run_of_validate (plane : ControlPlane σ) (resources : ResourceRegistry)
    (actions : ActionRegistry (Recorded σ)) (options : ExecuteOptions) (maxDepth pageBudget : Nat)
    (policy : Policy) (start : σ)
    : ∃ outcome final,
        outcomeOf
            (policy.run ⟨plane.recorded, resources, actions, options, maxDepth, pageBudget⟩)
            (.start start)
          = (outcome, final)
        ∧ (policy.validate resources actions.schemas maxDepth = []
          → (∀ name, outcome ≠ .error (.unknownResource name))
            ∧ (∀ depth most, outcome ≠ .error (.nestingTooDeep depth most))
            ∧ ∀ report,
                outcome = .ok report
                → ∀ result ∈ report.results, ∀ message, result.outcome ≠ .failed .schema message)
        ∧ ((∃ name, .unknownResource name ∈ policy.validate resources actions.schemas maxDepth)
            ∨ (∃ depth most,
                .nestingTooDeep depth most ∈ policy.validate resources actions.schemas maxDepth)
          → ∀ exchange ∈ final.exchanges, exchange.isList = true) := by
  cases ran
      : outcomeOf
          (policy.run ⟨plane.recorded, resources, actions, options, maxDepth, pageBudget⟩)
          (.start start) with
  | mk outcome final =>
      refine ⟨outcome, final, rfl, fun clean => Policy.run_of_validate_eq_nil clean ran,
        fun reported => ?_⟩
      have refused
          : (∃ inner, policy.Contains inner ∧ resources.get? inner.resource = none)
            ∨ maxDepth < policy.nestingDepth := by
        rcases reported with ⟨name, unknown⟩ | ⟨depth, most, deep⟩
        · obtain ⟨inner, inside, rfl, missing⟩ :=
            Policy.unknownResource_mem_validate_iff.mp unknown
          exact .inl ⟨inner, inside, missing⟩
        · exact .inr (Policy.nestingTooDeep_mem_validate_iff.mp deep).1
      obtain ⟨made, recorded, lists⟩ :=
        Policy.run_asks_for_lists plane
          ⟨plane.recorded, resources, actions, options, maxDepth, pageBudget⟩ rfl refused
          (.start start)
      rw [ran] at recorded
      change final.exchanges = made at recorded
      exact recorded ▸ lists

-----------------------------------------------------------------------------------------
-- A clean policy, and one that asks for an unknown type inside of it
-----------------------------------------------------------------------------------------

namespace Sample

/-- Deletes all alarms that no vault stands for. -/
def unguarded : Policy :=
  { sweep with filters := [.missing ⟨"", "vault", none, [], [], none, none⟩] }

def alarmTypes : ResourceRegistry := ⟨[("alarm", .alarm)]⟩

def checkedSetting : RunSetting (Recorded Unit) :=
  .recording twoPages alarmTypes ⟨.inOrder 1, false⟩ 1 2

theorem sweep_validate
    : sweep.validate alarmTypes (ActionRegistry.builtin twoPages.recorded).schemas 1 = [] := by
  rfl

theorem unguarded_validate
    : unguarded.validate alarmTypes (ActionRegistry.builtin twoPages.recorded).schemas 1
      = [.unknownResource "vault"] := by
  rfl

end Sample

/-- The first policy is clean, so that no result says that parameters were refused. The type of the
policy inside of the second one is not known, so that nothing is deleted. -/
theorem Policy.run_of_validate_alarms
    : (∃ outcome final,
        outcomeOf (Sample.sweep.run Sample.checkedSetting) (.start ()) = (outcome, final)
        ∧ (∀ name, outcome ≠ .error (.unknownResource name))
        ∧ ∀ report,
            outcome = .ok report
            → ∀ result ∈ report.results, ∀ message, result.outcome ≠ .failed .schema message)
      ∧ ∃ outcome final,
          outcomeOf (Sample.unguarded.run Sample.checkedSetting) (.start ()) = (outcome, final)
          ∧ ∀ exchange ∈ final.exchanges, exchange.isList = true := by
  constructor
  · obtain ⟨outcome, final, ran, clean, _⟩ :=
      Policy.run_of_validate Sample.twoPages Sample.alarmTypes
        (ActionRegistry.builtin Sample.twoPages.recorded) ⟨.inOrder 1, false⟩ 1 2 Sample.sweep ()
    obtain ⟨known, _, accepted⟩ := clean Sample.sweep_validate
    exact ⟨outcome, final, ran, known, accepted⟩
  · obtain ⟨outcome, final, ran, _, refused⟩ :=
      Policy.run_of_validate Sample.twoPages Sample.alarmTypes
        (ActionRegistry.builtin Sample.twoPages.recorded) ⟨.inOrder 1, false⟩ 1 2 Sample.unguarded
        ()
    refine ⟨outcome, final, ran, refused (.inl ⟨"vault", ?_⟩)⟩
    rw [Sample.unguarded_validate]
    exact List.mem_singleton_self _

end Remediation
