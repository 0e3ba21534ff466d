import Remediation.Proofs.Run.Accounts
import Remediation.Proofs.Run.Reach

/-! What the actions of a policy were answered. Every unit of every action that is run is answered
or not started, one after the other, and the results of a run are those of the answers; an action
that is not run has the same results whatever the state is.
-/

namespace Remediation

variable {σ : Type}

-----------------------------------------------------------------------------------------
-- One action
-----------------------------------------------------------------------------------------

/-- Whether an action of a policy is run: it is valid, and the run is no dry run. -/
def ActionSpec.IsRun (setting : RunSetting σ) (spec : ActionSpec) : Prop :=
  spec.IsValid setting.actions ∧ setting.options.dryRun = false

/-- An action of a policy leads from one state to another one with the answers that its units get,
if it is run; otherwise it leads nowhere and there are no answers. -/
inductive ActionSpec.Answers (setting : RunSetting σ) (policy : String) (resource : ResourceType)
    (records : List Json) (spec : ActionSpec)
    : σ → List UnitAnswer → σ → Prop
  | notRun {state : σ} (idle : ¬spec.IsRun setting)
    : Answers setting policy resource records spec state [] state
  | run {state final : σ} {action : Action σ} {answers : List UnitAnswer}
    (found : Table.get? setting.actions spec.name = some action)
    (valid : spec.check action.schema = .ok ()) (real : setting.options.dryRun = false)
    (answered
      : action.Answers setting.plane ⟨resource, setting.resources, spec.params, policy⟩ state
          (WorkUnit.split action.mode.unitSize records) answers final)
    : Answers setting policy resource records spec state answers final

namespace ActionSpec

/-- The results of an action of a policy for records when its units got some answers. -/
def resultsFor (setting : RunSetting σ) (resource : ResourceType) (records : List Json)
    (spec : ActionSpec) (answers : List UnitAnswer)
    : List ActionResult :=
  let ids := shownIds resource records
  match Table.get? setting.actions spec.name with
  | none => ActionResult.forAll spec.name (.failed .schema s!"unknown action '{spec.name}'") ids
  | some action =>
      match spec.check action.schema with
      | .error error => ActionResult.forAll spec.name (.failed .schema error.text) ids
      | .ok _ =>
          if setting.options.dryRun then ActionResult.forAll spec.name (.skipped "dry-run") ids
          else spec.resultsOf resource action.mode.unitSize records answers

variable {setting : RunSetting σ} {policy : String} {resource : ResourceType}
  {records : List Json} {spec : ActionSpec} {state final : σ} {answers : List UnitAnswer}

theorem resultsFor_of_isRun {action : Action σ}
    (found : Table.get? setting.actions spec.name = some action)
    (valid : spec.check action.schema = .ok ()) (real : setting.options.dryRun = false)
    : spec.resultsFor setting resource records answers
      = spec.resultsOf resource action.mode.unitSize records answers := by
  simp only [resultsFor, found, valid, real, Bool.false_eq_true, if_false]

/-- There is one result for each record. -/
theorem length_resultsFor (setting : RunSetting σ) (resource : ResourceType) (records : List Json)
    (spec : ActionSpec) (answers : List UnitAnswer)
    : (spec.resultsFor setting resource records answers).length = records.length := by
  have forAll (outcome : Outcome)
      : (ActionResult.forAll spec.name outcome (shownIds resource records)).length
        = records.length := by
    simp [ActionResult.forAll, shownIds]
  unfold resultsFor
  cases Table.get? setting.actions spec.name with
  | none => exact forAll _
  | some action =>
      dsimp only
      cases spec.check action.schema with
      | error error => exact forAll _
      | ok _ =>
          cases setting.options.dryRun with
          | true => exact forAll _
          | false => simp [resultsOf, shownIds]

/-- The results of an action that is not run do not depend on any answer. -/
theorem resultsFor_of_not_isRun (idle : ¬spec.IsRun setting) (answers others : List UnitAnswer)
    : spec.resultsFor setting resource records answers
      = spec.resultsFor setting resource records others := by
  unfold resultsFor
  cases found : Table.get? setting.actions spec.name with
  | none => rfl
  | some action =>
      dsimp only
      cases valid : spec.check action.schema with
      | error error => rfl
      | ok _ =>
          cases real : setting.options.dryRun with
          | true => rfl
          | false => exact absurd ⟨⟨action, found, valid⟩, real⟩ idle

/-- An action leads somewhere from every state. -/
theorem exists_answers (setting : RunSetting σ) (policy : String) (resource : ResourceType)
    (records : List Json) (spec : ActionSpec) (state : σ)
    : ∃ answers final, spec.Answers setting policy resource records state answers final := by
  by_cases isRun : spec.IsRun setting
  · obtain ⟨⟨action, found, valid⟩, real⟩ := isRun
    obtain ⟨answers, final, answered⟩ :=
      Action.exists_answers setting.plane action ⟨resource, setting.resources, spec.params, policy⟩
        (WorkUnit.split action.mode.unitSize records) state
    exact ⟨answers, final, .run found valid real answered⟩
  · exact ⟨[], state, .notRun isRun⟩

/-- The units of an action that is run were answered, or not started. -/
theorem Answers.of_isRun
    (answered : spec.Answers setting policy resource records state answers final)
    (isRun : spec.IsRun setting) {action : Action σ}
    (found : Table.get? setting.actions spec.name = some action)
    : spec.check action.schema = .ok ()
      ∧ action.Answers setting.plane ⟨resource, setting.resources, spec.params, policy⟩ state
          (WorkUnit.split action.mode.unitSize records) answers final := by
  cases answered with
  | notRun idle => exact absurd isRun idle
  | run foundToo valid _ answered =>
      cases foundToo.symm.trans found
      exact ⟨valid, answered⟩

/-- An action has the results of the answers that its units get. -/
theorem Answers.run_execute
    (answered : spec.Answers setting policy resource records state answers final)
    : (spec.execute setting.plane setting.actions setting.resources setting.options policy resource
        records).run state
      = (spec.resultsFor setting resource records answers, final) := by
  cases answered with
  | notRun idle =>
      unfold execute resultsFor
      cases found : Table.get? setting.actions spec.name with
      | none => rfl
      | some action =>
          dsimp only
          cases valid : spec.check action.schema with
          | error error => rfl
          | ok _ =>
              cases real : setting.options.dryRun with
              | true => rfl
              | false => exact absurd ⟨⟨action, found, valid⟩, real⟩ idle
  | run found valid real answered =>
      rw [resultsFor_of_isRun found valid real, ← ActionSpec.run_execute found valid
        setting.options.pool answered, ← real]

end ActionSpec

-----------------------------------------------------------------------------------------
-- All actions of a policy
-----------------------------------------------------------------------------------------

/-- Actions lead from one state to another one with some answers, each from where the action before
it led to. -/
inductive Policy.Acts (setting : RunSetting σ) (policy : String) (resource : ResourceType)
    (records : List Json)
    : σ → List ActionSpec → List (List UnitAnswer) → σ → Prop
  | nothing (state : σ) : Acts setting policy resource records state [] [] state
  | action {state middle final : σ} {spec : ActionSpec} {specs : List ActionSpec}
    {answers : List UnitAnswer} {others : List (List UnitAnswer)}
    (first : spec.Answers setting policy resource records state answers middle)
    (rest : Acts setting policy resource records middle specs others final)
    : Acts setting policy resource records state (spec :: specs) (answers :: others) final

namespace Policy

variable {setting : RunSetting σ} {resource : ResourceType} {records : List Json}

/-- Actions lead somewhere from every state. -/
theorem exists_acts (setting : RunSetting σ) (policy : String) (resource : ResourceType)
    (records : List Json) (specs : List ActionSpec) (state : σ)
    : ∃ answers final, Acts setting policy resource records state specs answers final := by
  induction specs generalizing state with
  | nil => exact ⟨[], state, .nothing state⟩
  | cons spec rest ih =>
      obtain ⟨answers, middle, first⟩ := spec.exists_answers setting policy resource records state
      obtain ⟨others, final, acts⟩ := ih middle
      exact ⟨answers :: others, final, .action first acts⟩

/-- The results of actions when their units got some answers. -/
def resultsFor (setting : RunSetting σ) (resource : ResourceType) (records : List Json)
    (specs : List ActionSpec) (answers : List (List UnitAnswer))
    : List ActionResult :=
  (specs.zip answers).flatMap (fun acted =>
    acted.1.resultsFor setting resource records acted.2)

/-- Actions that follow each other have the results of their answers. Witness: induction on the
actions. -/
theorem Acts.run_act {policy : String} {state final : σ} {specs : List ActionSpec}
    {answers : List (List UnitAnswer)}
    (acts : Acts setting policy resource records state specs answers final)
    : (act setting policy resource records specs).run state
      = (resultsFor setting resource records specs answers, final) := by
  induction acts with
  | nothing state => rfl
  | @action state middle final spec specs answers others first _ ih =>
      have ran := first.run_execute
      change (((spec.execute setting.plane setting.actions setting.resources setting.options policy
              resource records).run state).1
            ++ ((act setting policy resource records specs).run
                ((spec.execute setting.plane setting.actions setting.resources setting.options
                  policy resource records).run state).2).1,
          ((act setting policy resource records specs).run
            ((spec.execute setting.plane setting.actions setting.resources setting.options policy
              resource records).run state).2).2)
        = _
      rw [ran, ih]
      rfl

/-- Each action got its answers from some state on. -/
theorem Acts.exists_answers {policy : String} {state final : σ} {specs : List ActionSpec}
    {answers : List (List UnitAnswer)}
    (acts : Acts setting policy resource records state specs answers final) {index : Nat}
    {spec : ActionSpec} (found : specs[index]? = some spec)
    : ∃ given before after,
        answers[index]? = some given
        ∧ spec.Answers setting policy resource records before given after := by
  induction acts generalizing index with
  | nothing => cases found
  | action first _ ih =>
      cases index with
      | zero =>
          cases found
          exact ⟨_, _, _, rfl, first⟩
      | succ index => exact ih found

/-- Without records there is nothing to answer. -/
theorem Acts.eq_of_nil {policy : String} {state final : σ} {specs : List ActionSpec}
    {answers : List (List UnitAnswer)}
    (acts : Acts setting policy resource [] state specs answers final)
    : final = state ∧ resultsFor setting resource [] specs answers = [] := by
  induction acts with
  | nothing => exact ⟨rfl, rfl⟩
  | @action _ _ _ spec _ answers _ first _ ih =>
      obtain ⟨rfl, none⟩ := ih
      have noResults : spec.resultsFor setting resource [] answers = [] :=
        List.length_eq_zero_iff.mp (spec.length_resultsFor setting resource [] answers)
      refine ⟨?_, ?_⟩
      · cases first with
        | notRun _ => rfl
        | run _ _ _ answered =>
            cases answered
            rfl
      · simpa only [resultsFor, List.zip_cons_cons, List.flatMap_cons, noResults,
          List.nil_append] using none

/-- What is done for the records that matched has the results of the answers. -/
theorem Acts.run_actOnMatched {policy : Policy} {state final : σ}
    {answers : List (List UnitAnswer)}
    (acts : Acts setting policy.name resource records state policy.actions answers final)
    : (policy.actOnMatched setting resource records).run state
      = (resultsFor setting resource records policy.actions answers, final) := by
  cases records with
  | nil =>
      obtain ⟨rfl, none⟩ := acts.eq_of_nil
      rw [none]
      rfl
  | cons record rest => exact acts.run_act

/-- Within the limits, the report has the results of the answers. -/
theorem Acts.outcomeOf_remediate {policy : Policy} {evaluation : Evaluation} {state final : σ}
    {answers : List (List UnitAnswer)}
    (acts
      : Acts setting policy.name resource evaluation.matched state policy.actions answers final)
    (limits : policy.checkLimits evaluation.matched.length evaluation.population = .ok ())
    : outcomeOf (policy.remediate setting resource evaluation) state
      = (.ok
          (policy.reportOf resource evaluation
            (resultsFor setting resource evaluation.matched policy.actions answers)
            (setting.plane.cancelled final)),
        final) := by
  rw [Policy.outcomeOf_remediate, limits]
  dsimp only
  rw [acts.run_actOnMatched]

/-- The block of an action in a report has the results of the answers that its units got. -/
theorem block_resultsFor {report : RunReport} {specs : List ActionSpec}
    {answers : List (List UnitAnswer)} (matched : report.matched = records.length)
    (results : report.results = resultsFor setting resource records specs answers)
    {index : Nat} {spec : ActionSpec} {given : List UnitAnswer}
    (found : specs[index]? = some spec) (answered : answers[index]? = some given)
    : report.block index = spec.resultsFor setting resource records given := by
  have here : (specs.zip answers)[index]? = some (spec, given) :=
    List.getElem?_zip_eq_some.mpr ⟨found, answered⟩
  rw [RunReport.block, results, matched, resultsFor]
  exact block_flatMap (fun _ => ActionSpec.length_resultsFor _ _ _ _ _) here

end Policy

end Remediation
