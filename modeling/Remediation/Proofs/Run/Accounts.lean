import Remediation.Proofs.Action.Completion
import Remediation.Proofs.Run.Evaluation
import Remediation.Proofs.Run.Selection

/-! What a report accounts for. Every fetched record is either matched or excluded, every action of
the policy has one result for each record that matched, whatever became of the action, and every
result is counted once.
-/

namespace Remediation

variable {σ : Type}

-----------------------------------------------------------------------------------------
-- Which action a result is of
-----------------------------------------------------------------------------------------

/-- The action that a result is of, and the identity of the record that it is for. -/
def ActionResult.about (result : ActionResult) : String × String :=
  (result.action, result.resourceId)

theorem ActionResult.map_about_forAll (action : String) (outcome : Outcome) (ids : List String)
    : (forAll action outcome ids).map about = ids.map (action, ·) :=
  List.map_map

/-- Records that have identities are shown by them. -/
theorem shownIds_of_identities {resource : ResourceType} {records : List Json} {ids : List String}
    (identified : records.map (identity · resource.idField) = ids.map some)
    : shownIds resource records = ids := by
  have shown := congrArg (List.map (·.getD "")) identified
  simpa [shownIds, Function.comp_def] using shown

/-- An action has one result for each record, in their order, whether it is known, takes its
parameters, is run or not. -/
theorem ActionSpec.map_about_execute (plane : ControlPlane σ) (actions : ActionRegistry σ)
    (resources : ResourceRegistry) (options : ExecuteOptions) (policy : String)
    (resource : ResourceType) (spec : ActionSpec) (records : List Json) (state : σ)
    : ((spec.execute plane actions resources options policy resource records).run state).1.map
        ActionResult.about
      = (shownIds resource records).map (spec.name, ·) := by
  unfold execute
  cases Table.get? actions spec.name with
  | none => exact ActionResult.map_about_forAll _ _ _
  | some action =>
      dsimp only
      cases spec.check action.schema with
      | error error => exact ActionResult.map_about_forAll _ _ _
      | ok _ =>
          cases options.dryRun with
          | true => exact ActionResult.map_about_forAll _ _ _
          | false =>
              -- The outcomes of the units are put at the places of their records.
              change ((shownIds resource records).mapIdx (fun place id =>
                (⟨spec.name, id, outcomeAt _ place⟩ : ActionResult))).map ActionResult.about = _
              refine List.ext_getElem? (fun place => ?_)
              simp only [List.getElem?_map, List.getElem?_mapIdx, Option.map_map]
              rfl

/-- Actions that follow each other have their results one behind the other. -/
theorem Policy.map_about_act (setting : RunSetting σ) (policy : String) (resource : ResourceType)
    (records : List Json) (specs : List ActionSpec) (state : σ)
    : ((act setting policy resource records specs).run state).1.map ActionResult.about
      = specs.flatMap (fun spec => (shownIds resource records).map (spec.name, ·)) := by
  induction specs generalizing state with
  | nil => rfl
  | cons spec rest ih =>
      have first :=
        spec.map_about_execute setting.plane setting.actions setting.resources setting.options
          policy resource records state
      have others :=
        ih ((spec.execute setting.plane setting.actions setting.resources setting.options policy
          resource records).run state).2
      rw [List.flatMap_cons, ← first, ← others]
      exact List.map_append

/-- The results for records that matched, of which there may be none. -/
theorem Policy.map_about_actOnMatched (setting : RunSetting σ) (policy : Policy)
    (resource : ResourceType) (matched : List Json) (state : σ)
    : ((policy.actOnMatched setting resource matched).run state).1.map ActionResult.about
      = policy.actions.flatMap (fun spec => (shownIds resource matched).map (spec.name, ·)) := by
  unfold actOnMatched
  cases matched with
  | nil => exact (List.flatMap_eq_nil_iff.mpr (fun _ _ => rfl)).symm
  | cons record rest => exact map_about_act setting policy.name resource _ policy.actions state

-----------------------------------------------------------------------------------------
-- Blocks of results
-----------------------------------------------------------------------------------------

/-- Where every element stands for a block of one size, the block at a place is that of the element
there. -/
theorem block_flatMap {α β : Type} {block : α → List β} {size : Nat}
    (sized : ∀ element, (block element).length = size) {list : List α} {index : Nat} {element : α}
    (found : list[index]? = some element)
    : ((list.flatMap block).drop (index * size)).take size = block element := by
  induction list generalizing index with
  | nil => cases found
  | cons first rest ih =>
      rw [List.flatMap_cons]
      cases index with
      | zero =>
          cases found
          rw [Nat.zero_mul, List.drop_zero]
          exact List.take_left' (sized element)
      | succ index =>
          have behind : (index + 1) * size = (block first).length + index * size := by
            rw [sized, Nat.succ_mul, Nat.add_comm]
          rw [behind, List.drop_length_add_append]
          exact ih found

/-- The results of the action at a place in a policy. -/
def RunReport.block (report : RunReport) (index : Nat) : List ActionResult :=
  (report.results.drop (index * report.matched)).take report.matched

/-- A report whose results are about the same records for every action has a block for each action.
-/
theorem RunReport.blocks {report : RunReport} {actions : List ActionSpec} {ids : List String}
    (matched : report.matched = ids.length)
    (about
      : report.results.map ActionResult.about
        = actions.flatMap (fun spec => ids.map (spec.name, ·)))
    : report.results.length = actions.length * report.matched
      ∧ ∀ index spec,
          actions[index]? = some spec
          → (report.block index).map ActionResult.about = ids.map (spec.name, ·) := by
  have sized (spec : ActionSpec) : (ids.map (spec.name, ·)).length = report.matched := by
    rw [List.length_map, matched]
  refine ⟨?_, ?_⟩
  · have lengths := congrArg List.length about
    rw [List.length_map, List.length_flatMap, List.map_congr_left (fun spec _ => sized spec),
      List.map_const', List.sum_replicate, smul_eq_mul] at lengths
    exact lengths
  · intro index spec found
    rw [block, List.map_take, List.map_drop, about]
    exact block_flatMap sized found

-----------------------------------------------------------------------------------------
-- Summaries
-----------------------------------------------------------------------------------------

@[simp]
theorem Outcome.label_succeeded (response : Json) : (succeeded response).label = "succeeded" :=
  rfl

@[simp]
theorem Outcome.label_failed (kind : FailureKind) (message : String)
    : (failed kind message).label = "failed" :=
  rfl

@[simp]
theorem Outcome.label_skipped (reason : String) : (skipped reason).label = "skipped" :=
  rfl

/-- Every result is counted, and none of them twice. Witness: induction on the results, where an
outcome has exactly one of the three labels. -/
theorem RunReport.summary_total (report : RunReport)
    : report.summary.succeeded + report.summary.failed + report.summary.skipped
      = report.results.length := by
  unfold summary
  dsimp only
  induction report.results with
  | nil => rfl
  | cons result rest ih =>
      obtain ⟨action, id, outcome⟩ := result
      cases outcome with
      | succeeded response => simp; omega
      | failed kind message => simp; omega
      | skipped reason => simp; omega

/-- A report has failures if its summary counts some. -/
theorem RunReport.hasFailures_iff (report : RunReport)
    : report.hasFailures = true ↔ 0 < report.summary.failed := by
  have label (outcome : Outcome) : (outcome.label == "failed") = outcome.isFailed := by
    cases outcome <;> rfl
  simp only [hasFailures, summary, label, List.any_eq_true, List.length_pos_iff_exists_mem,
    List.mem_filter]

-----------------------------------------------------------------------------------------
-- Reports
-----------------------------------------------------------------------------------------

/-- The records that were fetched for a policy, split by its filters; there are none if the run was
cancelled before all of them were there. -/
inductive Policy.Reviewed (setting : RunSetting σ) (policy : Policy) (resource : ResourceType)
    (state : σ)
    : Evaluation → Prop
  | split {records : List Json} {test : Json → Bool} {after evaluated : σ}
    (fetch : outcomeOf (setting.fetch resource) state = (.ok records, after))
    (evaluate
      : outcomeOf (policy.evaluate setting 0) state = (.ok (.ofTest records test), evaluated))
    : Reviewed setting policy resource state (.ofTest records test)
  | cutShort {evaluated : σ}
    (evaluate : outcomeOf (policy.evaluate setting 0) state = (.error .cancelled, evaluated))
    : Reviewed setting policy resource state ⟨0, [], []⟩

/-- What was fetched for a policy has been split into records that all have identities, and none of
it was lost. -/
theorem Policy.Reviewed.accounts {setting : RunSetting σ} {policy : Policy}
    {resource : ResourceType} {state : σ} {evaluation : Evaluation}
    (reviewed : policy.Reviewed setting resource state evaluation)
    : evaluation.population = evaluation.matched.length + evaluation.excluded.length
      ∧ (∀ record ∈ evaluation.matched, ∃ id, identity record resource.idField = some id)
      ∧ ∀ record ∈ evaluation.excluded, ∃ id, identity record resource.idField = some id := by
  cases reviewed with
  | split fetch _ =>
      have told := RunSetting.distinguished_of_fetch fetch
      exact ⟨Evaluation.population_ofTest _ _, (told.sublist List.filter_sublist).identified,
        (told.sublist List.filter_sublist).identified⟩
  | cutShort _ => exact ⟨rfl, by simp, by simp⟩

/-- A run with a report has reviewed the records of its policy, and has results of the actions for
those that matched. -/
theorem Policy.reviewed_of_report {setting : RunSetting σ} {policy : Policy} {state final : σ}
    {report : RunReport} (ran : outcomeOf (policy.run setting) state = (.ok report, final))
    : ∃ resource evaluation,
        setting.resources.get? policy.resource = some resource
        ∧ policy.Reviewed setting resource state evaluation
        ∧ report = policy.reportOf resource evaluation report.results report.cancelled
        ∧ report.results.map ActionResult.about
          = policy.actions.flatMap (fun spec =>
              (shownIds resource evaluation.matched).map (spec.name, ·)) := by
  obtain ⟨resource, known, _, ⟨evaluation, middle, results, evaluated, _, acted, reported⟩
    | ⟨evaluated, reported⟩⟩ := outcomeOf_run_eq_ok ran
  · obtain ⟨records, after, test, fetched, _, rfl⟩ :=
      Policy.split_of_evaluate_eq_ok known evaluated
    have about :=
      policy.map_about_actOnMatched setting resource (Evaluation.ofTest records test).matched middle
    rw [acted] at about
    subst reported
    exact ⟨resource, _, known, .split fetched evaluated, rfl, about⟩
  · subst reported
    exact ⟨resource, _, known, .cutShort evaluated, rfl,
      (List.flatMap_eq_nil_iff.mpr (fun _ _ => rfl)).symm⟩

/-- A report accounts for everything. All fetched records are either matched or excluded; for each
action of the policy in order, the results have a block with the name of the action and the
identities of the records that matched, in the order of the fetch; the excluded entries are for the
other records, in the order of the fetch; and the summary counts each result once.
-/
theorem Policy.run_accounts {setting : RunSetting σ} {policy : Policy} {state final : σ}
    {report : RunReport} (ran : outcomeOf (policy.run setting) state = (.ok report, final))
    : ∃ (resource : ResourceType) (evaluation : Evaluation) (ids others : List String),
        setting.resources.get? policy.resource = some resource
        ∧ policy.Reviewed setting resource state evaluation
        ∧ evaluation.matched.map (identity · resource.idField) = ids.map some
        ∧ evaluation.excluded.map (identity · resource.idField) = others.map some
        ∧ report.population = evaluation.population
        ∧ report.matched = evaluation.matched.length
        ∧ report.population = report.matched + report.excluded.length
        ∧ report.results.length = policy.actions.length * report.matched
        ∧ (∀ index spec,
            policy.actions[index]? = some spec
            → (report.block index).map ActionResult.about = ids.map (spec.name, ·))
        ∧ report.excluded
          = others.map (fun id => ⟨"filter", id, .skipped "excluded by filters"⟩)
        ∧ report.summary.succeeded + report.summary.failed + report.summary.skipped
          = report.results.length := by
  obtain ⟨resource, evaluation, known, reviewed, reported, about⟩ := reviewed_of_report ran
  obtain ⟨all, identified, identifiedOthers⟩ := reviewed.accounts
  have matchedIds := (identities_of_identified identified).symm
  have excludedIds := (identities_of_identified identifiedOthers).symm
  rw [shownIds_of_identities matchedIds] at about
  have matched : report.matched = evaluation.matched.length := by rw [reported]; rfl
  have population : report.population = evaluation.population := by rw [reported]; rfl
  have excluded
      : report.excluded
        = (identities evaluation.excluded resource.idField).map (fun id =>
            ⟨"filter", id, .skipped "excluded by filters"⟩) := by
    rw [reported, ← shownIds_of_identities excludedIds]
    rfl
  have lengths := congrArg List.length matchedIds
  have lengthsOthers := congrArg List.length excludedIds
  rw [List.length_map, List.length_map] at lengths lengthsOthers
  obtain ⟨length, blocks⟩ := RunReport.blocks (matched.trans lengths) about
  refine ⟨resource, evaluation, _, _, known, reviewed, matchedIds, excludedIds, population,
    matched, ?_, length, blocks, excluded, report.summary_total⟩
  rw [population, matched, excluded, List.length_map, ← lengthsOthers]
  exact all

-----------------------------------------------------------------------------------------
-- An action that is run, an unknown one, and one that comes too late
-----------------------------------------------------------------------------------------

namespace Sample

/-- A control plane that lists three alarms and is cancelled with the second call. -/
def auditSetting : RunSetting Nat :=
  {
    setting with
    plane := { plane with cancelled := fun count => 2 ≤ count },
    actions := [("tally", tally)]
  }

def audit : Policy :=
  {
    inSpace "" with
    filters := [.negation (.value ⟨"namespace", .eq, some (.string "SYS.OBS"), none⟩)],
    actions := [⟨"tally", []⟩, ⟨"reboot", []⟩, ⟨"tally", []⟩]
  }

theorem audit_evaluated
    : outcomeOf (audit.evaluate auditSetting 0) 0
      = (.ok
          ⟨3, [alarm "a" "SYS.VPC", alarm "b" "SYS.ECS"], [alarm "c" "SYS.OBS"]⟩,
        1) := by
  have known : auditSetting.resources.get? audit.resource = some .alarm := rfl
  have fetched : outcomeOf (auditSetting.fetch .alarm) 0 = (.ok alarms, 1) := rfl
  have split
      : Evaluation.ofTest alarms (audit.compiledTest .alarm)
        = ⟨3, [alarm "a" "SYS.VPC", alarm "b" "SYS.ECS"], [alarm "c" "SYS.OBS"]⟩ := by
    cbv
  rw [Policy.outcomeOf_evaluate_of_nested_eq_nil rfl (Nat.zero_le _) known, fetched, ← split]

theorem audit_ran
    : ∃ report final,
        outcomeOf (audit.run auditSetting) 0 = (.ok report, final)
        ∧ report.cancelled = true
        ∧ report.summary = ⟨2, 2, 2⟩ := by
  have known : auditSetting.resources.get? audit.resource = some .alarm := rfl
  have within : ¬auditSetting.maxDepth < audit.nestingDepth := by decide
  have limits : audit.checkLimits 2 3 = .ok () := rfl
  rw [Policy.outcomeOf_run, known]
  simp only [within, if_false, audit_evaluated, Policy.outcomeOf_remediate, List.length_cons,
    List.length_nil, limits]
  exact ⟨_, _, rfl, rfl, rfl⟩

end Sample

/-- The run is cancelled while the first action is run, the second action is not known, and the
third one is not started: there are six results all the same, and an entry for the excluded alarm.
-/
theorem Policy.run_accounts_audit
    : ∃ report final,
        outcomeOf (Sample.audit.run Sample.auditSetting) 0 = (.ok report, final)
        ∧ report.cancelled = true
        ∧ report.summary = ⟨2, 2, 2⟩
        ∧ report.results.length = 6
        ∧ (report.block 1).map ActionResult.about = [("reboot", "a"), ("reboot", "b")]
        ∧ report.excluded = [⟨"filter", "c", .skipped "excluded by filters"⟩] := by
  obtain ⟨report, final, ran, cancelled, summary⟩ := Sample.audit_ran
  obtain ⟨resource, evaluation, ids, others, known, reviewed, identified, identifiedOthers, _,
    matched, _, length, blocks, excluded, _⟩ := Policy.run_accounts ran
  have same : ResourceType.alarm = resource := Option.some.inj known
  subst same
  have evaluated
      : evaluation
        = ⟨
          3, [Sample.alarm "a" "SYS.VPC", Sample.alarm "b" "SYS.ECS"], [Sample.alarm "c" "SYS.OBS"]
        ⟩ := by
    cases reviewed with
    | split _ evaluate =>
        exact Except.ok.inj (Prod.mk.inj (evaluate.symm.trans Sample.audit_evaluated)).1
    | cutShort evaluate => cases evaluate.symm.trans Sample.audit_evaluated
  subst evaluated
  have all : ["a", "b"] = ids := (List.map_inj_right (fun _ _ => Option.some.inj)).mp identified
  have one : ["c"] = others :=
    (List.map_inj_right (fun _ _ => Option.some.inj)).mp identifiedOthers
  subst all one
  refine ⟨report, final, ran, cancelled, summary, ?_, blocks 1 _ rfl, excluded⟩
  rw [length, matched]
  rfl

end Remediation
