import Mathlib
import Remediation.Proofs.ControlPlane.Gateway
import Remediation.Proofs.Run.Phases
import Remediation.Proofs.Settings.Endpoints

/-! Running the policies of a document. The policies of a document have distinct names, so a name
stands for one policy at most. Policies are run one after the other, each from where the one before
it led and whatever became of that one; what the program writes and the status that it ends with
follow from what became of all of them.
-/

namespace Remediation

variable {σ : Type}

-----------------------------------------------------------------------------------------
-- The names of policies
-----------------------------------------------------------------------------------------

namespace PolicyDocument

/-- Every policy has a name, and no two have the same one. -/
structure IsNamed (document : PolicyDocument) : Prop where
  nonempty : ∀ policy ∈ document.policies, policy.name ≠ ""
  distinct : (document.policies.map Policy.name).Nodup

/-- Names that are checked are no names of before, not empty and distinct. -/
theorem of_checkNames {seen : List String} {policies : List Policy}
    (checked : checkNames seen policies = .ok ())
    : (∀ policy ∈ policies, policy.name ≠ "" ∧ policy.name ∉ seen)
      ∧ (policies.map Policy.name).Nodup := by
  induction policies generalizing seen with
  | nil => exact ⟨nofun, List.nodup_nil⟩
  | cons policy rest ih =>
      unfold checkNames at checked
      split at checked
      · cases checked
      · rename_i named
        split at checked
        · cases checked
        · rename_i unseen
          obtain ⟨others, distinct⟩ := ih checked
          refine ⟨?_, List.nodup_cons.mpr ⟨?_, distinct⟩⟩
          · intro other member
            rcases List.mem_cons.mp member with rfl | later
            · exact ⟨by simpa using named, by simpa using unseen⟩
            · have fresh := others other later
              exact ⟨fresh.1, fun before => fresh.2 (List.mem_cons_of_mem _ before)⟩
          · intro again
            obtain ⟨other, later, same⟩ := List.mem_map.mp again
            exact (others other later).2 (same ▸ List.mem_cons_self)

theorem isNamed_of_ofNode {format : Document.Format} {isValue startsText : Bool}
    {node : Document.Node} {document : PolicyDocument}
    (read : ofNode format isValue startsText node = .ok document)
    : document.IsNamed := by
  unfold ofNode at read
  split at read
  · cases read
  · rename_i policies _
    cases checked : checkNames [] policies with
    | error error =>
        rw [checked] at read
        cases read
    | ok _ =>
        rw [checked] at read
        cases read
        obtain ⟨fresh, distinct⟩ := of_checkNames checked
        exact ⟨fun policy member => (fresh policy member).1, distinct⟩

/-- The policies of a document have names in whatever language it is written. -/
theorem isNamed_of_parse {format : DocumentFormat} {source : String} {document : PolicyDocument}
    (read : parse format source = .ok document)
    : document.IsNamed := by
  cases format with
  | json =>
      simp only [parse, parseJson] at read
      split at read
      · exact isNamed_of_ofNode read
      · cases read
  | yaml =>
      simp only [parse, parseYaml] at read
      split at read
      · split at read
        · cases read
        · exact isNamed_of_ofNode read
      · cases read

/-- The policies that a name stands for: without a name all of them, and with one the only policy
that has it. -/
inductive Selects (document : PolicyDocument) : Option String → List Policy → Prop
  | all : Selects document none document.policies
  | named {name : String} {policy : Policy}
    (only : document.policies.filter (fun other => other.name = name) = [policy])
    : Selects document (some name) [policy]

/-- If no two policies have the same name, then the first one of a name is the only one. -/
theorem filter_name_of_find? {policies : List Policy} {name : String} {policy : Policy}
    (distinct : (policies.map Policy.name).Nodup)
    (found : policies.find? (fun other => other.name == name) = some policy)
    : policies.filter (fun other => other.name = name) = [policy] := by
  induction policies with
  | nil => cases found
  | cons first rest ih =>
      obtain ⟨alone, distinct⟩ := List.nodup_cons.mp distinct
      by_cases same : first.name = name
      · rw [List.find?_cons_of_pos (by simpa using same)] at found
        cases found
        have others : rest.filter (fun other => other.name = name) = [] := by
          refine List.filter_eq_nil_iff.mpr (fun other member again => alone ?_)
          rw [same, ← of_decide_eq_true again]
          exact List.mem_map_of_mem member
        rw [List.filter_cons_of_pos (by simpa using same), others]
      · rw [List.find?_cons_of_neg (by simpa using same)] at found
        rw [List.filter_cons_of_neg (by simpa using same)]
        exact ih distinct found

/-- Policies are selected, or there is none of the name. -/
theorem select_cases {document : PolicyDocument} (named : document.IsNamed) (file : String)
    (name : Option String)
    : (∃ policies,
          document.select file name = .ok policies ∧ document.Selects name policies)
      ∨ ∃ wanted,
          name = some wanted
          ∧ (∀ policy ∈ document.policies, policy.name ≠ wanted)
          ∧ document.select file name = .error (.noPolicy wanted file) := by
  cases name with
  | none => exact .inl ⟨_, rfl, .all⟩
  | some wanted =>
      cases found : document.get? wanted with
      | none =>
          refine .inr ⟨wanted, rfl, ?_, by simp only [select, found]⟩
          simpa [get?] using found
      | some policy =>
          exact .inl ⟨[policy], by simp only [select, found],
            .named (filter_name_of_find? named.distinct found)⟩

end PolicyDocument

-----------------------------------------------------------------------------------------
-- Runs that nothing cancels
-----------------------------------------------------------------------------------------

namespace Gateway

variable {gateway : Gateway} {transport : Http.Transport σ} {before after : Session σ}

/-- No call to a service cancels a run. -/
theorem cancelled_of_leads {made : List Exchange}
    (leads : (gateway.plane transport).Leads before made after)
    : after.cancelled = before.cancelled := by
  induction leads with
  | nothing => rfl
  | @call before middle after exchange others first _ ih =>
      rw [ih]
      obtain ⟨call, _⟩ := exchange
      obtain ⟨_, answered⟩ := first
      cases call with
      | list resource cursor answer => exact cancelled_listPage answered
      | change mutation answer => exact cancelled_perform answered

/-- No policy cancels the run of another one. -/
theorem cancelled_of_run {resources : ResourceRegistry} {options : ExecuteOptions}
    {maxDepth pageBudget : Nat} {policy : Policy} {outcome : Except RunError RunReport}
    (ran
      : outcomeOf
          (policy.run
            (.ofPlane (gateway.plane transport) resources options maxDepth pageBudget))
          before
        = (outcome, after))
    : after.cancelled = before.cancelled := by
  -- The record of a run has the calls that lead to where the run itself does.
  obtain ⟨_, final, _, _, recorded, _, leads, _⟩ :=
    policy.run_recorded (gateway.plane transport) resources options maxDepth pageBudget before
  have plain :=
    policy.outcomeOf_run_ofPlane (gateway.plane transport) resources options maxDepth pageBudget
      (.start before)
  rw [recorded] at plain
  obtain rfl : final.state = after := (Prod.mk.inj (plain.symm.trans ran)).2
  exact cancelled_of_leads leads

end Gateway

-----------------------------------------------------------------------------------------
-- One policy after the other
-----------------------------------------------------------------------------------------

/-- Policies are run one after the other, once each and whatever became of those before: the first
one from a session, after its run has been named and the clock read, and the others from where its
run has led and the clock has been read again. -/
inductive Machine.RunsEach (machine : Machine σ) (setting : RunSetting (Session σ))
    : List Policy → Session σ → RunOutcomes → Session σ → Prop
  | nothing (session : Session σ) : RunsEach machine setting [] session [] session
  | policy {before after final : Session σ} {named started finished : σ} {id : RunId}
    {startedAt finishedAt : Instant} {policy : Policy} {rest : List Policy}
    {outcome : Except RunError RunReport} {outcomes : RunOutcomes}
    (identified : machine.freshId.run before.network = (id, named))
    (begun : machine.now.run named = (startedAt, started))
    (ran : outcomeOf (policy.run setting) { before with network := started } = (outcome, after))
    (ended : machine.now.run after.network = (finishedAt, finished))
    (others : RunsEach machine setting rest { after with network := finished } outcomes final)
    : RunsEach machine setting (policy :: rest) before
        ((policy.name, outcome.map (RunRecord.mk id startedAt finishedAt ·)) :: outcomes) final

/-- Every policy has an outcome under its name, in order. -/
theorem Machine.RunsEach.names {machine : Machine σ} {setting : RunSetting (Session σ)}
    {policies : List Policy} {before final : Session σ} {outcomes : RunOutcomes}
    (runs : machine.RunsEach setting policies before outcomes final)
    : outcomes.map Prod.fst = policies.map Policy.name := by
  induction runs with
  | nothing => rfl
  | policy _ _ _ _ _ ih => exact congrArg (List.cons _) ih

section Runs

variable {machine : Machine σ} {setting : RunSetting (Session σ)}

theorem run_onNetwork {α : Type} {step : StateM σ α} {session : Session σ} {answer : α}
    {network : σ} (stepped : step.run session.network = (answer, network))
    : (Session.onNetwork step).run session = (answer, { session with network }) := by
  change ((step.run session.network).1,
    { session with network := (step.run session.network).2 }) = _
  rw [stepped]

/-- The run of a policy is named and lies between two readings of the clock. -/
theorem run_timedRun {before after : Session σ} {named started finished : σ} {id : RunId}
    {startedAt finishedAt : Instant} {policy : Policy} {outcome : Except RunError RunReport}
    (identified : machine.freshId.run before.network = (id, named))
    (begun : machine.now.run named = (startedAt, started))
    (ran : outcomeOf (policy.run setting) { before with network := started } = (outcome, after))
    (ended : machine.now.run after.network = (finishedAt, finished))
    : (policy.timedRun machine setting).run before
      = (outcome.map (RunRecord.mk id startedAt finishedAt ·),
        { after with network := finished }) := by
  change (policy.run setting).run.run { before with network := started } = _ at ran
  unfold Policy.timedRun
  rw [run_bind_of (run_onNetwork identified), run_bind_of (run_onNetwork begun), run_bind_of ran,
    run_bind_of (run_onNetwork ended)]
  rfl

/-- While a session is not cancelled, the first policy is run and then the others are. -/
theorem run_runPolicies_cons {before after : Session σ} {policy : Policy}
    {outcome : Except RunError RunRecord}
    (running : setting.plane.cancelled before = false)
    (ran : (policy.timedRun machine setting).run before = (outcome, after)) (rest : List Policy)
    : (runPolicies machine setting (policy :: rest)).run before
      = ((policy.name, outcome) :: ((runPolicies machine setting rest).run after).1,
        ((runPolicies machine setting rest).run after).2) := by
  change
    (if setting.plane.cancelled before then pure []
      else do
        let outcome ← policy.timedRun machine setting
        let others ← runPolicies machine setting rest
        pure ((policy.name, outcome) :: others) : StateM (Session σ) RunOutcomes).run before
    = _
  rw [running]
  simp only [Bool.false_eq_true, if_false]
  rw [run_bind_of ran]
  rfl

/-- If no session is cancelled by the run of a policy, then all policies are run. -/
theorem runsEach_runPolicies
    (watches : ∀ session, setting.plane.cancelled session = session.cancelled)
    (kept
      : ∀ {policy : Policy} {before after : Session σ} {outcome : Except RunError RunReport},
          outcomeOf (policy.run setting) before = (outcome, after)
          → after.cancelled = before.cancelled)
    (policies : List Policy) {session : Session σ} (running : session.cancelled = false)
    : machine.RunsEach setting policies session
        ((runPolicies machine setting policies).run session).1
        ((runPolicies machine setting policies).run session).2 := by
  -- Each run leaves the session as little cancelled as it was, so the loop never ends early.
  induction policies generalizing session with
  | nil => exact .nothing session
  | cons policy rest ih =>
      cases identified : machine.freshId.run session.network with
      | mk id named =>
          cases begun : machine.now.run named with
          | mk startedAt started =>
              cases ran : outcomeOf (policy.run setting) { session with network := started } with
              | mk outcome after =>
                  cases ended : machine.now.run after.network with
                  | mk finishedAt finished =>
                      have timed := run_timedRun identified begun ran ended
                      rw [run_runPolicies_cons ((watches session).trans running) timed]
                      exact .policy identified begun ran ended (ih ((kept ran).trans running))

end Runs

-----------------------------------------------------------------------------------------
-- The status
-----------------------------------------------------------------------------------------

namespace RunOutcomes

/-- Some policy could not be run. -/
def HasError (outcomes : RunOutcomes) : Prop :=
  ∃ name error, (name, .error error) ∈ outcomes

/-- Some call of an action failed in a policy that has a report. -/
def HasFailure (outcomes : RunOutcomes) : Prop :=
  ∃ record ∈ outcomes.records, ∃ result ∈ record.report.results, ∃ kind message,
    result.outcome = .failed kind message

theorem any_isError_iff (outcomes : RunOutcomes)
    : outcomes.any (fun (_, outcome) => !outcome.isOk) = true ↔ outcomes.HasError := by
  rw [List.any_eq_true]
  constructor
  · rintro ⟨⟨name, outcome⟩, member, isError⟩
    cases outcome with
    | error error => exact ⟨name, error, member⟩
    | ok record => cases isError
  · rintro ⟨name, error, member⟩
    exact ⟨_, member, rfl⟩

theorem any_hasFailures_iff (outcomes : RunOutcomes)
    : outcomes.records.any (·.report.hasFailures) = true ↔ outcomes.HasFailure := by
  have failed (outcome : Outcome)
      : outcome.isFailed = true ↔ ∃ kind message, outcome = .failed kind message := by
    cases outcome <;> simp [Outcome.isFailed]
  simp only [HasFailure, RunReport.hasFailures, List.any_eq_true, failed]

/-- The status tells of an error before it tells of a failure. -/
theorem status_eq (outcomes : RunOutcomes)
    : (outcomes.status = 1 ↔ outcomes.HasError)
      ∧ (outcomes.status = 2 ↔ ¬outcomes.HasError ∧ outcomes.HasFailure)
      ∧ (outcomes.status = 0 ↔ ¬outcomes.HasError ∧ ¬outcomes.HasFailure) := by
  unfold status
  rw [← any_isError_iff, ← any_hasFailures_iff]
  cases outcomes.any (fun (_, outcome) => !outcome.isOk) with
  | true => simp
  | false =>
      cases outcomes.records.any (·.report.hasFailures) with
      | true => simp
      | false => simp

end RunOutcomes

-----------------------------------------------------------------------------------------
-- The command
-----------------------------------------------------------------------------------------

section Carrying

variable {surroundings : Surroundings} {options : CommonOptions} {file project : String}
  {document : PolicyDocument} {credentials : Credentials} {machine : Machine σ}
  {session : Session σ}

/-- A file that has been read as a document has policies with names. -/
theorem Surroundings.isNamed_document (accepted : surroundings.document file = .ok document)
    : document.IsNamed := by
  unfold Surroundings.document at accepted
  split at accepted
  · exact PolicyDocument.isNamed_of_parse accepted
  · cases accepted

/-- A run of policies that are known is planned once it is known on whose behalf. -/
theorem Surroundings.plan_eq (accepted : surroundings.document file = .ok document)
    (configured
      : surroundings.settings.effectiveProject options.project surroundings.environment
        = some project)
    (authorized : Credentials.ofEnvironment? surroundings.environment = some credentials)
    (name : Option String)
    : surroundings.plan options file name
      = (document.select file name).map (·, surroundings.gatewayFor options project credentials) := by
  have reached
      : surroundings.gateway options
        = .ok (surroundings.gatewayFor options project credentials) :=
    gateway_eq_ok_iff.mpr ⟨project, credentials, configured, authorized, rfl⟩
  unfold plan
  rw [accepted, reached]
  change (document.select file name >>= fun policies => .ok (policies, _)) = _
  cases document.select file name with
  | error error => rfl
  | ok policies => rfl

/-- Nothing cancels a session in which policies are run, so all of them are run. -/
theorem Surroundings.runsEach (surroundings : Surroundings) (machine : Machine σ)
    (options : CommonOptions) (dryRun : Bool) (gateway : Gateway) (policies : List Policy)
    (running : session.cancelled = false)
    : ∃ outcomes final,
        (runPolicies machine (surroundings.runSetting machine.transport options dryRun gateway)
            policies).run session
          = (outcomes, final)
        ∧ machine.RunsEach (surroundings.runSetting machine.transport options dryRun gateway)
          policies session outcomes final :=
  ⟨_, _, rfl, runsEach_runPolicies (fun _ => rfl) Gateway.cancelled_of_run policies running⟩

/-- What is planned is run, and the completion is that of its outcomes. -/
theorem Surroundings.perform_of_planned {name : Option String} {policies : List Policy}
    {gateway : Gateway} {dryRun showExcluded : Bool} {format : ReportFormat} {outcomes : RunOutcomes}
    {final : Session σ}
    (planned : surroundings.plan options file name = .ok (policies, gateway))
    (ran
      : (runPolicies machine (surroundings.runSetting machine.transport options dryRun gateway)
            policies).run session
        = (outcomes, final))
    : ((Command.run file name dryRun format showExcluded).perform options surroundings machine).run
        session
      = (.ok (outcomes.completion format showExcluded surroundings.settingsFile), final) := by
  have filed
      : (surroundings.runFile machine options file name dryRun).run session
        = (.ok outcomes, final) := by
    unfold runFile
    rw [planned]
    dsimp only
    rw [run_bind_of ran]
    rfl
  unfold Command.perform
  dsimp only
  rw [run_bind_of filed]
  rfl

/-- Without a plan nothing happens. -/
theorem Surroundings.perform_of_refused {name : Option String} {error : CommandError}
    {dryRun showExcluded : Bool} {format : ReportFormat}
    (refused : surroundings.plan options file name = .error error)
    : ((Command.run file name dryRun format showExcluded).perform options surroundings machine).run
        session
      = (.error error, session) := by
  unfold Command.perform Surroundings.runFile
  dsimp only
  rw [refused]
  rfl

/-- A command to run the policies of a document, with a project and credentials and in a session
that is not cancelled, runs all of them once and in order, whether those before could be run or not;
a command with a name runs the only policy that has it, or does nothing if none has. It writes the
records of the policies that have a report, in order, and ends with status 1 exactly if some policy
could not be run, otherwise with status 2 exactly if some result is a failure, and otherwise with
status 0.
-/
theorem Command.perform_run (accepted : surroundings.document file = .ok document)
    (configured
      : surroundings.settings.effectiveProject options.project surroundings.environment
        = some project)
    (authorized : Credentials.ofEnvironment? surroundings.environment = some credentials)
    (machine : Machine σ) (running : session.cancelled = false) (name : Option String)
    (dryRun : Bool) (format : ReportFormat) (showExcluded : Bool)
    : document.IsNamed
      ∧ ((∃ policies outcomes final completion,
            document.Selects name policies
            ∧ ((Command.run file name dryRun format showExcluded).perform options surroundings
                machine).run session
              = (.ok completion, final)
            ∧ machine.RunsEach
              (surroundings.runSetting machine.transport options dryRun
                (surroundings.gatewayFor options project credentials))
              policies session outcomes final
            ∧ outcomes.map Prod.fst = policies.map Policy.name
            ∧ completion.output
              = RunRecord.render outcomes.records format showExcluded ++ "\n"
            ∧ (completion.status = 1 ↔ outcomes.HasError)
            ∧ (completion.status = 2 ↔ ¬outcomes.HasError ∧ outcomes.HasFailure)
            ∧ (completion.status = 0 ↔ ¬outcomes.HasError ∧ ¬outcomes.HasFailure))
        ∨ ∃ wanted,
            name = some wanted
            ∧ (∀ policy ∈ document.policies, policy.name ≠ wanted)
            ∧ ((Command.run file name dryRun format showExcluded).perform options surroundings
                machine).run session
              = (.error (.noPolicy wanted file), session)) := by
  have named := Surroundings.isNamed_document accepted
  have planned := Surroundings.plan_eq accepted configured authorized name
  refine ⟨named, ?_⟩
  rcases PolicyDocument.select_cases named file name with
    ⟨policies, selected, selects⟩ | ⟨wanted, rfl, missing, refused⟩
  · obtain ⟨outcomes, final, ran, each⟩ :=
      surroundings.runsEach machine options dryRun
        (surroundings.gatewayFor options project credentials) policies running
    refine .inl ⟨policies, outcomes, final,
      outcomes.completion format showExcluded surroundings.settingsFile, selects, ?_, each,
      each.names, rfl, outcomes.status_eq⟩
    rw [selected] at planned
    exact Surroundings.perform_of_planned planned ran
  · rw [refused] at planned
    exact .inr ⟨wanted, rfl, missing, Surroundings.perform_of_refused planned⟩

end Carrying

namespace Sample

/-- A user with a document of two policies, the first of them on an unknown resource type. -/
def withPolicies : Surroundings :=
  {
    surroundings with
    fileText := fun _ =>
      .ok ("\x7b\"policies\": [\x7b\"name\": \"first\", \"resource\": \"bucket\"\x7d, "
        ++ "\x7b\"name\": \"second\", \"resource\": \"alarm\"\x7d]\x7d")
  }

/-- A policy that only looks at its records. -/
def looksAt (name resource : String) : Policy :=
  {
    name := name,
    resource := resource,
    description := none,
    filters := [],
    actions := [],
    maxResources := none,
    maxPercent := none
  }

/-- A machine that reaches no service and whose clock stands still. -/
def unreached : Machine Unit :=
  { transport := Http.Transport.unreachable, now := pure ⟨0, 0⟩, freshId := pure ⟨0⟩ }

theorem withPolicies_document
    : withPolicies.document "policies.json"
      = .ok ⟨[looksAt "first" "bucket", looksAt "second" "alarm"]⟩ := by
  cbv

end Sample

/-- The first policy cannot be run, which the status tells, and the second one is run all the same.
There is no third one. -/
theorem Command.perform_run_twoPolicies
    : (∃ outcomes final completion,
          ((Command.run "policies.json" none false .json false).perform {} Sample.withPolicies
              Sample.unreached).run ⟨(), [], false⟩
            = (.ok completion, final)
          ∧ outcomes.map Prod.fst = ["first", "second"]
          ∧ completion.output = RunRecord.render (RunOutcomes.records outcomes) .json false ++ "\n"
          ∧ completion.status = 1)
      ∧ ((Command.run "policies.json" (some "third") false .json false).perform {}
            Sample.withPolicies Sample.unreached).run ⟨(), [], false⟩
          = (.error (.noPolicy "third" "policies.json"), ⟨(), [], false⟩) := by
  have configured
      : Sample.withPolicies.settings.effectiveProject ({} : CommonOptions).project
          Sample.withPolicies.environment
        = some "home" := by
    decide +kernel
  have authorized : Credentials.ofEnvironment? Sample.withPolicies.environment = some ⟨"token"⟩ := by
    decide +kernel
  have running : (⟨(), [], false⟩ : Session Unit).cancelled = false := rfl
  refine ⟨?_, ?_⟩
  · rcases (Command.perform_run Sample.withPolicies_document configured authorized Sample.unreached
        running none false .json false).2
      with ⟨_, outcomes, final, completion, selects, ran, each, names, output, status, _⟩
        | ⟨_, impossible, _⟩
    · cases selects
      refine ⟨outcomes, final, completion, ran, names, output, status.mpr ?_⟩
      cases each with
      | policy _ _ first _ _ =>
          rw [Policy.outcomeOf_run] at first
          cases first
          exact ⟨"first", _, List.mem_cons_self⟩
    · cases impossible
  · rcases (Command.perform_run Sample.withPolicies_document configured authorized Sample.unreached
        running (some "third") false .json false).2
      with ⟨_, _, _, _, selects, _⟩ | ⟨_, same, _, refused⟩
    · cases selects with
      | named only => cases only
    · cases same
      exact refused

end Remediation
