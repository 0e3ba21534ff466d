import Remediation.Action.Builtin
import Remediation.Command.Basic
import Remediation.ControlPlane.Remote
import Remediation.Policy.Document
import Remediation.Policy.Validate
import Remediation.Settings.File

/-!
Carrying out commands. What a command finds around it comes in as values and what it leaves behind
goes out as one, so that only the network and the clock are left to a state.
-/

namespace Remediation

/-- What a command finds when it starts. -/
structure Surroundings where
  environment : Environment
  /-- Where the file of the settings is, if there is a place for it. -/
  settingsPath : Option String
  /-- The text of the file of the settings, if there is one. -/
  settingsFile : Option String
  /-- The text of a file, or why it cannot be read. -/
  fileText : String → Except String String
  /-- What keeps a file from being opened as a log. -/
  logFault : String → Option String

/-- What a command leaves behind. -/
structure Completion where
  status : Nat := 0
  output : String := ""
  errors : String := ""
  /-- The text of the file of the settings afterwards. -/
  settingsFile : Option String
  deriving DecidableEq, Repr

/-- The network and the clock of a state. -/
structure Machine (σ : Type) where
  transport : Http.Transport σ
  now : StateM σ Instant
  freshId : StateM σ RunId

/-- Why a command does nothing. -/
inductive CommandError where
  | document (error : DocumentError)
  | noPolicy (name file : String)
  | noProject
  | noCredentials
  | logFile (path cause : String)

def CommandError.message : CommandError → String
  | .document error => error.summary
  | .noPolicy name file => s!"No policy named '{name}' in {Text.shown file}"
  | .noProject => "No project configured. Set HUAWEI_PROJECT_ID or use --project flag"
  | .noCredentials => Credentials.missingMessage
  | .logFile path cause => s!"Failed to open log file {Text.shown path}: {cause}"

/-- How many policies may be nested if the settings do not say. -/
def defaultMaxDepth : Nat := 3

/-- How many calls of actions may be made at once if nobody says. -/
def defaultConcurrency : Nat := 8

/-- More pages than any list has. -/
def endlessPages : Nat := 1 <<< 62

namespace Surroundings

def settings (surroundings : Surroundings) : Settings :=
  .load surroundings.settingsFile

/-- The document in a file. -/
def document (surroundings : Surroundings) (file : String)
    : Except DocumentError PolicyDocument :=
  match surroundings.fileText file with
  | .ok text => PolicyDocument.parse (.ofPath file) text
  | .error cause => .error (.unreadable file cause)

/-- How the services are reached. An endpoint that is given counts for the services that have none
of their own in the settings. -/
def gateway (surroundings : Surroundings) (options : CommonOptions)
    : Except CommandError Gateway := do
  let settings := surroundings.settings
  let environment := surroundings.environment
  let some project := settings.effectiveProject options.project environment
    | .error .noProject
  let region := settings.effectiveRegion options.region environment
  let some credentials := Credentials.ofEnvironment? environment | .error .noCredentials
  let gateway : Gateway := { credentials := credentials, project := project, region := region }
  let gateway :=
    settings.endpoints.foldl (fun gateway (service, endpoint) =>
      gateway.withEndpoint service endpoint) gateway
  .ok (options.endpoint.elim gateway gateway.withDefaultEndpoint)

end Surroundings

/-! ### Running policies -/

/-- What came of the policies that were run, in their order. -/
abbrev RunOutcomes := List (String × Except RunError RunRecord)

namespace RunOutcomes

/-- The records of the policies that have a report. -/
def records (outcomes : RunOutcomes) : List RunRecord :=
  outcomes.filterMap (fun (_, outcome) => outcome.toOption)

/-- The status that a program ends with: one if a policy could not be run, two if a call of an
action failed. -/
def status (outcomes : RunOutcomes) : Nat :=
  if outcomes.any (fun (_, outcome) => !outcome.isOk) then 1
  else if outcomes.records.any (·.report.hasFailures) then 2
  else 0

/-- What is said about a policy that could not be run. The words of a service are not repeated. -/
def failureLine (policy : String) (error : RunError) : String :=
  let reason :=
    match error with
    | .fetch (.remote resource source) => s!"listing {resource} failed: {source.hint}"
    | error => error.message
  s!"Policy {policy} failed: {reason}\n"

def failureLines (outcomes : RunOutcomes) : List String :=
  outcomes.filterMap (fun (policy, outcome) =>
    match outcome with
    | .error error => some (failureLine policy error)
    | .ok _ => none)

end RunOutcomes

section Running

variable {σ : Type}

/-- Something that happens on the network of a session. -/
def Session.onNetwork (step : StateM σ α) : StateM (Session σ) α := do
  let session ← get
  let (result, network) := step.run session.network
  set { session with network := network }
  pure result

/-- Runs a policy and takes the time. -/
def Policy.timedRun (machine : Machine σ) (setting : RunSetting (Session σ)) (policy : Policy)
    : StateM (Session σ) (Except RunError RunRecord) := do
  let id ← Session.onNetwork machine.freshId
  let startedAt ← Session.onNetwork machine.now
  let outcome ← (policy.run setting).run
  let finishedAt ← Session.onNetwork machine.now
  pure (outcome.map (⟨id, startedAt, finishedAt, ·⟩))

/-- Runs policies one after the other until the session is cancelled. A policy that cannot be run
does not keep those behind it from running. -/
def runPolicies (machine : Machine σ) (setting : RunSetting (Session σ))
    : List Policy → StateM (Session σ) RunOutcomes
  | [] => pure []
  | policy :: rest => do
      if setting.plane.cancelled (← get) then pure []
      else do
        let outcome ← policy.timedRun machine setting
        let others ← runPolicies machine setting rest
        pure ((policy.name, outcome) :: others)

/-- The policies of a document that are to be run. -/
def PolicyDocument.select (document : PolicyDocument) (file : String) (name : Option String)
    : Except CommandError (List Policy) :=
  match name with
  | none => .ok document.policies
  | some name =>
      match document.get? name with
      | some policy => .ok [policy]
      | none => .error (.noPolicy name file)

/-- What running policies depends on. -/
def Surroundings.runSetting (surroundings : Surroundings) (transport : Http.Transport σ)
    (options : CommonOptions) (dryRun : Bool) (gateway : Gateway) : RunSetting (Session σ) :=
  let settings := surroundings.settings
  let concurrency := (options.concurrency.or settings.concurrency).getD defaultConcurrency
  let plane := gateway.plane transport
  {
    plane := plane,
    resources := .builtin,
    actions := .builtin plane,
    options := ⟨.inOrder concurrency, dryRun⟩,
    maxDepth := settings.maxDepth.getD defaultMaxDepth,
    pageBudget := endlessPages
  }

/-- The policies to run and the gateway to run them through. -/
def Surroundings.plan (surroundings : Surroundings) (options : CommonOptions) (file : String)
    (policy : Option String) : Except CommandError (List Policy × Gateway) := do
  let document ← (surroundings.document file).mapError CommandError.document
  let policies ← document.select file policy
  let gateway ← surroundings.gateway options
  .ok (policies, gateway)

/-- Runs the policies of a file. Nothing is asked of a service before it is known which policies
to run and on whose behalf. -/
def Surroundings.runFile (surroundings : Surroundings) (machine : Machine σ) (options : CommonOptions)
    (file : String) (policy : Option String) (dryRun : Bool)
    : StateM (Session σ) (Except CommandError RunOutcomes) :=
  match surroundings.plan options file policy with
  | .error error => pure (.error error)
  | .ok (policies, gateway) => do
      let setting := surroundings.runSetting machine.transport options dryRun gateway
      let outcomes ← runPolicies machine setting policies
      pure (.ok outcomes)

end Running

/-! ### Other commands -/

/-- The lines of a policy that was checked. -/
def Policy.checkLines (policy : Policy) (problems : List PolicyProblem) : List String :=
  if problems.isEmpty then [s!"{policy.name}: ok\n"]
  else problems.map (fun problem => s!"{policy.name}: {problem.message}\n")

/-- The line of a resource type in a list of all. -/
def ResourceType.line (resource : ResourceType) : String :=
  ReportTable.padded 8 resource.key ++ " " ++ ReportTable.padded 20 resource.displayName
    ++ s!" service={resource.service} id={resource.idField} name={resource.nameField}\n"

namespace Surroundings

/-- Checks the policies of a file. -/
def validateFile (surroundings : Surroundings) (file : String)
    : Except CommandError Completion := do
  let document ← (surroundings.document file).mapError CommandError.document
  let maxDepth := surroundings.settings.maxDepth.getD defaultMaxDepth
  let checked :=
    document.policies.map (fun policy =>
      (policy, policy.validate ResourceRegistry.builtin .builtin maxDepth))
  .ok
    {
      status := if checked.all (fun (_, problems) => problems.isEmpty) then 0 else 1,
      output := String.join (checked.flatMap (fun (policy, problems) => policy.checkLines problems)),
      settingsFile := surroundings.settingsFile
    }

/-- Lists the resource types that are known. -/
def listResources (surroundings : Surroundings) : Completion :=
  let lines := ResourceRegistry.builtin.types.map (fun (_, resource) => resource.line)
  { output := String.join lines, settingsFile := surroundings.settingsFile }

/-- Saves defaults and shows the settings. -/
def configure (surroundings : Surroundings) (options : CommonOptions) : Completion :=
  let (settings, file) :=
    Settings.saveDefaults options.project options.region surroundings.settingsFile
  let place := (surroundings.settingsPath.map (· ++ "\n")).getD ""
  {
    output := place ++ settings.render ++ "\n",
    settingsFile := if surroundings.settingsPath.isSome then file else none
  }

end Surroundings

section Carrying

variable {σ : Type}

/-- What running the policies of a file leaves behind. -/
def RunOutcomes.completion (outcomes : RunOutcomes) (format : ReportFormat) (showExcluded : Bool)
    (settingsFile : Option String) : Completion :=
  {
    status := outcomes.status,
    output := RunRecord.render outcomes.records format showExcluded ++ "\n",
    errors := String.join outcomes.failureLines,
    settingsFile := settingsFile
  }

/-- Carries out a command, or tells why it does nothing. -/
def Command.perform (command : Command) (options : CommonOptions) (surroundings : Surroundings)
    (machine : Machine σ) : StateM (Session σ) (Except CommandError Completion) :=
  match command with
  | .resources => pure (.ok surroundings.listResources)
  | .config => pure (.ok (surroundings.configure options))
  | .validate file => pure (surroundings.validateFile file)
  | .run file policy dryRun format showExcluded => do
      let outcomes ← surroundings.runFile machine options file policy dryRun
      pure (outcomes.map (RunOutcomes.completion · format showExcluded surroundings.settingsFile))

/-- What keeps a log from being written where the options say. -/
def Surroundings.logError? (surroundings : Surroundings) (options : CommonOptions)
    : Option CommandError :=
  options.logFile.bind (fun path => (surroundings.logFault path).map (CommandError.logFile path))

/-- What a command that does nothing leaves behind. -/
def CommandError.completion (error : CommandError) (settingsFile : Option String) : Completion :=
  { status := 1, errors := s!"Error: {error.message}\n", settingsFile := settingsFile }

/-- Carries out a command with its options. -/
def Invocation.perform (invocation : Invocation) (surroundings : Surroundings) (machine : Machine σ)
    : StateM (Session σ) Completion :=
  match surroundings.logError? invocation.options with
  | some error => pure (error.completion surroundings.settingsFile)
  | none => do
      match ← invocation.command.perform invocation.options surroundings machine with
      | .ok completion => pure completion
      | .error error => pure (error.completion surroundings.settingsFile)

end Carrying

end Remediation
