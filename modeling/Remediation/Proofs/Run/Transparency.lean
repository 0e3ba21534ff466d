import Remediation.Proofs.Action.Execution
import Remediation.Proofs.Resource.Fetch

/-! Writing calls down changes nothing else: on a control plane that writes them down, every step of
a run answers what it answers on the control plane itself, and leads to the same state.
-/

namespace Remediation

variable {σ ε α β : Type} {plane : ControlPlane σ}

-----------------------------------------------------------------------------------------
-- Steps with and without a record
-----------------------------------------------------------------------------------------

/-- A step on states with a record mirrors one on plain states if it gives the same answer from
every state and leads to the same one, whatever was written down before.
-/
def Mirrors (step : StateM (Recorded σ) α) (plain : StateM σ α) : Prop :=
  ∀ before, plain.run before.state = ((step.run before).1, (step.run before).2.state)

namespace Mirrors

theorem pure (answer : α)
    : Mirrors (Pure.pure answer : StateM (Recorded σ) α) (Pure.pure answer) :=
  fun _ => rfl

theorem bind {step : StateM (Recorded σ) α} {plain : StateM σ α}
    {next : α → StateM (Recorded σ) β} {plainNext : α → StateM σ β} (first : Mirrors step plain)
    (goesOn : ∀ answer, Mirrors (next answer) (plainNext answer))
    : Mirrors (step >>= next) (plain >>= plainNext) := by
  intro before
  change (plainNext (plain.run before.state).1).run (plain.run before.state).2 = _
  rw [first before]
  exact goesOn (step.run before).1 (step.run before).2

/-- What a step looks at to learn whether the run is cancelled is the same state. -/
theorem ofCancelled {stopped going : StateM (Recorded σ) α} {plainStopped plainGoing : StateM σ α}
    (ifStopped : Mirrors stopped plainStopped) (ifGoing : Mirrors going plainGoing)
    : Mirrors (do if plane.recorded.cancelled (← get) then stopped else going)
        (do if plane.cancelled (← get) then plainStopped else plainGoing) := by
  intro before
  change (if plane.cancelled before.state then plainStopped else plainGoing).run before.state
    = (((if plane.cancelled before.state then stopped else going).run before).1,
      ((if plane.cancelled before.state then stopped else going).run before).2.state)
  cases plane.cancelled before.state with
  | true => exact ifStopped before
  | false => exact ifGoing before

theorem listPage (plane : ControlPlane σ) (resource : ResourceType) (cursor : Option String)
    : Mirrors (plane.recorded.listPage resource cursor) (plane.listPage resource cursor) :=
  fun _ => rfl

theorem perform (plane : ControlPlane σ) (mutation : Mutation)
    : Mirrors (plane.recorded.perform mutation) (plane.perform mutation) :=
  fun _ => rfl

/-- Steps that may fail mirror each other up to the first failure. -/
theorem bindStep {step : ExceptT ε (StateM (Recorded σ)) α} {plain : ExceptT ε (StateM σ) α}
    {next : α → ExceptT ε (StateM (Recorded σ)) β} {plainNext : α → ExceptT ε (StateM σ) β}
    (first : Mirrors step.run plain.run)
    (goesOn : ∀ answer, Mirrors (next answer).run (plainNext answer).run)
    : Mirrors (step >>= next).run (plain >>= plainNext).run := by
  rw [ExceptT.run_bind, ExceptT.run_bind]
  refine first.bind (fun answer => ?_)
  cases answer with
  | ok answer => exact goesOn answer
  | error error => exact .pure _

theorem pureStep (answer : α)
    : Mirrors (Pure.pure answer : ExceptT ε (StateM (Recorded σ)) α).run
        (Pure.pure answer : ExceptT ε (StateM σ) α).run :=
  .pure _

theorem throwStep (error : ε)
    : Mirrors (throw error : ExceptT ε (StateM (Recorded σ)) α).run
        (throw error : ExceptT ε (StateM σ) α).run :=
  .pure _

theorem lift {step : StateM (Recorded σ) α} {plain : StateM σ α} (mirrors : Mirrors step plain)
    : Mirrors (liftM step : ExceptT ε (StateM (Recorded σ)) α).run
        (liftM plain : ExceptT ε (StateM σ) α).run := by
  intro before
  change (Except.ok (plain.run before.state).1, (plain.run before.state).2)
    = (Except.ok (step.run before).1, (step.run before).2.state)
  rw [mirrors before]

theorem mapM {step : α → ExceptT ε (StateM (Recorded σ)) β} {plain : α → ExceptT ε (StateM σ) β}
    {list : List α} (each : ∀ element ∈ list, Mirrors (step element).run (plain element).run)
    : Mirrors (list.mapM step).run (list.mapM plain).run := by
  induction list with
  | nil => exact .pure _
  | cons element rest ih =>
      simp only [List.mapM_cons]
      refine (each element List.mem_cons_self).bindStep (fun answer => ?_)
      exact (ih (fun other member => each other (List.mem_cons_of_mem _ member))).bindStep
        (fun others => .pureStep _)

/-- Outcomes of steps that mirror each other. -/
theorem outcomeOf {step : ExceptT ε (StateM (Recorded σ)) α} {plain : ExceptT ε (StateM σ) α}
    (mirrors : Mirrors step.run plain.run) (before : Recorded σ)
    : Remediation.outcomeOf plain before.state
      = ((Remediation.outcomeOf step before).1, (Remediation.outcomeOf step before).2.state) :=
  mirrors before

end Mirrors

-----------------------------------------------------------------------------------------
-- Reading
-----------------------------------------------------------------------------------------

theorem Listing.read_mirrors (plane : ControlPlane σ) (resource : ResourceType) (budget : Nat)
    (cursor : Option String)
    : Mirrors (Listing.read plane.recorded resource budget cursor)
        (Listing.read plane resource budget cursor) := by
  induction budget generalizing cursor with
  | zero => exact .pure _
  | succ budget ih =>
      rw [Listing.read_succ, Listing.read_succ]
      refine .ofCancelled (.pure _) ?_
      refine (Mirrors.listPage plane resource cursor).bind (fun answer => ?_)
      cases answer with
      | error source => exact .pure _
      | ok page =>
          unfold Listing.goOn
          dsimp only
          cases page.next? with
          | none => exact .pure _
          | some next =>
              dsimp only
              split
              · exact .pure _
              · exact (ih (some next)).bind (fun rest => .pure _)

/-- A fetch does on a plane that is recorded what it does on the plane itself. -/
theorem fetchAll_mirrors (plane : ControlPlane σ) (budget : Nat) (resource : ResourceType)
    : Mirrors (fetchAll plane.recorded budget resource) (fetchAll plane budget resource) :=
  (Listing.read_mirrors plane resource budget none).bind (fun _ => .pure _)

/-- A page that is asked for is written down with the request for it. -/
theorem ControlPlane.run_recorded_listPage {plane : ControlPlane σ} {resource : ResourceType}
    {cursor : Option String} {answer : Except RemoteError Page} {before : Recorded σ} {after : σ}
    (listed : (plane.listPage resource cursor).run before.state = (answer, after))
    : (plane.recorded.listPage resource cursor).run before
      = (answer, before.note plane (.list resource cursor answer) after) := by
  let asked := (plane.listPage resource cursor).run before.state
  change (asked.1, before.note plane (.list resource cursor asked.1) asked.2) = _
  simp only [asked, listed]

section Evaluation

variable (plane : ControlPlane σ) (resources : ResourceRegistry) (options : ExecuteOptions)
  (maxDepth pageBudget : Nat)

theorem RunSetting.resource_mirrors (name : String)
    : Mirrors ((recording plane resources options maxDepth pageBudget).resource name).run
        ((ofPlane plane resources options maxDepth pageBudget).resource name).run := by
  cases known : resources.get? name with
  | some resource =>
      have recorded
          : (recording plane resources options maxDepth pageBudget).resource name = pure resource :=
        resource_of_known known
      have plain
          : (ofPlane plane resources options maxDepth pageBudget).resource name = pure resource :=
        resource_of_known known
      rw [recorded, plain]
      exact .pureStep resource
  | none =>
      have recorded
          : (recording plane resources options maxDepth pageBudget).resource name
            = throw (.unknownResource name) :=
        resource_of_unknown known
      have plain
          : (ofPlane plane resources options maxDepth pageBudget).resource name
            = throw (.unknownResource name) :=
        resource_of_unknown known
      rw [recorded, plain]
      exact .throwStep _

theorem RunSetting.checkDepth_mirrors (depth : Nat)
    : Mirrors ((recording plane resources options maxDepth pageBudget).checkDepth depth).run
        ((ofPlane plane resources options maxDepth pageBudget).checkDepth depth).run := by
  unfold RunSetting.checkDepth
  change Mirrors (ExceptT.run (if maxDepth < depth then _ else _))
    (ExceptT.run (if maxDepth < depth then _ else _))
  split
  · exact .throwStep _
  · exact .pureStep ()

theorem RunSetting.fetch_mirrors (resource : ResourceType)
    : Mirrors ((recording plane resources options maxDepth pageBudget).fetch resource).run
        ((ofPlane plane resources options maxDepth pageBudget).fetch resource).run := by
  have fetched : Mirrors (fetchAll plane.recorded pageBudget resource)
      (fetchAll plane pageBudget resource) :=
    (Listing.read_mirrors plane resource pageBudget none).bind (fun listing => .pure _)
  refine fetched.lift.bindStep (fun answer => ?_)
  cases answer with
  | ok records => exact .pureStep records
  | error error => exact .throwStep _

/-- Evaluations mirror each other. Witness: induction over the nesting. -/
theorem Policy.evaluate_mirrors (policy : Policy) (depth : Nat)
    : Mirrors
        (policy.evaluate (.recording plane resources options maxDepth pageBudget) depth).run
        (policy.evaluate (.ofPlane plane resources options maxDepth pageBudget) depth).run := by
  induction policy using Policy.nesting_induction generalizing depth with
  | step policy ih =>
      have known := RunSetting.resource_mirrors plane resources options maxDepth pageBudget
      rw [Policy.evaluate_eq, Policy.evaluate_eq]
      refine (RunSetting.checkDepth_mirrors plane resources options maxDepth pageBudget
        depth).bindStep (fun _ => ?_)
      refine (known policy.resource).bindStep (fun resource => ?_)
      refine (RunSetting.fetch_mirrors plane resources options maxDepth pageBudget
        resource).bindStep (fun records => ?_)
      refine (Mirrors.mapM (fun inner nested => ?_)).bindStep (fun sets => .pureStep _)
      rw [Policy.matchedIds_eq, Policy.matchedIds_eq]
      refine (known inner.resource).bindStep (fun innerResource => ?_)
      exact (ih inner nested (depth + 1)).bindStep (fun evaluation => .pureStep _)

end Evaluation

-----------------------------------------------------------------------------------------
-- Acting
-----------------------------------------------------------------------------------------

/-- An action on states with a record and the same one on plain states. -/
structure Action.Mirrors (action : Action (Recorded σ)) (plain : Action σ) : Prop where
  name : action.name = plain.name
  schema : action.schema = plain.schema
  mode : action.mode = plain.mode
  process
    : ∀ context records,
        Remediation.Mirrors (action.process context records).run
          (plain.process context records).run

namespace Action

theorem call_mirrors (plane : ControlPlane σ) (mutation : Mutation)
    : Remediation.Mirrors (call plane.recorded mutation).run (call plane mutation).run := by
  refine (Remediation.Mirrors.perform plane mutation).lift.bindStep (fun answer => ?_)
  cases answer with
  | ok response => exact .pureStep response
  | error source => exact .throwStep _

theorem delete_mirrors (plane : ControlPlane σ) : Mirrors (delete plane.recorded) (delete plane) :=
  ⟨rfl, rfl, rfl, fun _ _ => call_mirrors plane _⟩

theorem setEnabled_mirrors (plane : ControlPlane σ) (enabled : Bool)
    : Mirrors (setEnabled plane.recorded enabled) (setEnabled plane enabled) :=
  ⟨rfl, rfl, rfl, fun _ _ => call_mirrors plane _⟩

theorem updateNotification_mirrors (plane : ControlPlane σ)
    : Mirrors (updateNotification plane.recorded) (updateNotification plane) where
  name := rfl
  schema := rfl
  mode := rfl
  process := fun _ _ =>
    (Remediation.Mirrors.mapM (fun _ _ => call_mirrors plane _)).bindStep
      (fun responses => .pureStep (singleOrList responses))

theorem createAlarmRule_mirrors (plane : ControlPlane σ)
    : Mirrors (createAlarmRule plane.recorded) (createAlarmRule plane) where
  name := rfl
  schema := rfl
  mode := rfl
  process := by
    intro context records
    simp only [createAlarmRule]
    cases context.resources.get? ((context.text? "target").getD "alarm") with
    | none => exact .throwStep _
    | some target =>
        refine (Remediation.Mirrors.mapM (fun record _ => ?_)).bindStep
          (fun responses => .pureStep (singleOrList responses))
        cases Template.expand record ((Table.get? context.params "rule").getD (.object [])) with
        | ok body => exact call_mirrors plane _
        | error missing => exact .throwStep _

theorem renderMessage_mirrors (values : Json) (text : String)
    : Remediation.Mirrors (renderMessage values text : ExceptT _ (StateM (Recorded σ)) _).run
        (renderMessage values text : ExceptT _ (StateM σ) _).run := by
  unfold renderMessage
  cases Template.render values text with
  | ok rendered => exact .pureStep rendered
  | error missing => exact .throwStep _

theorem notify_mirrors (plane : ControlPlane σ)
    : Mirrors (notify plane.recorded) (notify plane) where
  name := rfl
  schema := rfl
  mode := rfl
  process := by
    intro context records
    simp only [notify]
    cases context.resources.get? "topic" with
    | none => exact .throwStep _
    | some topics =>
        cases context.text? "subject" with
        | some text =>
            exact (renderMessage_mirrors _ text).bindStep (fun subject =>
              (renderMessage_mirrors _ _).bindStep (fun message => call_mirrors plane _))
        | none =>
            exact (Remediation.Mirrors.pureStep _).bindStep (fun subject =>
              (renderMessage_mirrors _ _).bindStep (fun message => call_mirrors plane _))

end Action

/-- What is registered is found, or not found, under the same names. -/
theorem ActionRegistry.registered_mirrors {added : List (Action (Recorded σ))}
    {plainAdded : List (Action σ)} (all : List.Forall₂ Action.Mirrors added plainAdded)
    {actions : ActionRegistry (Recorded σ)} {plain : ActionRegistry σ}
    (before : ∀ name, Option.Rel Action.Mirrors (Table.get? actions name) (Table.get? plain name))
    (name : String)
    : Option.Rel Action.Mirrors (Table.get? (added.foldl register actions) name)
        (Table.get? (plainAdded.foldl register plain) name) := by
  induction all generalizing actions plain with
  | nil => exact before name
  | cons mirrors _ ih =>
      refine ih (fun other => ?_)
      rw [register, register, Table.get?_insert, Table.get?_insert, mirrors.name]
      split
      · exact .some mirrors
      · exact before other

theorem ActionRegistry.builtin_mirrors (plane : ControlPlane σ) (name : String)
    : Option.Rel Action.Mirrors (Table.get? (builtin plane.recorded) name)
        (Table.get? (builtin plane) name) :=
  registered_mirrors
    (.cons (Action.delete_mirrors plane)
      (.cons (Action.setEnabled_mirrors plane true)
        (.cons (Action.setEnabled_mirrors plane false)
          (.cons (Action.updateNotification_mirrors plane)
            (.cons (Action.createAlarmRule_mirrors plane)
              (.cons (Action.notify_mirrors plane) .nil))))))
    (fun _ => .none) name

/-- Units are processed or left alone alike. -/
theorem Action.processUnit_mirrors {action : Action (Recorded σ)} {plain : Action σ}
    (mirrors : action.Mirrors plain) (context : ActionContext) (unit : WorkUnit)
    : Remediation.Mirrors (action.processUnit plane.recorded context unit)
        (plain.processUnit plane context unit) :=
  .ofCancelled (.pure none) ((mirrors.process context unit.records).bind (fun _ => .pure _))

/-- Units in a pool mirror each other. Witness: induction on the units that are still to be started.
-/
theorem Pool.run_mirrors (pool : Pool) {start : WorkUnit → StateM (Recorded σ) (Option Outcome)}
    {plain : WorkUnit → StateM σ (Option Outcome)}
    (each : ∀ unit, Mirrors (start unit) (plain unit)) (units : List WorkUnit)
    (underWay : List FinishedUnit)
    : Mirrors (pool.run start units underWay) (pool.run plain units underWay) := by
  induction units generalizing underWay with
  | nil => exact .pure _
  | cons unit rest ih => exact (each unit).bind (fun _ => (ih _).bind (fun _ => .pure _))

theorem ActionSpec.execute_mirrors (plane : ControlPlane σ) (resources : ResourceRegistry)
    (options : ExecuteOptions) (policy : String) (resource : ResourceType) (spec : ActionSpec)
    (records : List Json)
    : Mirrors
        (spec.execute plane.recorded (ActionRegistry.builtin plane.recorded) resources options
          policy resource records)
        (spec.execute plane (ActionRegistry.builtin plane) resources options policy resource
          records) := by
  unfold ActionSpec.execute
  have found := ActionRegistry.builtin_mirrors plane spec.name
  generalize Table.get? (ActionRegistry.builtin plane.recorded) spec.name = action at found
  generalize Table.get? (ActionRegistry.builtin plane) spec.name = plain at found
  cases found with
  | none => exact .pure _
  | some mirrors =>
      dsimp only
      rw [mirrors.schema]
      split
      · exact .pure _
      · split
        · exact .pure _
        · unfold Action.runUnits
          rw [mirrors.mode]
          exact (options.pool.run_mirrors (Action.processUnit_mirrors mirrors _) _ []).bind
            (fun _ => .pure _)

section Runs

variable (plane : ControlPlane σ) (resources : ResourceRegistry) (options : ExecuteOptions)
  (maxDepth pageBudget : Nat)

theorem Policy.act_mirrors (policy : String) (resource : ResourceType) (records : List Json)
    (specs : List ActionSpec)
    : Mirrors
        (Policy.act (.recording plane resources options maxDepth pageBudget) policy resource records
          specs)
        (Policy.act (.ofPlane plane resources options maxDepth pageBudget) policy resource records
          specs) := by
  induction specs with
  | nil => exact .pure _
  | cons spec rest ih =>
      rw [act, act]
      refine Mirrors.bind ?_ (fun _ => ih.bind (fun _ => .pure _))
      simp only [RunSetting.recording, RunSetting.ofPlane]
      exact spec.execute_mirrors plane resources options policy resource records

theorem Policy.actOnMatched_mirrors (policy : Policy) (resource : ResourceType)
    (matched : List Json)
    : Mirrors
        (policy.actOnMatched (.recording plane resources options maxDepth pageBudget) resource
          matched)
        (policy.actOnMatched (.ofPlane plane resources options maxDepth pageBudget) resource
          matched) := by
  unfold Policy.actOnMatched
  split
  · exact .pure _
  · exact Policy.act_mirrors plane resources options maxDepth pageBudget _ _ _ _

theorem Policy.remediate_mirrors (policy : Policy) (resource : ResourceType)
    (evaluation : Evaluation) (before : Recorded σ)
    : outcomeOf
          (policy.remediate (.ofPlane plane resources options maxDepth pageBudget) resource
            evaluation)
          before.state
      = ((outcomeOf
            (policy.remediate (.recording plane resources options maxDepth pageBudget) resource
              evaluation)
            before).1,
        (outcomeOf
            (policy.remediate (.recording plane resources options maxDepth pageBudget) resource
              evaluation)
            before).2.state) := by
  rw [Policy.outcomeOf_remediate, Policy.outcomeOf_remediate]
  cases policy.checkLimits evaluation.matched.length evaluation.population with
  | error refusal => rfl
  | ok _ =>
      dsimp only
      rw [Policy.actOnMatched_mirrors plane resources options maxDepth pageBudget policy resource
        evaluation.matched before]
      rfl

/-- A run that is written down has the outcome of the run itself and leads to the same state. -/
theorem Policy.outcomeOf_run_ofPlane (policy : Policy) (before : Recorded σ)
    : outcomeOf (policy.run (.ofPlane plane resources options maxDepth pageBudget)) before.state
      = ((outcomeOf (policy.run (.recording plane resources options maxDepth pageBudget)) before).1,
        (outcomeOf (policy.run (.recording plane resources options maxDepth pageBudget))
          before).2.state) := by
  have evaluated :=
    (policy.evaluate_mirrors plane resources options maxDepth pageBudget 0).outcomeOf before
  rw [Policy.outcomeOf_run, Policy.outcomeOf_run, evaluated]
  simp only [RunSetting.recording_resources, RunSetting.recording_maxDepth,
    RunSetting.ofPlane_resources, RunSetting.ofPlane_maxDepth]
  cases resources.get? policy.resource with
  | none => rfl
  | some resource =>
      dsimp only
      by_cases beyond : maxDepth < policy.nestingDepth
      · simp only [beyond, if_true]
      · simp only [beyond, if_false]
        cases outcomeOf
            (policy.evaluate (.recording plane resources options maxDepth pageBudget) 0) before with
        | mk outcome middle =>
            cases outcome with
            | ok evaluation =>
                exact policy.remediate_mirrors plane resources options maxDepth pageBudget resource
                  evaluation middle
            | error error => cases error <;> rfl

end Runs

end Remediation
