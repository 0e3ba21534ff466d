import Remediation.Proofs.Action.Calls
import Remediation.Run.Basic

/-! Running actions on records. Units are started in order whatever the pool lets finish first, and
actions follow each other, so the changes that a policy wants are those of its actions, unit by
unit.
-/

namespace Remediation

variable {σ : Type} {plane : ControlPlane σ}

/-- A setting with the program's own actions. -/
def RunSetting.ofPlane (plane : ControlPlane σ) (resources : ResourceRegistry)
    (options : ExecuteOptions) (maxDepth pageBudget : Nat)
    : RunSetting σ where
  plane := plane
  resources := resources
  actions := .builtin plane
  options := options
  maxDepth := maxDepth
  pageBudget := pageBudget

/-- The same setting on the control plane that writes down every call. -/
def RunSetting.recording (plane : ControlPlane σ) (resources : ResourceRegistry)
    (options : ExecuteOptions) (maxDepth pageBudget : Nat)
    : RunSetting (Recorded σ) :=
  .ofPlane plane.recorded resources options maxDepth pageBudget

@[simp]
theorem RunSetting.ofPlane_resources (plane : ControlPlane σ) (resources : ResourceRegistry)
    (options : ExecuteOptions) (maxDepth pageBudget : Nat)
    : (ofPlane plane resources options maxDepth pageBudget).resources = resources :=
  rfl

@[simp]
theorem RunSetting.ofPlane_maxDepth (plane : ControlPlane σ) (resources : ResourceRegistry)
    (options : ExecuteOptions) (maxDepth pageBudget : Nat)
    : (ofPlane plane resources options maxDepth pageBudget).maxDepth = maxDepth :=
  rfl

@[simp]
theorem RunSetting.recording_resources (resources : ResourceRegistry) (options : ExecuteOptions)
    (maxDepth pageBudget : Nat)
    : (recording plane resources options maxDepth pageBudget).resources = resources :=
  rfl

@[simp]
theorem RunSetting.recording_maxDepth (resources : ResourceRegistry) (options : ExecuteOptions)
    (maxDepth pageBudget : Nat)
    : (recording plane resources options maxDepth pageBudget).maxDepth = maxDepth :=
  rfl

/-- A unit that is processed asks for what its action wants, unless the run was cancelled before. -/
theorem Action.processUnit_makes {action : Action (Recorded σ)} (keeps : action.KeepsTo plane)
    (context : ActionContext) (unit : WorkUnit)
    (fits : unit.records.length ≤ action.mode.unitSize)
    : plane.Makes
        (fun cancelled made _ =>
          Changes (context.changes unit.records action.name) cancelled made)
        (action.processUnit plane.recorded context unit) := by
  refine .ofCancelled (.pure (fun cancelled stopped => .ofCancelled _)) ?_
  have processed
      : plane.Makes
          (fun cancelled made _ =>
            cancelled = false
            → Changes (context.changes unit.records action.name) cancelled made)
          (do
            let response ← action.process context unit.records
            pure (some (Outcome.ofResponse response))) :=
    ControlPlane.Makes.map _ (keeps context unit.records fits)
  refine processed.weaken ?_
  intro cancelled made answer changes running
  exact running ▸ changes running

/-- Units in a pool ask for what they want one after the other, in whatever order they finish.
Witness: induction on the units that are still to be started.
-/
theorem Pool.run_makes (pool : Pool) {start : WorkUnit → StateM (Recorded σ) (Option Outcome)}
    {wanted : WorkUnit → List Mutation} (units : List WorkUnit)
    (each
      : ∀ unit ∈ units,
          plane.Makes (fun cancelled made _ => Changes (wanted unit) cancelled made) (start unit))
    (underWay : List FinishedUnit)
    : plane.Makes (fun cancelled made _ => Changes (units.flatMap wanted) cancelled made)
        (pool.run start units underWay) := by
  induction units generalizing underWay with
  | nil => exact .nothingWanted _
  | cons unit rest ih =>
      have others := ih (fun other member => each other (List.mem_cons_of_mem _ member))
      rw [List.flatMap_cons]
      exact (each unit List.mem_cons_self).andThen (fun _ => (others _).map _)

/-- The changes that an action of a policy wants on behalf of records: those of its units, or none
if the action is unknown or does not take the parameters. -/
def ActionSpec.changes (actions : ActionRegistry σ) (resources : ResourceRegistry)
    (policy : String) (resource : ResourceType) (records : List Json) (spec : ActionSpec)
    : List Mutation :=
  match Table.get? actions spec.name with
  | none => []
  | some action =>
      match spec.check action.schema with
      | .error _ => []
      | .ok _ =>
          (WorkUnit.split action.mode.unitSize records).flatMap (fun unit =>
            ActionContext.changes ⟨resource, resources, spec.params, policy⟩ unit.records spec.name)

/-- An action is run on all of its units, and in a dry run on none. -/
theorem ActionSpec.execute_makes (resources : ResourceRegistry) (options : ExecuteOptions)
    (policy : String) (resource : ResourceType) (spec : ActionSpec) (records : List Json)
    : plane.Makes
        (fun cancelled made _ =>
          Changes
            (if options.dryRun then []
              else
                spec.changes (ActionRegistry.builtin plane.recorded) resources policy resource
                  records)
            cancelled made)
        (spec.execute plane.recorded (ActionRegistry.builtin plane.recorded) resources options
          policy resource records) := by
  unfold ActionSpec.execute ActionSpec.changes
  cases found : Table.get? (ActionRegistry.builtin plane.recorded) spec.name with
  | none => simpa only [ite_self] using ControlPlane.Makes.nothingWanted _
  | some action =>
      dsimp only
      cases spec.check action.schema with
      | error error => simpa only [ite_self] using ControlPlane.Makes.nothingWanted _
      | ok _ =>
          cases options.dryRun with
          | true => exact .nothingWanted _
          | false =>
              obtain ⟨named, keeps⟩ := ActionRegistry.builtin_keepsTo found
              simp only [Bool.false_eq_true, if_false]
              refine .map _ ?_
              rw [← named]
              exact options.pool.run_makes _
                (fun unit member =>
                  Action.processUnit_makes keeps _ unit
                    (WorkUnit.length_records_le action.mode.unitSize_pos member))
                []

/-- Actions follow each other, and none of them is run in a dry run. -/
theorem Policy.act_makes (resources : ResourceRegistry) (options : ExecuteOptions)
    (maxDepth pageBudget : Nat) (policy : String) (resource : ResourceType) (records : List Json)
    (specs : List ActionSpec)
    : plane.Makes
        (fun cancelled made _ =>
          Changes
            (specs.flatMap (fun spec =>
              if options.dryRun then []
              else
                spec.changes (ActionRegistry.builtin plane.recorded) resources policy resource
                  records))
            cancelled made)
        (Policy.act (.recording plane resources options maxDepth pageBudget) policy resource records
          specs) := by
  induction specs with
  | nil => exact .nothingWanted _
  | cons spec rest ih =>
      rw [List.flatMap_cons]
      exact (spec.execute_makes resources options policy resource records).andThen
        (fun _ => ih.map _)

end Remediation
