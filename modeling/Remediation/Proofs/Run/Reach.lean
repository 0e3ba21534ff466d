import Mathlib.Data.List.Forall2
import Remediation.Proofs.Run.Evaluation
import Remediation.Proofs.Run.Phases

/-! What the changes of a run are about. The records that match can all be told apart by their
identities, and each action of the policy that touches records touches every one of them once,
whatever pages they came on and however they are divided among calls.
-/

namespace Remediation

variable {σ : Type}

-----------------------------------------------------------------------------------------
-- Identities in batches
-----------------------------------------------------------------------------------------

/-- Batches of identities that are never empty, hold no more than they may and are all the
identities in their order. -/
structure Batches (most : Nat) (ids : List String) (batches : List (List String)) : Prop where
  nonempty : ∀ batch ∈ batches, batch ≠ []
  bounded : ∀ batch ∈ batches, batch.length ≤ most
  joined : batches.flatten = ids

/-- The identities in the units of records, one unit behind the other, are those of the records. -/
theorem flatMap_identities_split {size : Nat} (positive : 0 < size) (idField : String)
    (records : List Json)
    : (WorkUnit.split size records).flatMap (fun unit => identities unit.records idField)
      = identities records idField := by
  calc
    _ = identities ((WorkUnit.split size records).flatMap WorkUnit.records) idField :=
        List.filterMap_flatMap.symm
    _ = identities records idField := by rw [WorkUnit.flatMap_split positive]

/-- Units of records that all have identities have batches of identities. -/
theorem Distinguished.batches {size : Nat} (positive : 0 < size) {idField : String}
    {records : List Json} (told : Distinguished idField records)
    : Batches size (identities records idField)
        ((WorkUnit.split size records).map (fun unit => identities unit.records idField)) where
  nonempty := by
    intro batch member none
    obtain ⟨unit, inside, rfl⟩ := List.mem_map.mp member
    obtain ⟨record, rest, some⟩ :=
      List.exists_cons_of_ne_nil (WorkUnit.records_ne_nil positive inside)
    have here : record ∈ unit.records := by simp [some]
    have among : record ∈ records := by
      rw [← WorkUnit.flatMap_split positive records]
      exact List.mem_flatMap.mpr ⟨unit, inside, here⟩
    obtain ⟨id, found⟩ := told.identified record among
    have missing := List.filterMap_eq_nil_iff.mp none record here
    rw [found] at missing
    cases missing
  bounded := by
    intro batch member
    obtain ⟨unit, inside, rfl⟩ := List.mem_map.mp member
    exact Nat.le_trans (List.length_filterMap_le _ _)
      (WorkUnit.length_records_le positive inside)
  joined := by
    rw [← List.flatMap_def]
    exact flatMap_identities_split positive idField records

-----------------------------------------------------------------------------------------
-- What an action touches
-----------------------------------------------------------------------------------------

/-- The identities of the records that a change is made to. New records and messages touch none. -/
def Mutation.touched : Mutation → List String
  | .delete _ ids => ids
  | .setEnabled _ ids _ => ids
  | .update _ _ id _ => [id]
  | .create .. => []
  | .publish .. => []

/-- An action that is known and takes its parameters. -/
def ActionSpec.IsValid (actions : ActionRegistry σ) (spec : ActionSpec) : Prop :=
  ∃ action, Table.get? actions spec.name = some action ∧ spec.check action.schema = .ok ()

/-- Whether an action is valid does not depend on what is written down. -/
theorem ActionSpec.isValid_recorded (spec : ActionSpec) (plane : ControlPlane σ)
    : spec.IsValid (ActionRegistry.builtin plane.recorded)
      ↔ spec.IsValid (ActionRegistry.builtin plane) := by
  have found := ActionRegistry.builtin_mirrors plane spec.name
  unfold ActionSpec.IsValid
  generalize Table.get? (ActionRegistry.builtin plane.recorded) spec.name = action at found
  generalize Table.get? (ActionRegistry.builtin plane) spec.name = plain at found
  cases found with
  | none => exact iff_of_false (by simp) (by simp)
  | some mirrors => simp [mirrors.schema]

/-- What a valid action asks for on behalf of records with some identities. Deleting and switching
takes batches of them and changing notifications takes them one by one; the other actions make new
records or send messages.
-/
inductive Asks (resource : ResourceType) (ids : List String) (params : Fields)
    : String → List Mutation → Prop
  | deletes {batches : List (List String)} (all : Batches 100 ids batches)
    : Asks resource ids params "delete" (batches.map (.delete resource))
  | enables {batches : List (List String)} (all : Batches 100 ids batches)
    : Asks resource ids params "enable"
        (batches.map (fun batch => .setEnabled resource batch true))
  | disables {batches : List (List String)} (all : Batches 100 ids batches)
    : Asks resource ids params "disable"
        (batches.map (fun batch => .setEnabled resource batch false))
  | updates
    : Asks resource ids params "update-notification"
        (ids.map (fun id => .update resource "update-notifications" id (.object params)))
  | creates {asked : List Mutation}
    (new : ∀ mutation ∈ asked, ∃ target body, mutation = .create target body)
    : Asks resource ids params "create-alarm-rule" asked
  | notifies {asked : List Mutation}
    (messages
      : ∀ mutation ∈ asked, ∃ topics topic subject message,
          mutation = .publish topics topic subject message)
    : Asks resource ids params "notify" asked

/-- Changes in batches touch what is in the batches. -/
theorem flatMap_touched_batches {batches : List (List String)} {change : List String → Mutation}
    (touches : ∀ batch, (change batch).touched = batch)
    : (batches.map change).flatMap Mutation.touched = batches.flatten := by
  induction batches with
  | nil => rfl
  | cons batch rest ih => simp [touches, ih]

/-- An action touches all records, each of them once and in order, or none at all. -/
theorem Asks.touched {resource : ResourceType} {ids : List String} {params : Fields}
    {name : String} {asked : List Mutation} (asks : Asks resource ids params name asked)
    : asked.flatMap Mutation.touched = [] ∨ asked.flatMap Mutation.touched = ids := by
  cases asks with
  | deletes all => exact .inr ((flatMap_touched_batches (fun _ => rfl)).trans all.joined)
  | enables all => exact .inr ((flatMap_touched_batches (fun _ => rfl)).trans all.joined)
  | disables all => exact .inr ((flatMap_touched_batches (fun _ => rfl)).trans all.joined)
  | updates =>
      right
      rw [List.flatMap_map]
      exact List.flatMap_singleton' ids
  | creates new =>
      refine .inl (List.flatMap_eq_nil_iff.mpr (fun mutation member => ?_))
      obtain ⟨_, _, rfl⟩ := new mutation member
      rfl
  | notifies messages =>
      refine .inl (List.flatMap_eq_nil_iff.mpr (fun mutation member => ?_))
      obtain ⟨_, _, _, _, rfl⟩ := messages mutation member
      rfl

/-- What is created is the body that some record fills the template with. -/
theorem ActionContext.exists_create_of_mem_creations {context : ActionContext}
    {records : List Json} {mutation : Mutation} (wanted : mutation ∈ context.creations records)
    : ∃ target record body,
        context.target? = some target
        ∧ record ∈ records
        ∧ context.body record = .ok body
        ∧ mutation = .create target body := by
  unfold ActionContext.creations at wanted
  cases known : context.target? with
  | none => simp [known] at wanted
  | some target =>
      simp only [known] at wanted
      obtain ⟨record, member, created⟩ := List.mem_filterMap.mp wanted
      obtain ⟨body, filled, rfl⟩ := Option.map_eq_some_iff.mp created
      refine ⟨target, record, body, rfl, member, ?_, rfl⟩
      cases expanded : context.body record with
      | ok other =>
          rw [expanded] at filled
          cases filled
          rfl
      | error missing =>
          rw [expanded] at filled
          cases filled

theorem ActionContext.exists_publish_of_notice {context : ActionContext} {records : List Json}
    {mutation : Mutation} (wanted : context.notice? records = some mutation)
    : ∃ topics topic subject message, mutation = .publish topics topic subject message := by
  unfold ActionContext.notice? at wanted
  obtain ⟨topics, _, wanted⟩ := Option.bind_eq_some_iff.mp wanted
  obtain ⟨subject, _, wanted⟩ := Option.bind_eq_some_iff.mp wanted
  obtain ⟨message, _, wanted⟩ := Option.bind_eq_some_iff.mp wanted
  exact ⟨topics, _, subject, message, (Option.some.inj wanted).symm⟩

/-- What deleting asks for. -/
theorem Asks.batches_of_delete {resource : ResourceType} {ids : List String} {params : Fields}
    {name : String} {asked : List Mutation} (asks : Asks resource ids params name asked)
    (named : name = "delete")
    : ∃ batches, asked = batches.map (.delete resource) ∧ Batches 100 ids batches := by
  cases asks with
  | deletes all => exact ⟨_, rfl, all⟩
  | enables _ | disables _ | updates | creates _ | notifies _ => exact absurd named (by decide)

/-- What changing notifications asks for. -/
theorem Asks.eq_of_update {resource : ResourceType} {ids : List String} {params : Fields}
    {name : String} {asked : List Mutation} (asks : Asks resource ids params name asked)
    (named : name = "update-notification")
    : asked = ids.map (fun id => .update resource "update-notifications" id (.object params)) := by
  cases asks with
  | updates => rfl
  | deletes _ | enables _ | disables _ | creates _ | notifies _ => exact absurd named (by decide)

section Actions

variable {plane : ControlPlane σ} {resources : ResourceRegistry} {policy : String}
  {resource : ResourceType} {records : List Json} {spec : ActionSpec}

/-- A valid action wants what its units want. -/
theorem ActionSpec.changes_of_valid {actions : ActionRegistry σ} {action : Action σ}
    (found : Table.get? actions spec.name = some action)
    (checked : spec.check action.schema = .ok ())
    : spec.changes actions resources policy resource records
      = (WorkUnit.split action.mode.unitSize records).flatMap (fun unit =>
          ActionContext.changes ⟨resource, resources, spec.params, policy⟩ unit.records
            spec.name) := by
  simp only [ActionSpec.changes, found, checked]

/-- An action that is not valid wants nothing. -/
theorem ActionSpec.changes_of_invalid {actions : ActionRegistry σ}
    (invalid : ¬spec.IsValid actions)
    : spec.changes actions resources policy resource records = [] := by
  unfold ActionSpec.changes
  cases found : Table.get? actions spec.name with
  | none => rfl
  | some action =>
      dsimp only
      cases checked : spec.check action.schema with
      | error error => rfl
      | ok _ => exact absurd ⟨action, found, checked⟩ invalid

/-- What units want one call each for is wanted in batches. -/
theorem flatMap_units_batched (size : Nat) (change : List String → Mutation)
    : (WorkUnit.split size records).flatMap
        (fun unit => [change (identities unit.records resource.idField)])
      = ((WorkUnit.split size records).map
          (fun unit => identities unit.records resource.idField)).map change := by
  rw [List.map_map]
  exact List.map_eq_flatMap.symm

/-- A valid action of the program asks for what its name says. -/
theorem ActionSpec.asks_of_valid (told : Distinguished resource.idField records)
    (valid : spec.IsValid (ActionRegistry.builtin plane))
    : Asks resource (identities records resource.idField) spec.params spec.name
        (spec.changes (ActionRegistry.builtin plane) resources policy resource records) := by
  obtain ⟨action, found, checked⟩ := valid
  rw [ActionSpec.changes_of_valid found checked]
  have hundred := told.batches (Nat.zero_lt_succ 99)
  rcases ActionRegistry.builtin_cases found with
    ⟨named, rfl⟩ | ⟨named, rfl⟩ | ⟨named, rfl⟩ | ⟨named, rfl⟩ | ⟨named, rfl⟩ | ⟨named, rfl⟩
  · rw [named]
    exact flatMap_units_batched 100 (.delete resource) ▸ Asks.deletes hundred
  · rw [named]
    exact flatMap_units_batched 100 (fun batch => .setEnabled resource batch true)
      ▸ Asks.enables hundred
  · rw [named]
    exact flatMap_units_batched 100 (fun batch => .setEnabled resource batch false)
      ▸ Asks.disables hundred
  · rw [named]
    have all := congrArg
      (List.map (fun id =>
        Mutation.update resource "update-notifications" id (.object spec.params)))
      (flatMap_identities_split Nat.zero_lt_one resource.idField records)
    rw [List.map_flatMap] at all
    exact all ▸ Asks.updates
  · rw [named]
    refine .creates (fun mutation member => ?_)
    obtain ⟨unit, _, wanted⟩ := List.mem_flatMap.mp member
    obtain ⟨target, _, body, _, _, _, same⟩ :=
      ActionContext.exists_create_of_mem_creations wanted
    exact ⟨target, body, same⟩
  · rw [named]
    refine .notifies (fun mutation member => ?_)
    obtain ⟨unit, _, wanted⟩ := List.mem_flatMap.mp member
    exact ActionContext.exists_publish_of_notice (Option.mem_toList.mp wanted)

end Actions

-----------------------------------------------------------------------------------------
-- What a run touches
-----------------------------------------------------------------------------------------

/-- The records that an evaluation matches are among those of its fetch, in their order. -/
theorem Policy.fetched_of_evaluate_eq_ok {setting : RunSetting σ} {policy : Policy} {depth : Nat}
    {state final : σ} {evaluation : Evaluation} {resource : ResourceType}
    (known : setting.resources.get? policy.resource = some resource)
    (evaluated : outcomeOf (policy.evaluate setting depth) state = (.ok evaluation, final))
    : ∃ records after,
        outcomeOf (setting.fetch resource) state = (.ok records, after)
        ∧ evaluation.population = records.length
        ∧ evaluation.matched.Sublist records
        ∧ Distinguished resource.idField records := by
  obtain ⟨records, after, test, fetched, told, rfl⟩ :=
    Policy.split_of_evaluate_eq_ok known evaluated
  exact ⟨records, after, fetched, rfl, List.filter_sublist, told⟩

/-- A run with a report that is no dry run and is not cancelled reaches exactly what it matched. The
records that matched are some of those that were fetched, in their order, and all have identities,
no two of them the same one. The changes that the run asked for fall into one part for each action
of the policy, and each valid action that touches records touches every one of these identities
once.
-/
theorem Policy.run_reaches {plane : ControlPlane σ} {resources : ResourceRegistry} {pool : Pool}
    {maxDepth pageBudget : Nat} {policy : Policy} {start after : σ} {report : RunReport}
    (ran
      : outcomeOf (policy.run (.ofPlane plane resources ⟨pool, false⟩ maxDepth pageBudget)) start
        = (.ok report, after))
    (uncancelled : report.cancelled = false)
    : ∃ final resource records evaluation fetched evaluated ids parts,
        outcomeOf (policy.run (.recording plane resources ⟨pool, false⟩ maxDepth pageBudget))
            (.start start)
          = (.ok report, final)
        ∧ plane.Leads start final.exchanges after
        ∧ resources.get? policy.resource = some resource
        ∧ outcomeOf
              ((RunSetting.ofPlane plane resources ⟨pool, false⟩ maxDepth pageBudget).fetch
                resource)
              start
            = (.ok records, fetched)
        ∧ outcomeOf
              (policy.evaluate (.ofPlane plane resources ⟨pool, false⟩ maxDepth pageBudget) 0)
              start
            = (.ok evaluation, evaluated)
        ∧ report.matched = evaluation.matched.length
        ∧ evaluation.matched.Sublist records
        ∧ evaluation.matched.map (identity · resource.idField) = ids.map some
        ∧ ids.Nodup
        ∧ mutationsOf final.exchanges = parts.flatten
        ∧ List.Forall₂
            (fun spec part =>
              (spec.IsValid (ActionRegistry.builtin plane)
                → Asks resource ids spec.params spec.name part)
              ∧ (¬spec.IsValid (ActionRegistry.builtin plane) → part = [])
              ∧ (part.flatMap Mutation.touched = [] ∨ part.flatMap Mutation.touched = ids))
            policy.actions parts := by
  obtain ⟨outcome, final, lists, changes, recorded, exchanges, leads, reads, ended | acted⟩ :=
    policy.run_recorded plane resources ⟨pool, false⟩ maxDepth pageBudget start
  all_goals
    have plain :=
      policy.outcomeOf_run_ofPlane plane resources ⟨pool, false⟩ maxDepth pageBudget (.start start)
    rw [recorded] at plain
    cases ran.symm.trans plain
  · obtain ⟨_, cancelled⟩ := ended
    rw [cancelled report rfl] at uncancelled
    cases uncancelled
  · obtain ⟨resource, evaluation, middle, results, known, _, evaluated, _, reported, made⟩ := acted
    cases reported
    have evaluatedPlain :=
      (policy.evaluate_mirrors plane resources ⟨pool, false⟩ maxDepth pageBudget 0).outcomeOf
        (.start start)
    rw [evaluated] at evaluatedPlain
    obtain ⟨records, fetched, fetch, _, sub, all⟩ :=
      Policy.fetched_of_evaluate_eq_ok known evaluatedPlain
    have told := all.sublist sub
    have running
        : cancelledAfter (cancelledAfter (plane.cancelled start) lists) changes = false := by
      rw [← cancelledAfter_append, ← leads.cancelled]
      exact uncancelled
    refine ⟨final, resource, records, evaluation, fetched, middle.state,
      identities evaluation.matched resource.idField,
      policy.actions.map (fun spec =>
        spec.changes (ActionRegistry.builtin plane.recorded) resources policy.name resource
          evaluation.matched),
      recorded, exchanges ▸ leads, known, fetch, evaluatedPlain, rfl, sub,
      (identities_of_identified told.identified).symm, told.distinct, ?_, ?_⟩
    · rw [exchanges, mutationsOf_lists_append changes reads.onlyLists, made.complete running]
      rfl
    · rw [List.forall₂_map_right_iff, List.forall₂_same]
      intro spec _
      rw [← spec.isValid_recorded plane]
      refine ⟨ActionSpec.asks_of_valid told, ActionSpec.changes_of_invalid, ?_⟩
      by_cases valid : spec.IsValid (ActionRegistry.builtin plane.recorded)
      · exact (ActionSpec.asks_of_valid told valid).touched
      · exact .inl (by rw [ActionSpec.changes_of_invalid valid]; rfl)

-----------------------------------------------------------------------------------------
-- Two pages, and calls that all fail
-----------------------------------------------------------------------------------------

namespace Sample

/-- A record with an identity. -/
def listed (id : String) : Json := .object [("alarm_id", .string id)]

/-- Two pages with a record twice and one without an identity; no change succeeds. -/
def twoPages : ControlPlane Unit where
  listPage := fun _ cursor state =>
    (.ok (if cursor.isNone then ⟨[listed "a", listed "a", .object []], some "next"⟩
      else ⟨[listed "b"], none⟩), state)
  perform := fun mutation state =>
    (.error ⟨"ces", mutation.operation, .http 500, "boom"⟩, state)
  cancelled := fun _ => false

/-- Deletes all alarms and changes their notifications. -/
def sweep : Policy :=
  ⟨
    "sweep", "alarm", none, [],
    [⟨"delete", []⟩, ⟨"update-notification", [("notification_enabled", .bool true)]⟩],
    none, none
  ⟩

def sweepSetting : RunSetting Unit :=
  .ofPlane twoPages ⟨[("alarm", .alarm)]⟩ ⟨.inOrder 1, false⟩ 0 2

def sweepRecording : RunSetting (Recorded Unit) :=
  .recording twoPages ⟨[("alarm", .alarm)]⟩ ⟨.inOrder 1, false⟩ 0 2

theorem sweep_fetched
    : ∃ final,
        outcomeOf (sweepSetting.fetch .alarm) () = (.ok [listed "a", listed "b"], final) := by
  exact ⟨_, Prod.ext rfl rfl⟩

theorem sweep_evaluated
    : ∃ final,
        outcomeOf (sweep.evaluate sweepSetting 0) ()
          = (.ok ⟨2, [listed "a", listed "b"], []⟩, final) := by
  obtain ⟨final, fetched⟩ := sweep_fetched
  refine ⟨final, ?_⟩
  have known : sweepSetting.resource sweep.resource = pure .alarm := rfl
  have within : sweepSetting.checkDepth 0 = pure () := rfl
  have nested : sweep.nested = [] := rfl
  rw [Policy.evaluate_eq, known, within, pure_bind, pure_bind, outcomeOf_bind, fetched, nested]
  rfl

theorem sweep_ran
    : ∃ report final,
        outcomeOf (sweep.run sweepSetting) () = (.ok report, final)
        ∧ report.cancelled = false := by
  obtain ⟨final, evaluated⟩ := sweep_evaluated
  have known : sweepSetting.resources.get? sweep.resource = some .alarm := rfl
  have within : ¬sweepSetting.maxDepth < sweep.nestingDepth := by decide
  have limits : sweep.checkLimits 2 2 = .ok () := by rfl
  rw [Policy.outcomeOf_run, known]
  simp only [within, if_false, evaluated, Policy.outcomeOf_remediate, List.length_cons,
    List.length_nil, limits]
  exact ⟨_, _, rfl, rfl⟩

theorem sweep_valid
    : ∀ spec ∈ sweep.actions, spec.IsValid (ActionRegistry.builtin twoPages) := by
  obtain ⟨delete, _, _, update, _⟩ := ActionRegistry.get?_builtin twoPages
  intro spec member
  rcases List.mem_cons.mp member with rfl | member
  · exact ⟨_, delete, rfl⟩
  · rcases List.mem_cons.mp member with rfl | none
    · exact ⟨_, update, rfl⟩
    · cases none

end Sample

/-- No change succeeds, one of the records comes twice and another one has no identity. -/
theorem Policy.run_reaches_twoPages
    : ∃ report after final,
        outcomeOf (Sample.sweep.run Sample.sweepSetting) () = (.ok report, after)
        ∧ report.cancelled = false
        ∧ outcomeOf (Sample.sweep.run Sample.sweepRecording) (.start ()) = (.ok report, final)
        ∧ ∃ batches,
            Batches 100 ["a", "b"] batches
            ∧ mutationsOf final.exchanges
              = batches.map (.delete .alarm)
                ++ ["a", "b"].map (fun id =>
                  .update .alarm "update-notifications" id
                    (.object [("notification_enabled", .bool true)])) := by
  obtain ⟨report, after, ran, uncancelled⟩ := Sample.sweep_ran
  obtain ⟨final, resource, _, evaluation, _, _, ids, parts, recorded, _, known, _, evaluated, _, _,
    identified, _, asked, each⟩ := Policy.run_reaches ran uncancelled
  have same : ResourceType.alarm = resource := Option.some.inj known
  subst same
  obtain ⟨_, evaluatedTo⟩ := Sample.sweep_evaluated
  cases (Prod.mk.inj (evaluated.symm.trans evaluatedTo)).1
  have all : ["a", "b"] = ids := (List.map_inj_right (fun _ _ => Option.some.inj)).mp identified
  subst all
  cases each with
  | cons first others =>
      cases others with
      | cons second none =>
          cases none
          have deleted := first.1 (Sample.sweep_valid _ List.mem_cons_self)
          have updated :=
            second.1 (Sample.sweep_valid _ (List.mem_cons_of_mem _ List.mem_cons_self))
          obtain ⟨batches, batched, all⟩ := deleted.batches_of_delete rfl
          refine ⟨report, after, final, ran, uncancelled, recorded, batches, all, ?_⟩
          rw [asked, batched, updated.eq_of_update rfl]
          simp

end Remediation
