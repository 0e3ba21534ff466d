import Mathlib.Data.List.Basic
import Remediation.Action.Builtin
import Remediation.Proofs.Action.Units
import Remediation.Proofs.ControlPlane.Recorded
import Remediation.Proofs.Table

/-! The calls of actions. Each of the program's actions asks for certain changes on behalf of the
records that it is given, one call at a time, and running it on any number of records asks for those
changes in the order of the records, or stops asking once the run is cancelled.
-/

namespace Remediation

variable {σ α β ε : Type}

-----------------------------------------------------------------------------------------
-- Calls that change something
-----------------------------------------------------------------------------------------

/-- Calls of a step that wants some changes: each asks for a change and is made while the run is not
cancelled, and together they ask for the wanted changes from the first one on, for all of them
unless the run has been cancelled in the end.
-/
structure Changes (wanted : List Mutation) (cancelled : Bool) (made : List Exchange) : Prop where
  noLists : ∀ exchange ∈ made, exchange.isList = false
  running : madeWhileRunning cancelled made = true
  inOrder : mutationsOf made <+: wanted
  complete : cancelledAfter cancelled made = false → mutationsOf made = wanted

namespace Changes

theorem nothing (cancelled : Bool) : Changes [] cancelled [] where
  noLists := by simp
  running := rfl
  inOrder := List.prefix_rfl
  complete := fun _ => rfl

/-- A run that was cancelled before makes no call, whatever is wanted. -/
theorem ofCancelled (wanted : List Mutation) : Changes wanted true [] where
  noLists := by simp
  running := rfl
  inOrder := List.nil_prefix
  complete := fun running => by cases running

theorem single (mutation : Mutation) (answer : Except RemoteError Json) (after : Bool)
    : Changes [mutation] false [⟨.change mutation answer, after⟩] where
  noLists := by simp [Exchange.isList]
  running := rfl
  inOrder := List.prefix_rfl
  complete := fun _ => rfl

/-- What two steps want is wanted in their order; a run that the first one leaves cancelled has no
calls of the second one. -/
theorem append {first second : List Mutation} {cancelled : Bool} {made more : List Exchange}
    (changes : Changes first cancelled made)
    (changesMore : Changes second (cancelledAfter cancelled made) more)
    : Changes (first ++ second) cancelled (made ++ more) := by
  have calls : ∀ exchange ∈ made ++ more, exchange.isList = false := by
    intro exchange member
    rcases List.mem_append.mp member with before | after
    · exact changes.noLists exchange before
    · exact changesMore.noLists exchange after
  have running : madeWhileRunning cancelled (made ++ more) = true := by
    rw [madeWhileRunning_append, changes.running, changesMore.running]
    rfl
  cases stopped : cancelledAfter cancelled made with
  | true =>
      have none : more = [] := eq_nil_of_cancelled (stopped ▸ changesMore.running)
      subst none
      rw [List.append_nil] at calls running ⊢
      refine ⟨calls, running, changes.inOrder.trans (List.prefix_append _ _), ?_⟩
      intro uncancelled
      rw [stopped] at uncancelled
      cases uncancelled
  | false =>
      have all := changes.complete stopped
      refine ⟨calls, running, ?_, ?_⟩
      · rw [mutationsOf_append, all]
        exact (List.prefix_append_right_inj first).mpr changesMore.inOrder
      · intro uncancelled
        rw [cancelledAfter_append] at uncancelled
        rw [mutationsOf_append, all, changesMore.complete uncancelled]

end Changes

namespace ControlPlane.Makes

variable {plane : ControlPlane σ} {first second wanted : List Mutation}

theorem nothingWanted (answer : α)
    : plane.Makes (fun cancelled made _ => Changes [] cancelled made)
        (Pure.pure answer : StateM (Recorded σ) α) :=
  .pure Changes.nothing

/-- Two steps want what the first one wants and then what the second one wants. -/
theorem andThen {step : StateM (Recorded σ) α} {next : α → StateM (Recorded σ) β}
    (makes : plane.Makes (fun cancelled made _ => Changes first cancelled made) step)
    (goesOn
      : ∀ answer,
          plane.Makes (fun cancelled made _ => Changes second cancelled made) (next answer))
    : plane.Makes (fun cancelled made _ => Changes (first ++ second) cancelled made)
        (step >>= next) :=
  makes.bind goesOn (fun changes changesMore => changes.append changesMore)

/-- What is done with the answer of a step that may fail leaves its calls as they are too. -/
theorem thenPure {property : Bool → List Exchange → Prop}
    {step : ExceptT ε (StateM (Recorded σ)) α} (f : α → β)
    (makes : plane.Makes (fun cancelled made _ => property cancelled made) step.run)
    : plane.Makes (fun cancelled made _ => property cancelled made)
        (step >>= fun answer => Pure.pure (f answer)).run := by
  refine makes.bindStep (fun _ _ made _ => made = []) (fun _ => .pure (fun _ => rfl))
    (fun holds => holds) ?_
  intro cancelled made answer more result holds none
  rw [none, List.append_nil]
  exact holds

end ControlPlane.Makes

-----------------------------------------------------------------------------------------
-- What the actions ask for
-----------------------------------------------------------------------------------------

namespace ActionContext

/-- The message that is sent to a topic. -/
def announcement (context : ActionContext) (topics : ResourceType) (subject message : String)
    : Mutation :=
  .publish topics ((context.text? "topic_urn").getD "") subject message

/-- The subject of a message, unless it cannot be rendered. -/
def subject? (context : ActionContext) (records : List Json) : Option String :=
  match context.text? "subject" with
  | some text => (Template.render (Action.messageValues context records) text).toOption
  | none => some s!"cloudmend: {context.policy}"

/-- The message that a unit of records is worth, unless a text of it cannot be rendered. -/
def notice? (context : ActionContext) (records : List Json) : Option Mutation := do
  let topics ← context.resources.get? "topic"
  let subject ← context.subject? records
  let message ←
    (Template.render (Action.messageValues context records)
      ((context.text? "message").getD Action.defaultMessage)).toOption
  some (context.announcement topics subject message)

/-- What is posted to have a record created for a record. -/
def body (context : ActionContext) (record : Json) : Except Template.MissingField Json :=
  Template.expand record ((Table.get? context.params "rule").getD (.object []))

/-- The type of the records that are created. -/
def target? (context : ActionContext) : Option ResourceType :=
  context.resources.get? ((context.text? "target").getD "alarm")

/-- The new records that a unit of records is worth: one for each from which the template can be
filled. -/
def creations (context : ActionContext) (records : List Json) : List Mutation :=
  match context.target? with
  | some target =>
      records.filterMap (fun record => (context.body record).toOption.map (.create target))
  | none => []

/-- The changes that the action of a name wants on behalf of a unit of records. -/
def changes (context : ActionContext) (records : List Json) (action : String) : List Mutation :=
  match action with
  | "delete" => [.delete context.resource (context.ids records)]
  | "enable" => [.setEnabled context.resource (context.ids records) true]
  | "disable" => [.setEnabled context.resource (context.ids records) false]
  | "update-notification" =>
      (context.ids records).map (fun id =>
        .update context.resource "update-notifications" id (.object context.params))
  | "create-alarm-rule" => context.creations records
  | "notify" => (context.notice? records).toList
  | _ => []

end ActionContext

namespace Action

variable {plane : ControlPlane σ}

/-- An action does what it is expected to if it wants the changes of its name, given a unit of
records that is no larger than its units are. -/
def KeepsTo (plane : ControlPlane σ) (action : Action (Recorded σ)) : Prop :=
  ∀ context records,
    records.length ≤ action.mode.unitSize
    → plane.Makes
        (fun cancelled made _ =>
          cancelled = false → Changes (context.changes records action.name) cancelled made)
        (action.process context records).run

/-- A call on behalf of an action is one call, whatever its answer is. -/
theorem call_makes (plane : ControlPlane σ) (mutation : Mutation)
    : plane.Makes
        (fun cancelled made _ => cancelled = false → Changes [mutation] cancelled made)
        (call plane.recorded mutation).run := by
  refine (ControlPlane.Makes.perform mutation).lift.bindStep (fun _ _ made _ => made = []) ?_ ?_ ?_
  · intro answer
    cases answer with
    | ok response => exact .pure (fun _ => rfl)
    | error source => exact .pure (fun _ => rfl)
  · rintro cancelled made error ⟨_, impossible, _⟩
    cases impossible
  · rintro cancelled made answer more result ⟨_, _, after, rfl⟩ rfl rfl
    exact Changes.single mutation _ after

theorem delete_keepsTo : KeepsTo plane (delete plane.recorded) :=
  fun _ _ _ => call_makes plane _

theorem setEnabled_keepsTo (enabled : Bool)
    : KeepsTo plane (setEnabled plane.recorded enabled) := by
  intro context records _
  cases enabled with
  | true => exact call_makes plane _
  | false => exact call_makes plane _

/-- A step for each element of a list that has no more than one makes the calls of that one step. -/
theorem mapM_makes (wanted : α → List Mutation)
    {step : α → ExceptT ActionError (StateM (Recorded σ)) β} {list : List α}
    (single : list.length ≤ 1)
    (each
      : ∀ element,
          plane.Makes
            (fun cancelled made _ => cancelled = false → Changes (wanted element) cancelled made)
            (step element).run)
    : plane.Makes
        (fun cancelled made _ => cancelled = false → Changes (list.flatMap wanted) cancelled made)
        (list.mapM step).run := by
  cases list with
  | nil => exact .pure (fun cancelled _ => Changes.nothing cancelled)
  | cons element rest =>
      have none : rest = [] := by
        have short : rest.length = 0 := by
          simp only [List.length_cons] at single
          omega
        exact List.length_eq_zero_iff.mp short
      subst none
      simp only [List.mapM_cons, List.mapM_nil, pure_bind, List.flatMap_singleton]
      exact (each element).thenPure (fun answer => [answer])

theorem updateNotification_keepsTo : KeepsTo plane (updateNotification plane.recorded) := by
  intro context records fits
  have single : (context.ids records).length ≤ 1 :=
    Nat.le_trans (List.length_filterMap_le _ _) fits
  have calls := mapM_makes _ single (fun id =>
    call_makes plane
      (.update context.resource "update-notifications" id (.object context.params)))
  rw [← List.map_eq_flatMap] at calls
  exact calls.thenPure singleOrList

theorem createAlarmRule_keepsTo : KeepsTo plane (createAlarmRule plane.recorded) := by
  intro context records fits
  simp only [createAlarmRule, ActionContext.changes, ActionContext.creations,
    ActionContext.target?]
  cases context.resources.get? ((context.text? "target").getD "alarm") with
  | none => exact .pure (fun cancelled _ => Changes.nothing cancelled)
  | some target =>
      dsimp only
      rw [List.filterMap_eq_flatMap_toList]
      refine (mapM_makes _ fits (fun record => ?_)).thenPure singleOrList
      change plane.Makes
        (fun cancelled made _ =>
          cancelled = false
          → Changes ((context.body record).toOption.map (.create target)).toList cancelled made)
        _
      unfold ActionContext.body
      cases Template.expand record ((Table.get? context.params "rule").getD (.object [])) with
      | ok body => exact call_makes plane _
      | error missing => exact .pure (fun cancelled _ => Changes.nothing cancelled)

/-- A text of a message is needed before the message is sent, and nothing is sent without it. -/
theorem rendered_makes {values : Json} {text : String} (wanted : String → Option Mutation)
    {next : String → ExceptT ActionError (StateM (Recorded σ)) α}
    (goesOn
      : ∀ rendered,
          plane.Makes
            (fun cancelled made _ =>
              cancelled = false → Changes (wanted rendered).toList cancelled made)
            (next rendered).run)
    : plane.Makes
        (fun cancelled made _ =>
          cancelled = false
          → Changes ((Template.render values text).toOption.bind wanted).toList cancelled made)
        (renderMessage values text >>= next).run := by
  unfold renderMessage
  cases Template.render values text with
  | ok rendered => exact goesOn rendered
  | error missing => exact .pure (fun cancelled _ => Changes.nothing cancelled)

theorem notify_keepsTo : KeepsTo plane (notify plane.recorded) := by
  intro context records _
  simp only [notify, ActionContext.changes, ActionContext.notice?]
  cases context.resources.get? "topic" with
  | none => exact .pure (fun cancelled _ => Changes.nothing cancelled)
  | some topics =>
      have sends (subject : String)
          : plane.Makes
              (fun cancelled made _ =>
                cancelled = false
                → Changes
                    ((Template.render (messageValues context records)
                        ((context.text? "message").getD defaultMessage)).toOption.bind
                      (fun message => some (context.announcement topics subject message))).toList
                    cancelled made)
              (do
                let message ←
                  renderMessage (messageValues context records)
                    ((context.text? "message").getD defaultMessage)
                call plane.recorded (context.announcement topics subject message)).run :=
        rendered_makes _ (fun message =>
          call_makes plane (context.announcement topics subject message))
      unfold ActionContext.subject?
      cases context.text? "subject" with
      | none => exact sends _
      | some text => exact rendered_makes _ sends

end Action

-----------------------------------------------------------------------------------------
-- The actions that come with the program
-----------------------------------------------------------------------------------------

/-- An action found among registered ones is one of them, and is found under its own name.
Witness: induction on the registered actions; the last one of a name takes its place.
-/
theorem ActionRegistry.mem_of_registered {added : List (Action σ)} {actions : ActionRegistry σ}
    {name : String} {action : Action σ}
    (found : Table.get? (added.foldl ActionRegistry.register actions) name = some action)
    : (action ∈ added ∧ action.name = name) ∨ Table.get? actions name = some action := by
  induction added generalizing actions with
  | nil => exact .inr found
  | cons first rest ih =>
      rcases ih found with ⟨member, named⟩ | before
      · exact .inl ⟨List.mem_cons_of_mem _ member, named⟩
      · rw [ActionRegistry.register, Table.get?_insert] at before
        split at before
        · rename_i same
          cases before
          exact .inl ⟨List.mem_cons_self, same.symm⟩
        · exact .inr before

/-- The program's actions, each under its name. -/
theorem ActionRegistry.builtin_cases {plane : ControlPlane σ} {name : String} {action : Action σ}
    (found : Table.get? (ActionRegistry.builtin plane) name = some action)
    : name = "delete" ∧ action = .delete plane
      ∨ name = "enable" ∧ action = .setEnabled plane true
      ∨ name = "disable" ∧ action = .setEnabled plane false
      ∨ name = "update-notification" ∧ action = .updateNotification plane
      ∨ name = "create-alarm-rule" ∧ action = .createAlarmRule plane
      ∨ name = "notify" ∧ action = .notify plane := by
  rcases ActionRegistry.mem_of_registered found with ⟨member, named⟩ | none
  · subst named
    simp only [List.mem_cons, List.not_mem_nil, or_false] at member
    rcases member with rfl | rfl | rfl | rfl | rfl | rfl
    · exact .inl ⟨rfl, rfl⟩
    · exact .inr (.inl ⟨rfl, rfl⟩)
    · exact .inr (.inr (.inl ⟨rfl, rfl⟩))
    · exact .inr (.inr (.inr (.inl ⟨rfl, rfl⟩)))
    · exact .inr (.inr (.inr (.inr (.inl ⟨rfl, rfl⟩))))
    · exact .inr (.inr (.inr (.inr (.inr ⟨rfl, rfl⟩))))
  · cases none

/-- Each of the program's actions is found under its name. -/
theorem ActionRegistry.get?_builtin (plane : ControlPlane σ)
    : Table.get? (ActionRegistry.builtin plane) "delete" = some (.delete plane)
      ∧ Table.get? (ActionRegistry.builtin plane) "enable" = some (.setEnabled plane true)
      ∧ Table.get? (ActionRegistry.builtin plane) "disable" = some (.setEnabled plane false)
      ∧ Table.get? (ActionRegistry.builtin plane) "update-notification"
          = some (.updateNotification plane)
      ∧ Table.get? (ActionRegistry.builtin plane) "create-alarm-rule"
          = some (.createAlarmRule plane)
      ∧ Table.get? (ActionRegistry.builtin plane) "notify" = some (.notify plane) := by
  simp only [ActionRegistry.builtin, List.foldl_cons, List.foldl_nil, ActionRegistry.register,
    Table.get?_insert]
  exact ⟨rfl, rfl, rfl, rfl, rfl, rfl⟩

theorem ActionRegistry.builtin_keepsTo {plane : ControlPlane σ} {name : String}
    {action : Action (Recorded σ)}
    (found : Table.get? (ActionRegistry.builtin plane.recorded) name = some action)
    : action.name = name ∧ action.KeepsTo plane := by
  rcases ActionRegistry.builtin_cases found with
    ⟨rfl, rfl⟩ | ⟨rfl, rfl⟩ | ⟨rfl, rfl⟩ | ⟨rfl, rfl⟩ | ⟨rfl, rfl⟩ | ⟨rfl, rfl⟩
  · exact ⟨rfl, Action.delete_keepsTo⟩
  · exact ⟨rfl, Action.setEnabled_keepsTo true⟩
  · exact ⟨rfl, Action.setEnabled_keepsTo false⟩
  · exact ⟨rfl, Action.updateNotification_keepsTo⟩
  · exact ⟨rfl, Action.createAlarmRule_keepsTo⟩
  · exact ⟨rfl, Action.notify_keepsTo⟩

end Remediation
