import Remediation.Action.Basic
import Remediation.Action.Template

/-!
The actions that come with the program: deleting, enabling and disabling alarm rules in batches,
changing their notifications one by one, creating a rule for each record, and telling a topic
about the records.
-/

namespace Remediation

namespace Action

variable {σ : Type}

/-- How many identities one request may hold. -/
def maxBatch : Nat := 100

/-- Makes a remote call on behalf of an action. -/
def call (plane : ControlPlane σ) (mutation : Mutation)
    : ExceptT ActionError (StateM σ) Json := do
  match ← plane.perform mutation with
  | .ok response => pure response
  | .error source => throw (.remote source)

/-- The response to one call alone, or the list of the responses to several. -/
def singleOrList : List Json → Json
  | [response] => response
  | responses => .array responses

/-- Deletes the records, in batches. -/
def delete (plane : ControlPlane σ) : Action σ :=
  {
    name := "delete",
    schema := .none,
    mode := .batch maxBatch,
    process := fun context records => call plane (.delete context.resource (context.ids records))
  }

/-- Enables or disables the records, in batches. -/
def setEnabled (plane : ControlPlane σ) (enabled : Bool) : Action σ :=
  {
    name := if enabled then "enable" else "disable",
    schema := .none,
    mode := .batch maxBatch,
    process := fun context records =>
      call plane (.setEnabled context.resource (context.ids records) enabled)
  }

/-- A time of the day, hours and minutes. -/
def clockTime : CharPattern :=
  ⟨[('0', '2'), ('0', '9'), (':', ':'), ('0', '5'), ('0', '9')]⟩

/-- Replaces the notification settings of each record by the parameters. -/
def updateNotification (plane : ControlPlane σ) : Action σ :=
  {
    name := "update-notification",
    schema :=
      {
        parameters :=
          .ofList
            [
              ("notification_enabled", .boolean),
              ("alarm_notifications", .array .object),
              ("ok_notifications", .array .object),
              ("notification_begin_time", .string none (some clockTime)),
              ("notification_end_time", .string none (some clockTime))
            ],
        required := ["notification_enabled"]
      },
    mode := .perResource,
    process := fun context records => do
      let responses ← (context.ids records).mapM (fun id =>
        call plane (.update context.resource "update-notifications" id (.object context.params)))
      pure (singleOrList responses)
  }

/-- Creates a record of the target type for each record, from a template. -/
def createAlarmRule (plane : ControlPlane σ) : Action σ :=
  {
    name := "create-alarm-rule",
    schema :=
      {
        parameters := .ofList [("rule", .object), ("target", .string none none)],
        required := ["rule"]
      },
    mode := .perResource,
    process := fun context records => do
      let name := (context.text? "target").getD "alarm"
      match context.resources.get? name with
      | none => throw (.invalid s!"unknown target resource '{name}'")
      | some target => do
          let template := (Table.get? context.params "rule").getD (.object [])
          let responses ← records.mapM (fun record =>
            match Template.expand record template with
            | .ok body => call plane (.create target body)
            | .error missing => throw (.invalid missing.message))
          pure (singleOrList responses)
  }

/-- A text of a message, rendered with what is known of the records. -/
def renderMessage (values : Json) (text : String)
    : ExceptT ActionError (StateM σ) String :=
  match Template.render values text with
  | .ok rendered => pure rendered
  | .error missing => throw (.invalid missing.message)

/-- The message about matched records when no other is given. -/
def defaultMessage : String :=
  "Policy \x7bpolicy\x7d matched \x7bcount\x7d \x7bresource\x7d resources: \x7bids\x7d"

/-- What the placeholders of a message may stand for. -/
def messageValues (context : ActionContext) (records : List Json) : Json :=
  let ids := context.ids records
  .ofFields
    [
      ("policy", .string context.policy),
      ("resource", .string context.resource.key),
      ("count", .ofNat ids.length),
      ("ids", .string (", ".intercalate ids))
    ]

/-- Publishes one message about each batch of records. -/
def notify (plane : ControlPlane σ) : Action σ :=
  {
    name := "notify",
    schema :=
      {
        parameters :=
          .ofList
            [
              ("topic_urn", .string (some 1) none),
              ("subject", .string none none),
              ("message", .string none none)
            ],
        required := ["topic_urn"]
      },
    mode := .batch maxBatch,
    process := fun context records => do
      match context.resources.get? "topic" with
      | none => throw (.invalid "no 'topic' resource is registered")
      | some topics => do
          let values := messageValues context records
          let subject ←
            match context.text? "subject" with
            | some text => renderMessage values text
            | none => pure s!"cloudmend: {context.policy}"
          let message ← renderMessage values ((context.text? "message").getD defaultMessage)
          call plane
            (.publish topics ((context.text? "topic_urn").getD "") subject message)
  }

end Action

/-- The actions that come with the program. -/
def ActionRegistry.builtin (plane : ControlPlane σ) : ActionRegistry σ :=
  [
    Action.delete plane,
    Action.setEnabled plane true,
    Action.setEnabled plane false,
    Action.updateNotification plane,
    Action.createAlarmRule plane,
    Action.notify plane
  ].foldl register []

/-- What parameters these actions take, whatever the control plane is. -/
def SchemaTable.builtin : SchemaTable :=
  (ActionRegistry.builtin (ControlPlane.vacant : ControlPlane Unit)).schemas

end Remediation
