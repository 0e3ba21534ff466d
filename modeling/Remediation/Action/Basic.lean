import Remediation.Action.Schema
import Remediation.ControlPlane.Basic
import Remediation.Resource.Identity
import Remediation.Resource.Registry
import Remediation.Text.Quoted

/-!
Actions and what comes of them. An action processes some matched records in one go; its outcome
then belongs to each of these records.
-/

namespace Remediation

/-- How many records one call of an action is for. -/
inductive ExecutionMode where
  | batch (most : Nat)
  | perResource
  deriving DecidableEq, Repr

/-- How many records a unit of work holds at most. Never none. -/
def ExecutionMode.unitSize : ExecutionMode → Nat
  | .batch most => max 1 most
  | .perResource => 1

/-- The text of a mode. -/
def ExecutionMode.text : ExecutionMode → String
  | .batch most => "Batch \x7b max_size: " ++ toString most ++ " \x7d"
  | .perResource => "PerResource"

/-- Why an action failed. -/
inductive FailureKind where
  /-- The parameters were refused before any call. -/
  | schema
  | remote
  /-- The call could not be made up from the record. -/
  | invalid
  deriving DecidableEq, Repr

def FailureKind.name : FailureKind → String
  | .schema => "schema"
  | .remote => "remote"
  | .invalid => "invalid"

/-- What came of an action for one record. -/
inductive Outcome where
  | succeeded (response : Json)
  | failed (kind : FailureKind) (message : String)
  | skipped (reason : String)
  deriving Repr

namespace Outcome

def label : Outcome → String
  | .succeeded _ => "succeeded"
  | .failed .. => "failed"
  | .skipped _ => "skipped"

def isFailed : Outcome → Bool
  | .failed .. => true
  | _ => false

/-- A record whose turn had not come when the run was cancelled. -/
def cancelled : Outcome := .skipped "cancelled"

end Outcome

/-- What came of an action for the record with an identity, which is empty if it has none. -/
structure ActionResult where
  action : String
  resourceId : String
  outcome : Outcome
  deriving Repr

/-- Why a call of an action has no response. -/
inductive ActionError where
  | remote (source : RemoteError)
  | invalid (message : String)
  deriving DecidableEq, Repr

/-- The outcome of a call that failed. -/
def ActionError.outcome : ActionError → Outcome
  | .remote source => .failed .remote source.text
  | .invalid message => .failed .invalid message

/-- The outcome of a call. -/
def Outcome.ofResponse : Except ActionError Json → Outcome
  | .ok response => .succeeded response
  | .error error => error.outcome

/-- What an action may know besides the records. -/
structure ActionContext where
  /-- The type of the records. -/
  resource : ResourceType
  /-- All types, for actions on another one. -/
  resources : ResourceRegistry
  params : Fields
  policy : String

namespace ActionContext

def text? (context : ActionContext) (param : String) : Option String :=
  (Table.get? context.params param).bind Json.string?

def ids (context : ActionContext) (records : List Json) : List String :=
  identities records context.resource.idField

end ActionContext

/-- An action over a control plane with some state. -/
structure Action (σ : Type) where
  name : String
  schema : ParameterSchema
  mode : ExecutionMode
  process : ActionContext → List Json → ExceptT ActionError (StateM σ) Json

/-- Actions under their names. -/
abbrev ActionRegistry (σ : Type) := Table (Action σ)

/-- What parameters the actions take that are known. -/
abbrev SchemaTable := Table ParameterSchema

namespace ActionRegistry

/-- Adds an action in the place of one with its name. -/
def register (actions : ActionRegistry σ) (action : Action σ) : ActionRegistry σ :=
  Table.insert action.name action actions

/-- The text that stands for a registry: the names of its actions. -/
def text (actions : ActionRegistry σ) : String :=
  let names := (Table.keys actions).map Text.shown
  "ActionRegistry \x7b actions: [" ++ ", ".intercalate names ++ "] \x7d"

def schemas (actions : ActionRegistry σ) : SchemaTable :=
  actions.map (fun (name, action) => (name, action.schema))

end ActionRegistry

end Remediation
