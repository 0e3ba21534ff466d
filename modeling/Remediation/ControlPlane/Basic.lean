import Remediation.Resource.Basic

/-!
The control plane: the remote services that list records and change them. It is a pair of
functions on a state, which may be anything from a list of records in memory to the answers of a
server that are still to come, so that a run is a function of the control plane and the state
that it starts from.
-/

namespace Remediation

/-- The category of a failed remote call. -/
inductive RemoteErrorKind where
  /-- The service answered with a status that is no success. -/
  | http (status : Nat)
  /-- The request was never completed. -/
  | transport
  /-- The answer is not what is expected. -/
  | decode
  /-- The resource type has no route for the operation. -/
  | unsupported
  deriving DecidableEq, Repr

/-- The failure of a remote call. -/
structure RemoteError where
  service : String
  operation : String
  kind : RemoteErrorKind
  message : String
  deriving DecidableEq, Repr

namespace RemoteError

/-- The whole text of a failure. -/
def text (error : RemoteError) : String :=
  s!"{error.service}.{error.operation} failed: {error.message}"

/-- The status that the service answered with, if it answered at all. -/
def status? (error : RemoteError) : Option Nat :=
  match error.kind with
  | .http status => some status
  | _ => none

/-- What a user can do about a failure. The service's own words are not repeated. -/
def hint (error : RemoteError) : String :=
  match error.kind with
  | .http 403 => "Permission denied. Check your IAM permissions."
  | .http 401 => "Authentication failed. Refresh the token in HUAWEI_AUTH_TOKEN."
  | .http 404 => "Resource not found."
  | .http 409 => "Resource conflict. The resource may already exist or be in use."
  | .http 429 => "Rate limit exceeded. Please try again later."
  | .http 400 => "Invalid request. Check your parameters."
  | .http status =>
      if 500 ≤ status then "Service temporarily unavailable. Please try again."
      else s!"Request failed with status {status}."
  | .transport => "Request failed. Check your network connection and try again."
  | .decode => "Unexpected response from the service."
  | .unsupported => error.message

end RemoteError

/-- One page of a list. -/
structure Page where
  items : List Json
  /-- Where the next page starts; none or empty after the last page. -/
  cursor : Option String
  deriving Repr

/-- The cursor of the next page, if there is one. -/
def Page.next? (page : Page) : Option String :=
  page.cursor.filter (!·.isEmpty)

/-- A remote call that changes something. -/
inductive Mutation where
  | delete (resource : ResourceType) (ids : List String)
  | setEnabled (resource : ResourceType) (ids : List String) (enabled : Bool)
  | update (resource : ResourceType) (operation id : String) (body : Json)
  | create (resource : ResourceType) (body : Json)
  | publish (topics : ResourceType) (topic subject message : String)
  deriving Repr

namespace Mutation

/-- The resource type that a call is about. -/
def resource : Mutation → ResourceType
  | .delete resource _ => resource
  | .setEnabled resource _ _ => resource
  | .update resource _ _ _ => resource
  | .create resource _ => resource
  | .publish topics _ _ _ => topics

/-- The operation whose route a call takes. -/
def operation : Mutation → String
  | .delete .. => "delete-batch"
  | .setEnabled .. => "enable-batch"
  | .update _ operation _ _ => operation
  | .create .. => "create"
  | .publish .. => "publish"

/-- The identities that a call is about. -/
def ids : Mutation → List String
  | .delete _ ids => ids
  | .setEnabled _ ids _ => ids
  | .update _ _ id _ => [id]
  | .create .. => []
  | .publish _ topic _ _ => [topic]

end Mutation

/-- Remote services over a state, which also knows whether the run has been cancelled. -/
structure ControlPlane (σ : Type) where
  /-- One page of the records of a type, from a cursor on. -/
  listPage : ResourceType → Option String → StateM σ (Except RemoteError Page)
  perform : Mutation → StateM σ (Except RemoteError Json)
  cancelled : σ → Bool

/-- The control plane of services that hold no records. -/
def ControlPlane.vacant : ControlPlane σ :=
  {
    listPage := fun _ _ => pure (.ok ⟨[], none⟩),
    perform := fun _ => pure (.ok .null),
    cancelled := fun _ => false
  }

end Remediation
