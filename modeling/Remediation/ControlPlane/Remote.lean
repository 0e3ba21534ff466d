import Remediation.ControlPlane.Gateway
import Remediation.ControlPlane.Paging
import Remediation.Http.Basic
import Remediation.Http.Excerpt
import Remediation.Http.Status
import Remediation.Json.Reader

/-!
The control plane behind a gateway: every call becomes a request to a service, and what the service
answers becomes the result of the call. An answer that reports a failure leaves an incident behind
for the log.
-/

namespace Remediation

/-- An answer of a service that reports a failure. -/
structure Incident where
  status : Nat
  excerpt : String
  deriving DecidableEq, Repr

def Incident.message (incident : Incident) : String :=
  s!"API error: {Http.statusText incident.status} - {incident.excerpt}"

/-- A network with what has happened on it. -/
structure Session (σ : Type) where
  network : σ
  /-- The failures that services have reported, the latest first. -/
  incidents : List Incident := []
  cancelled : Bool := false

namespace Gateway

variable {σ : Type}

/-- Who asks for what, as errors name it. -/
structure CallSite where
  service : String
  operation : String

def CallSite.error (site : CallSite) (kind : RemoteErrorKind) (message : String) : RemoteError :=
  ⟨site.service, site.operation, kind, message⟩

/-- What the answer to a request says. An answer without text says null. -/
def readResponse (site : CallSite) (response : Http.Response)
    : StateM (Session σ) (Except RemoteError Json) := do
  if !Http.isSuccess response.status then
    modify (fun session =>
      {
        session with
        incidents := ⟨response.status, Http.excerpt response.body⟩ :: session.incidents
      })
    let message := s!"API request failed: {Http.statusText response.status}"
    pure (.error (site.error (.http response.status) message))
  else if (trimmed response.body).isEmpty then pure (.ok .null)
  else
    match Json.read response.body with
    | some json => pure (.ok json)
    | none => pure (.error (site.error .decode "Failed to parse response JSON:"))

/-- Sends a request over the network of a session. -/
def exchange (transport : Http.Transport σ) (request : Http.Request)
    : StateM (Session σ) (Except Http.SendError Http.Response) := do
  let session ← get
  let (answer, network) := (Http.send transport request).run session.network
  set { session with network := network }
  pure answer

/-- Sends a request on behalf of the credentials and reads the answer. -/
def request (gateway : Gateway) (transport : Http.Transport σ) (site : CallSite)
    (method : String) (url : Url) (body : Option Json)
    : StateM (Session σ) (Except RemoteError Json) := do
  let token := gateway.credentials.token
  let token := if token.isEmpty then none else some token
  match ← exchange transport ⟨method, url, token, body⟩ with
  | .ok response => readResponse site response
  | .error error => pure (.error (site.error .transport error.message))

/-- Asks for the page of a cursor and answers what the service says. -/
def askForPage (gateway : Gateway) (transport : Http.Transport σ) (resource : ResourceType)
    (cursor : Option String) : StateM (Session σ) (Except RemoteError Json) :=
  let site : CallSite := ⟨resource.service, "list"⟩
  match gateway.listUrl resource cursor with
  | .error error => pure (.error (site.error .transport s!"Invalid URL: {error.message}"))
  | .ok url => gateway.request transport site "GET" url none

/-- The page that a service's answer holds. -/
def readPage (resource : ResourceType) (cursor : Option String) (response : Json)
    : Except RemoteError Page :=
  (Page.ofResponse resource response cursor).mapError (fun error =>
    CallSite.error ⟨resource.service, "list"⟩ .decode error.message)

/-- Asks for the page of a cursor. -/
def listPage (gateway : Gateway) (transport : Http.Transport σ) (resource : ResourceType)
    (cursor : Option String) : StateM (Session σ) (Except RemoteError Page) := do
  let answer ← gateway.askForPage transport resource cursor
  pure (answer.bind (readPage resource cursor))

/-- Makes the call of an operation. -/
def call (gateway : Gateway) (transport : Http.Transport σ) (resource : ResourceType)
    (operation : String) (id : Option String) (body : Json)
    : StateM (Session σ) (Except RemoteError Json) := do
  let site : CallSite := ⟨resource.service, operation⟩
  match resource.operation? operation with
  | none =>
      let message := s!"operation '{operation}' is not defined for this resource"
      pure (.error (site.error .unsupported message))
  | some route =>
      match Http.method? route.method with
      | none =>
          let message := s!"Unknown HTTP method: {route.method}"
          pure (.error (site.error .unsupported message))
      | some method =>
          match Url.parse (gateway.operationUrl resource route id) with
          | .ok url => gateway.request transport site method url (some body)
          | .error _ =>
              pure (.error (site.error .transport Http.SendError.unbuildable.message))

/-- The identity that is part of the path of a call, if there is one. -/
def pathId? : Mutation → Option String
  | .update _ _ id _ => some id
  | .publish _ topic _ _ => some topic
  | _ => none

/-- The name of a field of a call's body, which its route may change. -/
def fieldName (mutation : Mutation) (field : Operation → Option String) (usual : String)
    : String :=
  ((mutation.resource.operation? mutation.operation).bind field).getD usual

/-- What is sent with a call. -/
def bodyOf (mutation : Mutation) : Json :=
  let idsField := fieldName mutation Operation.idsField "ids"
  match mutation with
  | .delete _ ids => .ofFields [(idsField, .strings ids)]
  | .setEnabled _ ids enabled =>
      let flagField := fieldName mutation Operation.flagField "enabled"
      .ofFields [(idsField, .strings ids), (flagField, .bool enabled)]
  | .update _ _ _ body => body
  | .create _ body => body
  | .publish _ _ subject message =>
      .ofFields [("subject", .string subject), ("message", .string message)]

def perform (gateway : Gateway) (transport : Http.Transport σ) (mutation : Mutation)
    : StateM (Session σ) (Except RemoteError Json) :=
  gateway.call transport mutation.resource mutation.operation (pathId? mutation)
    (bodyOf mutation)

/-- The control plane behind a gateway. -/
def plane (gateway : Gateway) (transport : Http.Transport σ) : ControlPlane (Session σ) :=
  {
    listPage := gateway.listPage transport,
    perform := gateway.perform transport,
    cancelled := Session.cancelled
  }

end Gateway

end Remediation
