import Remediation.ControlPlane.Basic
import Remediation.Json.Printer
import Remediation.Settings.Basic
import Remediation.Url.Reader

/-!
The gateway to the services: where each of them is found, and the URL of every call.
-/

namespace Remediation

/-- How one project in one region reaches the services. -/
structure Gateway where
  credentials : Credentials
  project : String
  region : String
  /-- The endpoints of services that have one of their own, without slashes at the end. -/
  endpoints : Table String := []
  /-- The endpoint of all other services, if it is not the usual one of each. -/
  defaultEndpoint : Option String := none
  deriving DecidableEq, Repr

namespace Gateway

/-- An endpoint without the slashes at its end. -/
def trimEndpoint (endpoint : String) : String :=
  String.ofList ((endpoint.toList.reverse.dropWhile (· == '/')).reverse)

/-- Gives a service an endpoint of its own. -/
def withEndpoint (gateway : Gateway) (service endpoint : String) : Gateway :=
  {
    gateway with
    endpoints := Table.insert service (trimEndpoint endpoint) gateway.endpoints
  }

/-- Gives every service without an endpoint of its own the same one. -/
def withDefaultEndpoint (gateway : Gateway) (endpoint : String) : Gateway :=
  { gateway with defaultEndpoint := some (trimEndpoint endpoint) }

/-- The URL of a service: its own endpoint, else the common one, else the usual one. -/
def serviceUrl (gateway : Gateway) (service : String) : String :=
  ((Table.get? gateway.endpoints service).or gateway.defaultEndpoint).getD
    s!"https://{service}.{gateway.region}.myhuaweicloud.com"

/-- The URL of a path of the project under the service of a resource type. -/
def resourceUrl (gateway : Gateway) (resource : ResourceType) (path : String) : String :=
  let inner := String.ofList (path.toList.dropWhile (· == '/'))
  s!"{gateway.serviceUrl resource.service}/{resource.apiVersion}/{gateway.project}/{inner}"

/-- Puts an identity wherever a path has `\x7bid\x7d`. -/
def fillId (id : List Char) : List Char → List Char
  | '\x7b' :: 'i' :: 'd' :: '\x7d' :: rest => id ++ fillId id rest
  | c :: rest => c :: fillId id rest
  | [] => []

/-- The path of an operation, on the record with an identity if one is given. -/
def operationPath (operation : Operation) (id : Option String) : String :=
  match id with
  | some id =>
      let escaped := Url.percentEncode Url.isUnreserved id.toList
      String.ofList (fillId escaped operation.path.toList)
  | none => operation.path

/-- The URL of an operation. -/
def operationUrl (gateway : Gateway) (resource : ResourceType) (operation : Operation)
    (id : Option String) : String :=
  gateway.resourceUrl resource (operationPath operation id)

/-! ### Lists -/

/-- A value in a query: strings as they are, others as JSON. -/
def queryValue : Json → String
  | .string s => s
  | value => value.text

/-- The names and values that a resource type sends with every request for a list. A name with
several values is repeated, one with null is left out. -/
def fixedQuery (params : Json) : List (String × String) :=
  (params.fields?.getD []).flatMap (fun (name, value) =>
    match value with
    | .array values => values.map (fun value => (name, queryValue value))
    | .null => []
    | value => [(name, queryValue value)])

/-- The names and values that ask for the page of a cursor. -/
def pageQuery (pagination : Pagination) (cursor : Option String) : List (String × String) :=
  match pagination with
  | .single => []
  | .offset limit _ parameter =>
      [("limit", toString limit), (parameter, cursor.getD "0")]
  | .marker limit _ parameter =>
      ("limit", toString limit) :: (cursor.map (fun marker => (parameter, marker))).toList

/-- The URL of the page of a cursor. -/
def listUrl (gateway : Gateway) (resource : ResourceType) (cursor : Option String)
    : Except UrlError Url := do
  let url ← Url.parse (gateway.resourceUrl resource resource.listPath)
  .ok (url.addQuery (fixedQuery resource.params ++ pageQuery resource.pagination cursor))

end Gateway

end Remediation
