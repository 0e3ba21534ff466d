import Remediation.Document.Shape
import Remediation.Json.Reader
import Remediation.Resource.Basic

/-!
The resource types that are known, under their keys. Definitions are read from JSON texts; a text
that cannot be read changes nothing, and of definitions with one key the last one counts.
-/

namespace Remediation

open Document

namespace Pagination

/-- What a list with pages has besides its style. -/
structure Paging where
  limit : Nat
  field : Option String
  parameter : String

/-- Takes a field of a style with pages, whose own field has a name. -/
def Paging.take (ownField : String) (paging : Paging) (field : String) (node : Node)
    : Shaped Empty Paging :=
  if field = "limit" then do
    let limit ← count .jsonText node
    .ok { paging with limit := limit }
  else if field = ownField then do
    let field ← optional (text .jsonText) node
    .ok { paging with field := field }
  else do
    let parameter ← text .jsonText node
    .ok { paging with parameter := parameter }

/-- The fields of a style with pages, by the names of its own field and of its parameter. -/
def Paging.ofUntagged (variant ownField parameterField parameter : String) (rest : Untagged)
    : Shaped Empty Paging :=
  untaggedRecord .jsonText ("Pagination::" ++ variant)
    [
      { name := "limit", hasDefault := true },
      { name := ownField, hasDefault := true },
      { name := parameterField, hasDefault := true }
    ]
    (Paging.take ownField) ⟨100, none, parameter⟩ rest

/-- A way of paging, told by its style. -/
def ofNode (node : Node) : Shaped Empty Pagination := do
  let (style, rest) ← tagged .jsonText "Pagination" "style" ["none", "offset", "marker"] node
  match style, rest with
  | "offset", rest => do
      let paging ← Paging.ofUntagged "Offset" "total_field" "offset_param" "offset" rest
      .ok (.offset paging.limit paging.field paging.parameter)
  | "marker", rest => do
      let paging ← Paging.ofUntagged "Marker" "next_field" "marker_param" "marker" rest
      .ok (.marker paging.limit paging.field paging.parameter)
  | _, .items (item :: items) =>
      .error (.invalidLength (item :: items).length (elementCount 0 ++ " in sequence"))
  | _, _ => .ok .single

end Pagination

namespace Operation

def fieldSpecs : List FieldSpec :=
  [
    { name := "method" },
    { name := "path" },
    { name := "ids_field", hasDefault := true },
    { name := "flag_field", hasDefault := true }
  ]

def take (operation : Operation) (field : String) (node : Node) : Shaped Empty Operation :=
  match field with
  | "method" => do
      let method ← text .jsonText node
      .ok { operation with method := method }
  | "path" => do
      let path ← text .jsonText node
      .ok { operation with path := path }
  | "ids_field" => do
      let idsField ← optional (text .jsonText) node
      .ok { operation with idsField := idsField }
  | _ => do
      let flagField ← optional (text .jsonText) node
      .ok { operation with flagField := flagField }

def ofNode (node : Node) : Shaped Empty Operation :=
  record .jsonText "OperationDef" fieldSpecs take ⟨"", "", none, none⟩ node

end Operation

namespace ResourceType

def fieldSpecs : List FieldSpec :=
  [
    { name := "display_name" },
    { name := "service" },
    { name := "api_version", hasDefault := true },
    { name := "list_path" },
    { name := "response_path", hasDefault := true },
    { name := "id_field" },
    { name := "name_field" },
    { name := "pagination", hasDefault := true },
    { name := "params", hasDefault := true },
    { name := "operations", hasDefault := true }
  ]

/-- A definition before anything is said of it. -/
def blank : ResourceType :=
  {
    key := "",
    displayName := "",
    service := "",
    apiVersion := "v1",
    listPath := "",
    responsePath := "",
    idField := "",
    nameField := "",
    pagination := .single,
    params := .null,
    operations := []
  }

def take (resource : ResourceType) (field : String) (node : Node) : Shaped Empty ResourceType :=
  match field with
  | "pagination" => do
      let pagination ← Pagination.ofNode node
      .ok { resource with pagination := pagination }
  | "params" => do
      let params ← value .jsonText node
      .ok { resource with params := params }
  | "operations" => do
      let operations ← table .jsonText Operation.ofNode node
      .ok { resource with operations := operations }
  | field => do
      let text ← text .jsonText node
      match field with
      | "display_name" => .ok { resource with displayName := text }
      | "service" => .ok { resource with service := text }
      | "api_version" => .ok { resource with apiVersion := text }
      | "list_path" => .ok { resource with listPath := text }
      | "response_path" => .ok { resource with responsePath := text }
      | "id_field" => .ok { resource with idField := text }
      | _ => .ok { resource with nameField := text }

/-- A definition, without its key. -/
def ofNode (node : Node) : Shaped Empty ResourceType :=
  record .jsonText "ResourceDef" fieldSpecs take blank node

end ResourceType

/-- Why a text has no resource definitions. -/
inductive DefinitionsError where
  | malformed
  | shape (cause : ShapeError Empty)

namespace DefinitionsError

def message : String := "Failed to parse resource definitions"

/-- What is wrong with the text, without where. -/
def cause : DefinitionsError → String
  | .malformed => "syntax"
  | .shape cause => cause.message Empty.elim

end DefinitionsError

/-- The resource types that are known, under their keys. -/
structure ResourceRegistry where
  types : Table ResourceType
  deriving Repr

namespace ResourceRegistry

def empty : ResourceRegistry := ⟨[]⟩

/-- What may stand in front of the name of a resource type. -/
def providerPrefix : String := "huaweicloud."

/-- A name without the provider in front of it. -/
def shortName (name : String) : String :=
  if providerPrefix.toList.isPrefixOf name.toList then
    String.ofList (name.toList.drop providerPrefix.length)
  else name

/-- The resource type of a name. -/
def get? (registry : ResourceRegistry) (name : String) : Option ResourceType :=
  Table.get? registry.types (shortName name)

/-- The keys of all resource types, in ascending order. -/
def keys (registry : ResourceRegistry) : List String :=
  Table.keys registry.types

/-- The registry with more definitions, each of which gets its key. -/
def extend (registry : ResourceRegistry) (definitions : Table ResourceType) : ResourceRegistry :=
  ⟨Table.insertAll registry.types
    (definitions.map (fun (key, resource) => (key, { resource with key := key })))⟩

/-- The definitions in a document. -/
def readDefinitions (document : Json) : Shaped Empty (Table ResourceType) :=
  record .jsonText "ResourceFile" [{ name := "resources", hasDefault := true }]
    (fun _ _ node => table .jsonText ResourceType.ofNode node) [] (.json document)

/-- The definitions in a JSON text. -/
def parseDefinitions (source : String) : Except DefinitionsError (Table ResourceType) :=
  match Json.readMembers source with
  | none => .error .malformed
  | some document =>
      match readDefinitions document with
      | .ok definitions => .ok definitions
      | .error cause => .error (if document.isFinite then .shape cause else .malformed)

/-- The registry with the definitions of a JSON text. -/
def extendFromText (registry : ResourceRegistry) (source : String)
    : Except DefinitionsError ResourceRegistry :=
  (parseDefinitions source).map registry.extend

/-- The resource types that come with the program. -/
def builtin : ResourceRegistry :=
  ⟨.ofList [("alarm", .alarm), ("topic", .topic)]⟩

end ResourceRegistry

end Remediation
