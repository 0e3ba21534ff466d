import Remediation.Document.Shape
import Remediation.Policy.Basic

/-!
Reading policies, filters and actions from the parts of a document. A filter is read from a JSON
value, and the policy inside a filter for what is missing as a record from such a value; the
depth of the value bounds how deep the two can be nested.
-/

namespace Remediation

open Document

/-- Why a part of a policy cannot be read. -/
inductive ReadingError where
  | filterNotMapping (found : Json)
  | notListOfFilters
  | noValueKey
  | noListItemKey
  | unknownOperator (error : Operator.Unknown)
  | operatorNotText (found : Json)
  | noValue (operator : Operator) (key : String)
  | unknownConversion (error : Conversion.Unknown)
  | conversionNotText (found : Json)
  | missingInListItem
  | badCount
  | noPolicy
  | nestedPolicy (cause : ShapeError ReadingError)
  | notTexts (field : String)
  | unknownFilterType (name : String)
  | noTypeOrKey
  | actionWithoutType
  | actionNotMapping (found : Json)

mutual

def ReadingError.message : ReadingError → String
  | .filterNotMapping found => s!"filter must be a mapping, got {found.text}"
  | .notListOfFilters => "expected a list of filters"
  | .noValueKey => "value filter needs a string 'key'"
  | .noListItemKey => "list-item filter needs a string 'key'"
  | .unknownOperator error => error.message
  | .operatorNotText found => s!"'op' must be a string, got {found.text}"
  | .noValue operator key => s!"operator '{operator.name}' on '{key}' needs a 'value'"
  | .unknownConversion error => error.message
  | .conversionNotText found => s!"'value_type' must be a string, got {found.text}"
  | .missingInListItem => "missing filters cannot be nested inside list-item"
  | .badCount => "list-item 'count' must be a non-negative integer"
  | .noPolicy => "missing filter needs a 'policy'"
  | .nestedPolicy cause => "invalid nested policy: " ++ shapeMessage cause
  | .notTexts field => s!"'{field}' must be a list of strings"
  | .unknownFilterType name => s!"unknown filter type '{name}'"
  | .noTypeOrKey => "filter needs a 'type' or a 'key'"
  | .actionWithoutType => "action needs a string 'type'"
  | .actionNotMapping found => s!"action must be a name or a mapping, got {found.text}"

/-- The message of a fault in the shape of a policy. -/
def shapeMessage : ShapeError ReadingError → String
  | .domain error => error.message
  | .invalidType found expected => (ShapeError.invalidType found expected).message id
  | .invalidValue found expected => (ShapeError.invalidValue found expected).message id
  | .invalidLength length expected => (ShapeError.invalidLength length expected).message id
  | .missingField name => (ShapeError.missingField name).message id
  | .duplicateField name => (ShapeError.duplicateField name).message id
  | .unknownVariant name known => (ShapeError.unknownVariant name known).message id
  | .noVariant type => (ShapeError.noVariant type).message id
  | .trailingItems => ShapeError.trailingItems.message id
  | .outOfRange => ShapeError.outOfRange.message id

end

/-- A part of a policy, or why it cannot be read. -/
abbrev Read (α : Type) := Except ReadingError α

/-! ### Actions -/

namespace ActionSpec

/-- An action from its name alone, or from a mapping with its name as the type. -/
def ofJson : Json → Read ActionSpec
  | .string name => .ok ⟨name, []⟩
  | .object fields =>
      match Table.get? fields "type" with
      | some (.string name) => .ok ⟨name, Table.erase fields "type"⟩
      | _ => .error .actionWithoutType
  | found => .error (.actionNotMapping found)

/-- An action as one object again. -/
def toJson (spec : ActionSpec) : Json :=
  .object (Table.insert "type" (.string spec.name) spec.params)

end ActionSpec

/-! ### Limits -/

def LimitMode.name : LimitMode → String
  | .either => "or"
  | .both => "and"

/-- The mode of a name; also of a mapping from a name to null. -/
def LimitMode.ofNode (format : Format) (node : Node) : Shaped ReadingError LimitMode :=
  match node.view with
  | .string "or" => .ok .either
  | .string "and" => .ok .both
  | .string other => .error (.unknownVariant other ["or", "and"])
  | _ => .error (mismatch format "string or map" node)

/-- A pair of limits while it is read. -/
structure LimitPair where
  amount : Option Nat := none
  percent : Option Binary64 := none
  mode : LimitMode := .either

/-- Takes a field of a pair of limits. Numbers are taken as they stand for themselves. -/
def LimitPair.take (format : Format) (pair : LimitPair) (field : String) (node : Node)
    : Shaped ReadingError LimitPair :=
  match field with
  | "amount" =>
      match node.view with
      | .null => .ok { pair with amount := none }
      | .number (.int (.ofNat n)) => .ok { pair with amount := some n }
      | _ => .error (mismatch format "usize" node)
  | "percent" =>
      match node.view with
      | .null => .ok { pair with percent := none }
      | .number n => .ok { pair with percent := some n.toBinary64 }
      | _ => .error (mismatch format "f64" node)
  | _ => do
      let mode ← LimitMode.ofNode format node
      .ok { pair with mode := mode }

def LimitPair.fields : List FieldSpec :=
  [
    { name := "amount", hasDefault := true },
    { name := "percent", hasDefault := true },
    { name := "op", hasDefault := true }
  ]

mutual

/-- The fault that keeps a part from being looked at in more than one way, if there is one: a
tag of an application, or a number that has no room. -/
def unbuffered (format : Format) : Node → Option (ShapeError ReadingError)
  | .json v => if v.isFinite then none else some .outOfRange
  | .scalar s =>
      if s.hasLocalTag then some (.invalidType "enum" "any value")
      else
        match s.meaning with
        | .wideInt _ | .mistagged .. => some (mismatch format "any value" (.scalar s))
        | _ => none
  | .sequence localTag items =>
      if localTag then some (.invalidType "enum" "any value") else unbufferedItem format items
  | .mapping localTag entries =>
      if localTag then some (.invalidType "enum" "any value")
      else unbufferedEntry format entries

def unbufferedItem (format : Format) : List Node → Option (ShapeError ReadingError)
  | [] => none
  | node :: rest => unbuffered format node <|> unbufferedItem format rest

def unbufferedEntry (format : Format) : List (Node × Node) → Option (ShapeError ReadingError)
  | [] => none
  | (key, node) :: rest =>
      unbuffered format key <|> unbuffered format node <|> unbufferedEntry format rest

end

namespace MaxResources

/-- A plain amount, or a mapping with an amount and a percentage. -/
def ofNode (format : Format) (node : Node) : Shaped ReadingError MaxResources :=
  match unbuffered format node with
  | some fault => .error fault
  | none =>
      match node.view with
      | .number (.int (.ofNat n)) => .ok (.amount n)
      | .mapping entries =>
          match recordOfEntries format LimitPair.fields (LimitPair.take format) {} entries with
          | .ok pair => .ok (.limits pair.amount pair.percent pair.mode)
          | .error _ => .error (.noVariant "MaxResources")
      | _ => .error (.noVariant "MaxResources")

end MaxResources

/-! ### Policies -/

namespace Policy

def fieldSpecs : List FieldSpec :=
  [
    { name := "name", hasDefault := true },
    { name := "resource" },
    { name := "description", hasDefault := true },
    { name := "filters", hasDefault := true },
    { name := "actions", hasDefault := true },
    { name := "max-resources", aliases := ["max_resources"], hasDefault := true },
    { name := "max-resources-percent", aliases := ["max_resources_percent"], hasDefault := true }
  ]

/-- A policy before anything is said of it. -/
def blank : Policy :=
  {
    name := "",
    resource := "",
    description := none,
    filters := [],
    actions := [],
    maxResources := none,
    maxPercent := none
  }

/-- Turns a reader of JSON values into one of parts of a document. -/
def viaJson (format : Format) (read : Json → Read α) (node : Node) : Shaped ReadingError α := do
  let json ← value format node
  match read json with
  | .ok result => .ok result
  | .error error => .error (.domain error)

/-- Takes a field of a policy, with a reader for its filters. -/
def take (format : Format) (readFilter : Json → Read Filter) (policy : Policy) (field : String)
    (node : Node) : Shaped ReadingError Policy :=
  match field with
  | "name" => do
      let name ← text format node
      .ok { policy with name := name }
  | "resource" => do
      let resource ← text format node
      .ok { policy with resource := resource }
  | "description" => do
      let description ← optional (text format) node
      .ok { policy with description := description }
  | "filters" => do
      let filters ← list format (viaJson format readFilter) node
      .ok { policy with filters := filters }
  | "actions" => do
      let actions ← list format (viaJson format ActionSpec.ofJson) node
      .ok { policy with actions := actions }
  | "max-resources" => do
      let limit ← optional (MaxResources.ofNode format) node
      .ok { policy with maxResources := limit }
  | _ => do
      let percent ← optional (double format) node
      .ok { policy with maxPercent := percent }

/-- A policy from a part of a document, with a reader for its filters. -/
def ofNodeWith (format : Format) (readFilter : Json → Read Filter) (node : Node)
    : Shaped ReadingError Policy :=
  record format "PolicySpec" fieldSpecs (take format readFilter) blank node

end Policy

/-! ### Filters -/

namespace Filter

/-- The names of the filters that are told by their type. -/
def typeNames : List String :=
  ["value", "list-item", "missing", "alarm-namespace-metric"]

/-- A value filter from its fields. -/
def readValue (fields : Fields) : Read ValueFilter := do
  let key ←
    match Table.get? fields "key" with
    | some (.string key) => .ok key
    | _ => .error .noValueKey
  let value := Table.get? fields "value"
  let operator ←
    match Table.get? fields "op" with
    | some (.string name) =>
        match Operator.ofName name with
        | .ok operator => .ok operator
        | .error error => .error (.unknownOperator error)
    | some other => .error (.operatorNotText other)
    | none => .ok (value.elim .present Operator.impliedBy)
  if operator.needsValue && value.isNone then .error (.noValue operator key)
  else
    let conversion ←
      match Table.get? fields "value_type" with
      | some (.string name) =>
          match Conversion.ofName name with
          | .ok conversion => .ok (some conversion)
          | .error error => .error (.unknownConversion error)
      | some other => .error (.conversionNotText other)
      | none => .ok none
    .ok ⟨key, operator, value, conversion⟩

/-- A list of filters, with a reader for each. -/
def readList (read : Json → Read Filter) : Json → Read (List Filter)
  | .array items => items.mapM read
  | _ => .error .notListOfFilters

/-- A filter on the elements of a list from its fields, with a reader for its attributes. -/
def readListItem (read : Json → Read Filter) (fields : Fields) : Read Filter := do
  let key ←
    match Table.get? fields "key" with
    | some (.string key) => .ok key
    | _ => .error .noListItemKey
  let attributes ←
    match Table.get? fields "attrs" with
    | some attributes => readList read attributes
    | none => .ok []
  if attributes.any (fun filter => !filter.missingPolicies.isEmpty) then
    .error .missingInListItem
  else
    let count ←
      match Table.get? fields "count" with
      | some count =>
          match count.nat? with
          | none => .error .badCount
          | some count =>
              match Table.get? fields "count_op" with
              | some (.string name) =>
                  match Operator.ofName name with
                  | .ok operator => .ok (some (operator, count))
                  | .error error => .error (.unknownOperator error)
              | _ => .ok (some (.eq, count))
      | none => .ok none
    .ok (.listItem key attributes count)

/-- A field that is a list of texts. -/
def readTexts (fields : Fields) (field : String) : Read (List String) :=
  match Table.get? fields field with
  | some (.array items) =>
      items.mapM (fun
        | .string s => .ok s
        | _ => .error (.notTexts field))
  | _ => .error (.notTexts field)

/-- What a field alone in a mapping says: how filters are joined, what the mapping is, or the
value that the field has to have. -/
inductive Single where
  | joined (filter : Filter)
  | mapping

/-- Reads a mapping with one field. -/
def readSingle (read : Json → Read Filter) (key : String) (inner : Json) : Read Single :=
  match key with
  | "and" => (readList read inner).map (fun filters => .joined (.all filters))
  | "or" => (readList read inner).map (fun filters => .joined (.any filters))
  | "not" =>
      match inner with
      | .array _ =>
          (readList read inner).map (fun
            | [filter] => .joined (.negation filter)
            | filters => .joined (.negation (.all filters)))
      | other => (read other).map (fun filter => .joined (.negation filter))
  | "key" => .ok .mapping
  | field =>
      if field = "type" ∧ (inner.string?.elim false typeNames.contains) then .ok .mapping
      else .ok (.joined (.value ⟨field, Operator.impliedBy inner, some inner, none⟩))

/-- Reads a mapping by its type; without one it is a value filter if it has a key. -/
def readByType (read : Json → Read Filter) (fields : Fields) : Read Filter :=
  match (Table.get? fields "type").bind Json.string? with
  | some "value" => (readValue fields).map .value
  | some "list-item" => readListItem read fields
  | some "missing" =>
      match Table.get? fields "policy" with
      | none => .error .noPolicy
      | some policy =>
          match Policy.ofNodeWith .jsonValue read (.json policy) with
          | .ok policy => .ok (.missing policy)
          | .error cause => .error (.nestedPolicy cause)
  | some "alarm-namespace-metric" => do
      let namespaces ← readTexts fields "namespaces"
      let metricNames ← readTexts fields "metric_names"
      .ok (.namespaceMetric namespaces metricNames)
  | some other => .error (.unknownFilterType other)
  | none =>
      if Table.contains fields "key" then (readValue fields).map .value
      else .error .noTypeOrKey

/-- Reads a filter from a value that is nested less deep than the first argument. -/
def readTo : Nat → Json → Read Filter
  | 0, found => .error (.filterNotMapping found)
  | fuel + 1, .object fields =>
      match fields with
      | [(key, inner)] => do
          let single ← readSingle (readTo fuel) key inner
          match single with
          | .joined filter => .ok filter
          | .mapping => readByType (readTo fuel) fields
      | fields => readByType (readTo fuel) fields
  | _ + 1, found => .error (.filterNotMapping found)

/-- A filter from its form in a document. -/
def ofJson (json : Json) : Read Filter :=
  readTo (json.depth + 1) json

end Filter

/-- A policy from a part of a document. -/
def Policy.ofNode (format : Format) (node : Node) : Shaped ReadingError Policy :=
  Policy.ofNodeWith format Filter.ofJson node

end Remediation
