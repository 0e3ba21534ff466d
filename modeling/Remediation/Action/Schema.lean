import Remediation.Json.Printer
import Remediation.Policy.Basic

/-!
What parameters an action takes. A schema names the parameters, with the values that each may
have, and says which have to be there; a mapping is checked against it as a whole, and every
problem is reported.
-/

namespace Remediation

/-- A text of a fixed length, given by the range of every character. -/
structure CharPattern where
  ranges : List (Char × Char)
  deriving DecidableEq, Repr

namespace CharPattern

def matchesFrom : List (Char × Char) → List Char → Bool
  | [], [] => true
  | (least, greatest) :: ranges, c :: rest =>
      least ≤ c && c ≤ greatest && matchesFrom ranges rest
  | _, _ => false

def accepts (pattern : CharPattern) (text : String) : Bool :=
  matchesFrom pattern.ranges text.toList

/-- The pattern as a regular expression. -/
def source (pattern : CharPattern) : String :=
  let classes := pattern.ranges.map (fun (least, greatest) =>
    if least = greatest then String.singleton least
    else String.ofList ['[', least, '-', greatest, ']'])
  "^" ++ String.join classes ++ "$"

end CharPattern

/-- What a parameter may be. -/
inductive ParameterType where
  | boolean
  | integer
  | string (minLength : Option Nat) (pattern : Option CharPattern)
  | object
  | array (items : ParameterType)
  deriving Repr

/-- What parameters an action takes. -/
structure ParameterSchema where
  parameters : Table ParameterType
  required : List String
  deriving Repr

/-- What is wrong with the parameters of an action. The path of a problem leads to the value
that has it. -/
inductive ParameterProblem where
  | wrongType (path : List String) (found : Json) (type : String)
  | tooShort (path : List String) (found : Json) (least : Nat)
  | mismatch (path : List String) (found : Json) (pattern : CharPattern)
  /-- A parameter of an action that takes none. -/
  | notAllowed (found : Json)
  | unexpected (names : List String)
  | missing (name : String)
  deriving Repr

namespace ParameterProblem

/-- The text of a problem behind the place where it is. -/
def located (path : List String) (text : String) : String :=
  String.join (path.map ("/" ++ ·)) ++ ": " ++ text

def message : ParameterProblem → String
  | .wrongType path found type =>
      located path (found.text ++ " is not of type \"" ++ type ++ "\"")
  | .tooShort path found least =>
      let unit := if least = 1 then "character" else "characters"
      located path (found.text ++ s!" is shorter than {least} {unit}")
  | .mismatch path found pattern =>
      located path (found.text ++ " does not match \"" ++ pattern.source ++ "\"")
  | .notAllowed found => "False schema does not allow " ++ found.text
  | .unexpected names =>
      let listed := ", ".intercalate (names.map (fun name => "'" ++ name ++ "'"))
      let verb := if names.length = 1 then "was" else "were"
      s!"Additional properties are not allowed ({listed} {verb} unexpected)"
  | .missing name => Json.quote name ++ " is a required property"

end ParameterProblem

namespace ParameterType

def name : ParameterType → String
  | .boolean => "boolean"
  | .integer => "integer"
  | .string .. => "string"
  | .object => "object"
  | .array _ => "array"

/-- The problems of a text. -/
def textProblems (minLength : Option Nat) (pattern : Option CharPattern) (path : List String)
    (text : String) : List ParameterProblem :=
  (match minLength with
    | some least => if text.length < least then [.tooShort path (.string text) least] else []
    | none => [])
  ++ match pattern with
    | some pattern =>
        if pattern.accepts text then [] else [.mismatch path (.string text) pattern]
    | none => []

mutual

/-- The problems of a value at a path. A double without a fraction counts as an integer. -/
def problems : ParameterType → List String → Json → List ParameterProblem
  | .boolean, _, .bool _ => []
  | .integer, _, .number (.int _) => []
  | .integer, path, .number (.float x) =>
      if x.isIntegral then [] else [.wrongType path (.number (.float x)) "integer"]
  | .string minLength pattern, path, .string text => textProblems minLength pattern path text
  | .object, _, .object _ => []
  | .array items, path, .array values => itemProblems items path 0 values
  | type, path, found => [.wrongType path found type.name]

def itemProblems (items : ParameterType) (path : List String)
    : Nat → List Json → List ParameterProblem
  | _, [] => []
  | index, value :: rest =>
      problems items (path ++ [toString index]) value
        ++ itemProblems items path (index + 1) rest

end

/-- The type as a schema in JSON. -/
def toJson : ParameterType → Json
  | .array items => .ofFields [("type", .string "array"), ("items", items.toJson)]
  | .string minLength pattern =>
      let length := minLength.map (fun least => ("minLength", Json.ofNat least))
      let pattern := pattern.map (fun pattern => ("pattern", Json.string pattern.source))
      .ofFields (("type", .string "string") :: length.toList ++ pattern.toList)
  | type => .ofFields [("type", .string type.name)]

end ParameterType

namespace ParameterSchema

/-- The schema of an action without parameters. -/
def none : ParameterSchema := ⟨[], []⟩

/-- The problems of parameters. -/
def problems (schema : ParameterSchema) (params : Fields) : List ParameterProblem :=
  if schema.parameters.isEmpty then
    match params with
    | [] => []
    | (_, value) :: _ => [.notAllowed value]
  else
    let known := params.flatMap (fun (name, value) =>
      match Table.get? schema.parameters name with
      | some type => type.problems [name] value
      | Option.none => [])
    let unexpected :=
      (params.filter (fun (name, _) => !Table.contains schema.parameters name)).map Prod.fst
    known
      ++ (if unexpected.isEmpty then [] else [.unexpected unexpected])
      ++ (schema.required.filter (fun name => !Table.contains params name)).map .missing

/-- The schema in JSON, which says of parameters and of required ones only that there are some. -/
def toJson (schema : ParameterSchema) : Json :=
  let properties := schema.parameters.map (fun (name, type) => (name, type.toJson))
  .ofFields
    ([("type", .string "object"), ("additionalProperties", .bool false)]
      ++ (if properties.isEmpty then [] else [("properties", .object properties)])
      ++ if schema.required.isEmpty then [] else [("required", .strings schema.required)])

end ParameterSchema

/-- Parameters that an action does not take. -/
structure SchemaError where
  action : String
  problems : List ParameterProblem
  deriving Repr

namespace SchemaError

/-- What is wrong with the parameters. -/
def message (error : SchemaError) : String :=
  "; ".intercalate (error.problems.map ParameterProblem.message)

/-- The whole text of the error. -/
def text (error : SchemaError) : String :=
  s!"invalid parameters for action '{error.action}': {error.message}"

end SchemaError

/-- Checks the parameters of an action. -/
def ActionSpec.check (spec : ActionSpec) (schema : ParameterSchema) : Except SchemaError Unit :=
  match schema.problems spec.params with
  | [] => .ok ()
  | problem :: rest => .error ⟨spec.name, problem :: rest⟩

end Remediation
