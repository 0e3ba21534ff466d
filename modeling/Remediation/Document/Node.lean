import Remediation.Json.Printer
import Remediation.Text.Quoted
import Remediation.Yaml.Scalar

/-!
Documents before their parts have types. A node comes from JSON text, from a JSON value or from
YAML; the three agree in almost everything, and a `Format` says where they differ: in the word
for null and in what is said of a list that is too long.
-/

namespace Remediation.Document

/-- Where a node comes from. -/
inductive Format where
  | jsonText
  | jsonValue
  | yaml
  deriving DecidableEq, Repr

/-- A part of a document. The tags of YAML are kept only as far as they are an application's own,
which no part of a document may have. -/
inductive Node where
  | json (value : Json)
  | scalar (scalar : Yaml.Scalar)
  | sequence (localTag : Bool) (items : List Node)
  | mapping (localTag : Bool) (entries : List (Node × Node))
  deriving Inhabited

/-- What a node is when it is looked at as one value. -/
inductive View where
  | null
  | bool (value : Bool)
  | number (value : Number)
  | wideInt (value : Int)
  | string (text : String)
  | mistagged (text : String) (expected : String)
  | sequence (items : List Node)
  | mapping (entries : List (Node × Node))

namespace Node

def view : Node → View
  | .json .null => .null
  | .json (.bool b) => .bool b
  | .json (.number n) => .number n
  | .json (.string s) => .string s
  | .json (.array items) => .sequence (items.map .json)
  | .json (.object fields) =>
      .mapping (fields.map (fun (key, value) => (.json (.string key), .json value)))
  | .scalar s =>
      match s.meaning with
      | .null => .null
      | .bool b => .bool b
      | .int n => .number (.int n)
      | .wideInt n => .wideInt n
      | .float x => .number (.float x)
      | .string text => .string text
      | .mistagged text expected => .mistagged text expected
  | .sequence _ items => .sequence items
  | .mapping _ entries => .mapping entries

/-- Whether a node carries a tag of an application. -/
def hasLocalTag : Node → Bool
  | .scalar s => s.hasLocalTag
  | .sequence localTag _ | .mapping localTag _ => localTag
  | .json _ => false

/-- Whether a node is a plain scalar without text, which stands for an empty collection. -/
def isBlank : Node → Bool
  | .scalar s => s.text.isEmpty && s.style = .plain
  | _ => false

end Node

/-- Doubles in messages about YAML are never scientific. -/
def positionalLayout : Digits.Layout :=
  {
    leastPositional := -400,
    endPositional := 400,
    keepsFraction := true,
    plusInExponent := false
  }

/-- The text of a double in a message. -/
def doubleText (format : Format) (x : Binary64) : String :=
  if format = .yaml ∧ x.isFinite then x.render positionalLayout
  else if format = .yaml then x.render { positionalLayout with keepsFraction := false }
  else x.render Json.numberLayout

namespace View

/-- What a message says was found. -/
def found (format : Format) : View → String
  | .null => if format = .yaml then "unit value" else "null"
  | .bool b => s!"boolean `{b}`"
  | .number (.int n) => s!"integer `{n}`"
  | .number (.float x) => s!"floating point `{doubleText format x}`"
  | .wideInt n => s!"integer `{n}` as " ++ (if n < 0 then "i128" else "u128")
  | .string text | .mistagged text _ => s!"string {Text.shown text}"
  | .sequence _ => "sequence"
  | .mapping _ => "map"

end View

end Remediation.Document
