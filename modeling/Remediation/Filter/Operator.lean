import Remediation.Json.Basic
import Remediation.Text.Blank
import Remediation.Text.Lowercase

/-!
The operators of value filters, and the conversions that can be applied to a value before it is
compared.
-/

namespace Remediation

/-- How a value filter compares. -/
inductive Operator where
  | eq
  | ne
  | gt
  | ge
  | lt
  | le
  | isIn
  | notIn
  | contains
  | regex
  | absent
  | present
  | empty
  | notEmpty
  deriving DecidableEq, Repr

namespace Operator

/-- The name that messages and documents use. -/
def name : Operator → String
  | .eq => "eq"
  | .ne => "ne"
  | .gt => "gt"
  | .ge => "ge"
  | .lt => "lt"
  | .le => "le"
  | .isIn => "in"
  | .notIn => "not-in"
  | .contains => "contains"
  | .regex => "regex"
  | .absent => "absent"
  | .present => "present"
  | .empty => "empty"
  | .notEmpty => "not-empty"

/-- Every name of every operator, in lower case. -/
def names : List (String × Operator) :=
  [
    ("eq", .eq), ("equal", .eq),
    ("ne", .ne), ("not-equal", .ne),
    ("gt", .gt), ("greater-than", .gt),
    ("ge", .ge), ("gte", .ge),
    ("lt", .lt), ("less-than", .lt),
    ("le", .le), ("lte", .le),
    ("in", .isIn),
    ("ni", .notIn), ("not-in", .notIn),
    ("contains", .contains),
    ("regex", .regex),
    ("absent", .absent),
    ("present", .present), ("not-null", .present),
    ("empty", .empty),
    ("not-empty", .notEmpty)
  ]

/-- A name that no operator has, in lower case. -/
structure Unknown where
  name : String
  deriving DecidableEq, Repr

def Unknown.message (unknown : Unknown) : String :=
  s!"unknown operator '{unknown.name}'"

/-- The operator of a name, whose letters may be of either case. -/
def ofName (text : String) : Except Unknown Operator :=
  let lowered := lowercase text
  match names.lookup lowered with
  | some operator => .ok operator
  | none => .error ⟨lowered⟩

/-- Whether the operator compares with a value that has to be given. -/
def needsValue : Operator → Bool
  | .absent | .present | .empty | .notEmpty => false
  | _ => true

/-- The operator that a value means when it is given without one. -/
def impliedBy : Json → Operator
  | .string "absent" => .absent
  | .string "present" | .string "not-null" => .present
  | .string "empty" => .empty
  | _ => .eq

/-- Compares two counts. Operators that are no comparison never hold. -/
def comparesCounts (operator : Operator) (actual expected : Nat) : Bool :=
  match operator with
  | .eq => actual == expected
  | .ne => actual != expected
  | .gt => expected < actual
  | .ge => expected ≤ actual
  | .lt => actual < expected
  | .le => actual ≤ expected
  | _ => false

end Operator

/-- What a value is turned into before it is compared. -/
inductive Conversion where
  /-- The length of a string in characters, or the size of a collection. -/
  | size
  /-- A string in lower case without white space at its ends. -/
  | normalize
  deriving DecidableEq, Repr

namespace Conversion

def name : Conversion → String
  | .size => "size"
  | .normalize => "normalize"

/-- A name that no conversion has. -/
structure Unknown where
  name : String
  deriving DecidableEq, Repr

def Unknown.message (unknown : Unknown) : String :=
  s!"unknown value_type '{unknown.name}'"

def ofName (text : String) : Except Unknown Conversion :=
  match text with
  | "size" => .ok .size
  | "normalize" => .ok .normalize
  | other => .error ⟨other⟩

/-- The converted value; none if the value is of a type that the conversion is not for. -/
def converted? : Conversion → Json → Option Json
  | .size, .string s => some (.ofNat s.length)
  | .size, .array items => some (.ofNat items.length)
  | .size, .object fields => some (.ofNat fields.length)
  | .normalize, .string s => some (.string (lowercase (trimmed s)))
  | _, _ => none

end Conversion

end Remediation
