import Remediation.Number.Binary64
import Remediation.Table

/-!
JSON values. A number keeps whether it was written as an integer or as a fraction, for the two
are told apart inside arrays and objects. The fields of an object are a list; a canonical value
has them in ascending order of their keys, and readers hand out canonical values.
-/

namespace Remediation

/-- A JSON number: an integer of 64 bits, signed or unsigned, or a double. -/
inductive Number where
  | int (value : Int)
  | float (value : Binary64)
  deriving DecidableEq, Repr

namespace Number

/-- The double that stands for a number when numbers are compared by value. -/
def toBinary64 : Number → Binary64
  | .int value => .ofInt value
  | .float value => value

/-- Equality inside structures: an integer never equals a double. -/
def same : Number → Number → Bool
  | .int a, .int b => a == b
  | .float a, .float b => a.equal b
  | _, _ => false

/-- The value of a number written as a non-negative integer. -/
def toNat? : Number → Option Nat
  | .int (.ofNat n) => some n
  | _ => none

end Number

/-- A JSON value. -/
inductive Json where
  | null
  | bool (value : Bool)
  | number (value : Number)
  | string (value : String)
  | array (items : List Json)
  | object (fields : List (String × Json))
  deriving Inhabited, Repr

/-- The fields of an object. -/
abbrev Fields := Table Json

namespace Json

def ofNat (n : Nat) : Json := .number (.int n)

def ofInt (n : Int) : Json := .number (.int n)

/-- A double as a JSON value; what is not finite has no number in JSON and is null. -/
def ofBinary64 (x : Binary64) : Json :=
  if x.isFinite then .number (.float x) else .null

def ofOption (f : α → Json) : Option α → Json
  | none => .null
  | some a => f a

def strings (texts : List String) : Json :=
  .array (texts.map .string)

/-- The object with the given fields, in ascending order of their keys. -/
def ofFields (fields : List (String × Json)) : Json :=
  .object (Table.ofList fields)

def field? : Json → String → Option Json
  | .object fields, key => Table.get? fields key
  | _, _ => none

def string? : Json → Option String
  | .string s => some s
  | _ => none

def items? : Json → Option (List Json)
  | .array items => some items
  | _ => none

def fields? : Json → Option Fields
  | .object fields => some fields
  | _ => none

def bool? : Json → Option Bool
  | .bool b => some b
  | _ => none

def nat? : Json → Option Nat
  | .number n => n.toNat?
  | _ => none

def isNull : Json → Bool
  | .null => true
  | _ => false

/-- The name of a value's type, as messages give it. -/
def typeName : Json → String
  | .null => "null"
  | .bool _ => "boolean"
  | .number _ => "number"
  | .string _ => "string"
  | .array _ => "array"
  | .object _ => "object"

mutual

/-- Whether every number in a value is finite, as those of a value that was read are. -/
def isFinite : Json → Bool
  | .number (.float x) => x.isFinite
  | .array items => itemsFinite items
  | .object fields => fieldsFinite fields
  | _ => true

def itemsFinite : List Json → Bool
  | [] => true
  | item :: rest => isFinite item && itemsFinite rest

def fieldsFinite : List (String × Json) → Bool
  | [] => true
  | (_, value) :: rest => isFinite value && fieldsFinite rest

end

mutual

/-- Structural equality. Integers and doubles differ, and the two zeros are one double. -/
def same : Json → Json → Bool
  | .null, .null => true
  | .bool a, .bool b => a == b
  | .number a, .number b => a.same b
  | .string a, .string b => a == b
  | .array as, .array bs => sameItems as bs
  | .object as, .object bs => sameFields as bs
  | _, _ => false

def sameItems : List Json → List Json → Bool
  | [], [] => true
  | a :: as, b :: bs => same a b && sameItems as bs
  | _, _ => false

def sameFields : List (String × Json) → List (String × Json) → Bool
  | [], [] => true
  | (k, a) :: as, (l, b) :: bs => k == l && same a b && sameFields as bs
  | _, _ => false

end

mutual

/-- How deep arrays and objects are nested in a value. -/
def depth : Json → Nat
  | .array items => itemsDepth items + 1
  | .object fields => fieldsDepth fields + 1
  | _ => 0

def itemsDepth : List Json → Nat
  | [] => 0
  | item :: rest => max (depth item) (itemsDepth rest)

def fieldsDepth : List (String × Json) → Nat
  | [] => 0
  | (_, value) :: rest => max (depth value) (fieldsDepth rest)

end

mutual

/-- Puts the fields of every object into ascending order; of fields with one key the last one
is kept. -/
def canonical : Json → Json
  | .array items => .array (canonicalItems items)
  | .object fields => .object (canonicalFields fields [])
  | json => json

def canonicalItems : List Json → List Json
  | [] => []
  | item :: rest => canonical item :: canonicalItems rest

def canonicalFields : List (String × Json) → Fields → Fields
  | [], done => done
  | (key, value) :: rest, done =>
      canonicalFields rest (Table.insert key (canonical value) done)

end

end Json

end Remediation
