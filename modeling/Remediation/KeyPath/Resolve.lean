import Remediation.KeyPath.Basic

/-!
What a key path reaches in a record. A projection follows the rest of the path from every
element and drops those that reach nothing or null, so that projecting never fails on an array.
-/

namespace Remediation

/-- Whether a value counts as true: neither null nor false, and not empty. Every number does. -/
def Json.truthy : Json → Bool
  | .null => false
  | .bool b => b
  | .number _ => true
  | .string s => !s.isEmpty
  | .array items => !items.isEmpty
  | .object fields => !fields.isEmpty

namespace Step

/-- The element at an index; a negative one counts from the end. -/
def element? (items : List Json) (position : Int) : Option Json :=
  if 0 ≤ position then items[position.toNat]?
  else if position.natAbs ≤ items.length then items[items.length - position.natAbs]?
  else none

/-- The elements of an array with those of inner arrays in their place. -/
def flattened (items : List Json) : List Json :=
  items.flatMap (fun
    | .array inner => inner
    | item => [item])

/-- The array of what a function finds from each element, without nulls. -/
def projected (follow : Json → Option Json) (items : List Json) : Json :=
  .array ((items.filterMap follow).filter (!·.isNull))

mutual

/-- What the steps reach from a value; none where the path does not exist. -/
def resolve : List Step → Json → Option Json
  | [], value => some value
  | .field name :: rest, value => do
      let fields ← value.fields?
      let next ← Table.get? fields name
      resolve rest next
  | .index position :: rest, value => do
      let items ← value.items?
      let next ← element? items position
      resolve rest next
  | .project :: rest, value => do
      let items ← value.items?
      some (projected (resolve rest) items)
  | .flatten :: rest, value => do
      let items ← value.items?
      some (projected (resolve rest) (flattened items))
  | .select path test :: rest, value => do
      let items ← value.items?
      some (projected (resolve rest) (items.filter (keeps path test)))

/-- Whether a selector keeps an element. -/
def keeps : List Step → Option (Comparison × Json) → Json → Bool
  | path, none, element =>
      match resolve path element with
      | some found => found.truthy
      | none => false
  | path, some (comparison, expected), element =>
      match resolve path element with
      | some found => comparison.holds found expected
      | none => false

end

end Step

namespace KeyPath

def resolve (path : KeyPath) (value : Json) : Option Json :=
  Step.resolve path.steps value

/-- What a path reaches, where null counts as nothing. -/
def find? (path : KeyPath) (value : Json) : Option Json :=
  match path.resolve value with
  | some .null | none => none
  | some found => some found

end KeyPath

end Remediation
