import Remediation.Json.Basic

/-!
How filters compare JSON values. Two numbers compare by value, as doubles; everything else is
equal only to its own like, and only numbers and strings have an order.
-/

namespace Remediation

/-- Two values that have no order, by the names of their types. -/
structure Unordered where
  actual : String
  expected : String
  deriving DecidableEq, Repr

namespace Json

/-- Equality in which two numbers compare by value. -/
def looseEq : Json → Json → Bool
  | .number a, .number b => a.toBinary64.equal b.toBinary64
  | a, b => a.same b

/-- The order of two numbers, or of two strings by their code points. -/
def order : Json → Json → Except Unordered Ordering
  | .number a, .number b =>
      match a.toBinary64.compare b.toBinary64 with
      | some ordering => .ok ordering
      | none => .error ⟨"number", "number"⟩
  | .string a, .string b => .ok (compare a b)
  | a, b => .error ⟨a.typeName, b.typeName⟩

end Json

end Remediation
