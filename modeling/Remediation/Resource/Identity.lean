import Remediation.Json.Printer

/-!
The identity of a record: what tells it from the other records of its resource type.
-/

namespace Remediation

/-- The identity of a record under a field: a text that is not empty, or the text of a number. -/
def identity (record : Json) (idField : String) : Option String :=
  match record.field? idField with
  | some (.string s) => if s.isEmpty then none else some s
  | some (.number n) => some n.text
  | _ => none

/-- The identities of those records that have one. -/
def identities (records : List Json) (idField : String) : List String :=
  records.filterMap (identity · idField)

end Remediation
