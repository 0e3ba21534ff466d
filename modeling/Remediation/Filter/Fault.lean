import Remediation.Json.Printer
import Remediation.KeyPath.Basic
import Remediation.Regex.Compile

/-!
Why a value filter cannot be evaluated on a record. Evaluation never fails: a filter with a fault
does not match.
-/

namespace Remediation

/-- Why an expected value is no pattern. -/
inductive PatternFault where
  | notText
  | rejected (rejection : Regex.Rejection)
  deriving DecidableEq, Repr

def PatternFault.message : PatternFault → String
  | .notText => "pattern must be a string"
  | .rejected rejection => rejection.message

/-- Why a value filter has no answer for a record. -/
inductive Fault where
  | malformedPath (malformed : MalformedPath)
  | unordered (values : Unordered)
  /-- An operation on a value of a type that it is not for. -/
  | badOperand (operation found : String)
  | invalidPattern (pattern : String) (fault : PatternFault)
  deriving DecidableEq, Repr

def Fault.message : Fault → String
  | .malformedPath malformed => malformed.message
  | .unordered values => s!"cannot compare {values.actual} with {values.expected}"
  | .badOperand operation found => s!"operator '{operation}' cannot use a {found} value"
  | .invalidPattern pattern fault => s!"invalid regex '{pattern}': {fault.message}"

end Remediation
