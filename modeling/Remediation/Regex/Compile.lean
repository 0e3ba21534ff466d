import Remediation.Regex.Matcher
import Remediation.Regex.Meaning
import Remediation.Regex.Reader
import Remediation.Regex.Size

/-!
Compiling patterns: a text is read, its meaning is worked out, and the size of the result is
held against the limit.
-/

namespace Remediation.Regex

/-- Why a text is not accepted as a pattern. -/
inductive Rejection where
  | malformed
  | tooLarge
  deriving DecidableEq, Repr

/-- The text of a rejection. Where in a malformed pattern the fault lies is not said. -/
def Rejection.message : Rejection → String
  | .malformed => "regex parse error:"
  | .tooLarge => s!"Compiled regex exceeds size limit of {sizeLimit} bytes."

/-- The expression of a pattern. -/
def compile (pattern : String) : Except Rejection Regex :=
  match (readTree pattern.toList).bind (meaning {}) with
  | none => .error .malformed
  | some (regex, _) => if sizeLimit < regex.size then .error .tooLarge else .ok regex

/-- The expression that matches a pattern from the start of a text. The pattern is put into a
group after an anchor, as text. -/
def compileAtStart (pattern : String) : Except Rejection Regex :=
  compile s!"^(?:{pattern})"

end Remediation.Regex
