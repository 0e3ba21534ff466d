import Remediation.Filter.Fault
import Remediation.KeyPath.Reader
import Remediation.KeyPath.Resolve
import Remediation.Policy.Basic

/-!
Matching records with value filters. A filter is compiled once: its path and its pattern are
read, and what is wrong with them is kept, to come up when a record is matched.
-/

namespace Remediation

/-- A value filter with its path and pattern compiled. -/
structure ValueMatcher where
  path : Except MalformedPath KeyPath
  operator : Operator
  /-- The value to compare with, null if none is given. -/
  expected : Json
  conversion : Option Conversion
  /-- The compiled pattern, for the operator that needs one. -/
  pattern : Except Fault Regex

namespace ValueMatcher

/-- The expression of an expected value, which matches from the start of a text. -/
def compilePattern (expected : Json) : Except Fault Regex :=
  match expected with
  | .string pattern =>
      match Regex.compileAtStart pattern with
      | .ok regex => .ok regex
      | .error rejection => .error (.invalidPattern pattern (.rejected rejection))
  | other => .error (.invalidPattern other.text .notText)

def compile (filter : ValueFilter) : ValueMatcher :=
  let expected := filter.value.getD .null
  {
    path := KeyPath.parse filter.key,
    operator := filter.operator,
    expected := expected,
    conversion := filter.conversion,
    pattern := if filter.operator = .regex then compilePattern expected else .ok .empty
  }

/-- The value at the path, converted; none where there is nothing or null. -/
def resolved (matcher : ValueMatcher) (record : Json) : Except Fault (Option Json) :=
  match matcher.path with
  | .error malformed => .error (.malformedPath malformed)
  | .ok path =>
      match path.find? record, matcher.conversion with
      | none, _ => .ok none
      | some found, none => .ok (some found)
      | some found, some conversion =>
          match conversion.converted? found with
          | some value => .ok (some value)
          | none => .error (.badOperand conversion.name found.typeName)

/-- Whether two values are in an order that a test accepts. -/
def ordered (test : Ordering → Bool) (actual expected : Json) : Except Fault Bool :=
  match actual.order expected with
  | .ok ordering => .ok (test ordering)
  | .error values => .error (.unordered values)

/-- Whether a value is among those of an array. -/
def isMember (actual expected : Json) : Except Fault Bool :=
  match expected with
  | .array options => .ok (options.any (actual.looseEq ·))
  | other => .error (.badOperand "in" other.typeName)

/-- Whether one text stands somewhere in another. -/
def hasInfix (needle : List Char) : List Char → Bool
  | [] => needle.isEmpty
  | c :: rest => needle.isPrefixOf (c :: rest) || hasInfix needle rest

/-- Whether an array holds a value, a text another text, or an object a key. -/
def holds (actual expected : Json) : Except Fault Bool :=
  match actual, expected with
  | .array items, expected => .ok (items.any (·.looseEq expected))
  | .string text, .string needle => .ok (hasInfix needle.toList text.toList)
  | .object fields, .string key => .ok (Table.contains fields key)
  | actual, expected => .error (.unordered ⟨actual.typeName, expected.typeName⟩)

/-- Whether a text or a collection is empty; other values never are. -/
def isEmpty : Json → Bool
  | .string s => s.isEmpty
  | .array items => items.isEmpty
  | .object fields => fields.isEmpty
  | _ => false

/-- Whether the pattern matches a value, which has to be a text. -/
def matchesPattern (matcher : ValueMatcher) (actual : Json) : Except Fault Bool :=
  match matcher.pattern with
  | .error fault => .error fault
  | .ok regex =>
      match actual with
      | .string s => .ok (regex.isMatch s.toList)
      | other => .error (.badOperand "regex" other.typeName)

/-- Compares a value that is there. -/
def compare (matcher : ValueMatcher) (actual : Json) : Except Fault Bool :=
  match matcher.operator with
  | .eq => .ok (actual.looseEq matcher.expected)
  | .ne => .ok (!actual.looseEq matcher.expected)
  | .gt => ordered (· == .gt) actual matcher.expected
  | .ge => ordered (· != .lt) actual matcher.expected
  | .lt => ordered (· == .lt) actual matcher.expected
  | .le => ordered (· != .gt) actual matcher.expected
  | .isIn => isMember actual matcher.expected
  | .notIn => (isMember actual matcher.expected).map (!·)
  | .contains => holds actual matcher.expected
  | .regex => matcher.matchesPattern actual
  | .absent => .ok false
  | .present => .ok true
  | .empty => .ok (isEmpty actual)
  | .notEmpty => .ok (!isEmpty actual)

/-- Whether a record matches, or what keeps the filter from an answer. Where there is no value,
only the operator that asks for that matches. -/
def evaluate (matcher : ValueMatcher) (record : Json) : Except Fault Bool :=
  match matcher.resolved record with
  | .error fault => .error fault
  | .ok none => .ok (matcher.operator == .absent)
  | .ok (some actual) => matcher.compare actual

/-- Whether a record matches; a filter with a fault does not. -/
def accepts (matcher : ValueMatcher) (record : Json) : Bool :=
  match matcher.evaluate record with
  | .ok answer => answer
  | .error _ => false

end ValueMatcher

end Remediation
