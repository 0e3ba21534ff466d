import Remediation.Json.Compare

/-!
Key paths: a small language for reaching into JSON records. A path is a list of steps, and a
step that selects holds a path of its own, which is resolved against every element.
-/

namespace Remediation

/-- A comparison inside a selector. -/
inductive Comparison where
  | eq
  | ne
  | ge
  | le
  | gt
  | lt
  deriving DecidableEq, Repr

namespace Comparison

def token : Comparison → String
  | .eq => "=="
  | .ne => "!="
  | .ge => ">="
  | .le => "<="
  | .gt => ">"
  | .lt => "<"

/-- Whether the comparison holds; values without an order satisfy none but the inequality. -/
def holds (comparison : Comparison) (actual expected : Json) : Bool :=
  match comparison with
  | .eq => actual.looseEq expected
  | .ne => !actual.looseEq expected
  | .gt => ordered (· == .gt)
  | .ge => ordered (· != .lt)
  | .lt => ordered (· == .lt)
  | .le => ordered (· != .gt)
where
  ordered (test : Ordering → Bool) : Bool :=
    match actual.order expected with
    | .ok ordering => test ordering
    | .error _ => false

end Comparison

/-- One step of a key path. -/
inductive Step where
  /-- The value of a field. -/
  | field (name : String)
  /-- The element at an index, which counts from the end when it is negative. -/
  | index (position : Int)
  /-- Every element, each followed along the rest of the path. -/
  | project
  /-- Every element, and those of an inner array in its place. -/
  | flatten
  /-- The elements on which the path of the selector gives a truthy value, or one for which
  the comparison with the literal holds. -/
  | select (path : List Step) (test : Option (Comparison × Json))
  deriving Inhabited, Repr

/-- A key path together with the text it was read from. -/
structure KeyPath where
  source : String
  steps : List Step
  deriving Inhabited, Repr

/-- Why a text is not a key path. -/
inductive PathFault where
  | emptyPath
  | unterminatedQuote
  | endsWithDot
  | unexpected (c : Char)
  | unbalancedBracket
  | invalidIndex (text : String)
  | emptySelector
  | noLeftSide
  | invalidLiteral (text : String)
  | emptyFieldName
  deriving DecidableEq, Repr

/-- A text that is not a key path. For a path inside a selector this is the inner text. -/
structure MalformedPath where
  path : String
  fault : PathFault
  deriving DecidableEq, Repr

def PathFault.message : PathFault → String
  | .emptyPath => "empty path"
  | .unterminatedQuote => "unterminated quoted field"
  | .endsWithDot => "path ends with '.'"
  | .unexpected c => s!"unexpected '{c}'"
  | .unbalancedBracket => "unbalanced '['"
  | .invalidIndex text => s!"invalid index '{text}'"
  | .emptySelector => "empty selector"
  | .noLeftSide => "selector has no left-hand side"
  | .invalidLiteral text => s!"invalid literal '{text}'"
  | .emptyFieldName => "empty field name"

def MalformedPath.message (malformed : MalformedPath) : String :=
  s!"malformed key path '{malformed.path}': {malformed.fault.message}"

end Remediation
