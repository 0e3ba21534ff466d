import Remediation.Yaml.Scalar

/-!
The tokens of YAML. Indentation shows in them as the start and the end of block collections, and
a key is announced by a token of its own.
-/

namespace Remediation.Yaml

inductive Token where
  | versionDirective (major minor : Nat)
  | tagDirective (handle start : String)
  | documentStart
  | documentEnd
  | blockSequenceStart
  | blockMappingStart
  | blockEnd
  | flowSequenceStart
  | flowSequenceEnd
  | flowMappingStart
  | flowMappingEnd
  | blockEntry
  | flowEntry
  | key
  | value
  | alias (name : String)
  | anchor (name : String)
  | tag (handle suffix : String)
  | scalar (text : String) (style : ScalarStyle)
  deriving DecidableEq, Repr

end Remediation.Yaml
