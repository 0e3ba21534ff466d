import Remediation.Json.Reader
import Remediation.Policy.Reader
import Remediation.Text.Split
import Remediation.Yaml.Load

/-!
Documents that hold policies, in JSON or in YAML. The policies of a document have names, and no
two have the same one.
-/

namespace Remediation

open Document

/-- The language that a document is written in. -/
inductive DocumentFormat where
  | json
  | yaml
  deriving DecidableEq, Repr

/-- The format that the name of a file tells: JSON if it ends in `.json`, else YAML. -/
def DocumentFormat.ofPath (path : String) : DocumentFormat :=
  let parts := (Text.splitOn (· == '/') path.toList).filter (fun part => part ≠ [] ∧ part ≠ ['.'])
  match parts.getLast? with
  | some name =>
      if name.length ≠ 5 ∧ name.drop (name.length - 5) = ".json".toList then .json else .yaml
  | none => .yaml

/-- Why a text is no document of policies. -/
inductive DocumentError where
  /-- The file of the document cannot be read. -/
  | unreadable (path cause : String)
  /-- The text is not a value of its language. -/
  | malformed
  /-- The text is a document of policies with more documents behind it. -/
  | several
  /-- A part is unfit for its type, which may be the whole of a text without anything before. -/
  | shape (cause : ShapeError ReadingError) (isWhole : Bool)
  /-- A policy on a resource type that has no name. -/
  | unnamed (resource : String)
  | duplicateName (name : String)

namespace DocumentError

/-- What is wrong with the document. -/
def cause : DocumentError → String
  | .unreadable path cause => s!"{path}: {cause}"
  | .malformed => "syntax"
  | .several => "deserializing from YAML containing more than one document is not supported"
  | .shape cause _ => shapeMessage cause
  | .unnamed resource => s!"a policy on '{resource}' has no name"
  | .duplicateName name => s!"duplicate policy name '{name}'"

/-- The text of an error, of which a cause is a part. -/
def describe (cause : String) : String :=
  "invalid policy document: " ++ cause

/-- The text of an error in a text that has been given. Texts that are no value of their language
are not told apart. -/
def message : DocumentError → String
  | .malformed | .several => "syntax"
  | error => describe error.cause

/-- Whether the error lies at a place somewhere in the text. -/
def hasPlace : DocumentError → Bool
  | .malformed => true
  | .shape _ isWhole => !isWhole
  | _ => false

/-- The text of an error for a user, who finds the place of an error without further help. -/
def summary (error : DocumentError) : String :=
  describe (if error.hasPlace then "<parse error>" else error.cause)

end DocumentError

/-- A document of policies. -/
structure PolicyDocument where
  policies : List Policy

namespace PolicyDocument

/-- Checks that every policy has a name of its own, given the names of those before. -/
def checkNames : List String → List Policy → Except DocumentError Unit
  | _, [] => .ok ()
  | seen, policy :: rest =>
      if policy.name.isEmpty then .error (.unnamed policy.resource)
      else if seen.contains policy.name then .error (.duplicateName policy.name)
      else checkNames (policy.name :: seen) rest

/-- The policies in a document. -/
def readPolicies (format : Format) (node : Node) : Shaped ReadingError (List Policy) :=
  record format "PolicyDocument" [{ name := "policies" }]
    (fun _ _ node => list format (Policy.ofNode format) node) [] node

/-- Whether a fault is one of a whole document. -/
def isRootFault : ShapeError ReadingError → Bool
  | .invalidType _ expected => expected == "struct PolicyDocument"
  | .missingField name => name == "policies"
  | .duplicateField name => name == "policies"
  | _ => false

/-- The document of a node. A fault of its shape counts only if the text is a value of its
language at all. -/
def ofNode (format : Format) (isValue startsText : Bool) (node : Node)
    : Except DocumentError PolicyDocument :=
  match readPolicies format node with
  | .error cause =>
      .error (if isValue then .shape cause (startsText && isRootFault cause) else .malformed)
  | .ok policies => (checkNames [] policies).map (fun _ => ⟨policies⟩)

def parseJson (source : String) : Except DocumentError PolicyDocument :=
  match Json.readMembers source with
  | some json => ofNode .jsonText json.isFinite false (.json json)
  | none => .error .malformed

/-- Whether the first node of a YAML text has nothing before it. -/
def startsAtOnce (source : String) : Bool :=
  match source.toList with
  | [] => true
  | '-' :: '-' :: '-' :: _ => false
  | c :: _ => !" \t\r\n#%".toList.contains c

def parseYaml (source : String) : Except DocumentError PolicyDocument :=
  match Yaml.parseFirst? source with
  | some (node, isFollowed) =>
      match readPolicies .yaml node, isFollowed with
      | .ok _, true => .error .several
      | _, isFollowed =>
          ofNode .yaml (!isFollowed && Yaml.isValue node) (startsAtOnce source) node
  | none => .error .malformed

/-- Reads a document from a text. -/
def parse (format : DocumentFormat) (source : String) : Except DocumentError PolicyDocument :=
  match format with
  | .json => parseJson source
  | .yaml => parseYaml source

/-- The policy of a name. -/
def get? (document : PolicyDocument) (name : String) : Option Policy :=
  document.policies.find? (fun policy => policy.name == name)

end PolicyDocument

end Remediation
