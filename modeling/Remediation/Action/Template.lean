import Remediation.Json.Printer
import Remediation.KeyPath.Reader
import Remediation.KeyPath.Resolve

/-!
Templates: JSON values whose texts may hold placeholders for fields of a record, written as key
paths in braces. A text that is one placeholder becomes the field's value with its type, and in
any other text the field's text takes the place of the placeholder. What comes from the record is
not looked at again.
-/

namespace Remediation

namespace Template

/-- A part of a text: a character that stands for itself, or a placeholder. -/
inductive Piece where
  | char (c : Char)
  | placeholder (path : String)
  deriving DecidableEq, Repr

/-- Whether a placeholder may start with a character. -/
def startsPath (c : Char) : Bool :=
  c.isAlpha || c == '_'

def continuesPath (c : Char) : Bool :=
  c.isAlphanum || c == '_' || c == '.' || c == '[' || c == ']' || c == '-'

/-- The path of the placeholder whose opening brace stands before a text. -/
def placeholder? : List Char → Option (List Char)
  | [] => none
  | c :: rest =>
      if startsPath c then
        match rest.dropWhile continuesPath with
        | '\x7d' :: _ => some (c :: rest.takeWhile continuesPath)
        | _ => none
      else none

/-- The pieces of a text, of which some characters at the start are passed over. -/
def piecesAfter : Nat → List Char → List Piece
  | _, [] => []
  | skipped + 1, _ :: rest => piecesAfter skipped rest
  | 0, '\x7b' :: rest =>
      match placeholder? rest with
      | some path => .placeholder (String.ofList path) :: piecesAfter (path.length + 1) rest
      | none => .char '\x7b' :: piecesAfter 0 rest
  | 0, c :: rest => .char c :: piecesAfter 0 rest

def pieces (text : String) : List Piece :=
  piecesAfter 0 text.toList

/-- A placeholder for a field that a record does not have. -/
structure MissingField where
  path : String
  deriving DecidableEq, Repr

def MissingField.message (missing : MissingField) : String :=
  s!"record has no field '{missing.path}'"

/-- The value that a placeholder stands for, which is never null. -/
def lookup (record : Json) (path : String) : Except MissingField Json :=
  match (KeyPath.parse path).toOption.bind (·.find? record) with
  | some value => .ok value
  | none => .error ⟨path⟩

/-- The text of a value inside of other text. -/
def inlineText : Json → String
  | .string s => s
  | other => other.text

def renderPiece (record : Json) : Piece → Except MissingField String
  | .char c => .ok (String.singleton c)
  | .placeholder path => (lookup record path).map inlineText

/-- A text with its placeholders replaced. -/
def render (record : Json) (text : String) : Except MissingField String :=
  ((pieces text).mapM (renderPiece record)).map String.join

/-- What a text becomes. -/
def expandText (record : Json) (text : String) : Except MissingField Json :=
  match pieces text with
  | [.placeholder path] => lookup record path
  | _ => (render record text).map .string

mutual

/-- What a template becomes for a record. -/
def expand (record : Json) : Json → Except MissingField Json
  | .string text => expandText record text
  | .array items => (expandItems record items).map .array
  | .object fields => (expandFields record fields).map .object
  | .null => .ok .null
  | .bool b => .ok (.bool b)
  | .number n => .ok (.number n)

def expandItems (record : Json) : List Json → Except MissingField (List Json)
  | [] => .ok []
  | item :: rest => do
      let first ← expand record item
      let others ← expandItems record rest
      .ok (first :: others)

def expandFields (record : Json) : List (String × Json) → Except MissingField Fields
  | [] => .ok []
  | (key, value) :: rest => do
      let first ← expand record value
      let others ← expandFields record rest
      .ok ((key, first) :: others)

end

end Template

end Remediation
