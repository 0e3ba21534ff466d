import Remediation.Number.Radix
import Remediation.Text.Utf8
import Remediation.Yaml.Cursor

/-!
Tags and directives. A tag is written in full between angle brackets, or as a handle and a suffix;
directives say which version a document is in and what handles stand for.
-/

namespace Remediation.Yaml

/-- The characters of the address in a tag. Commas and brackets belong to it only between angle
brackets. -/
def isTagChar (verbatim : Bool) (c : Char) : Bool :=
  isNameChar c
    || [';', '/', '?', ':', '@', '&', '=', '+', '$', '.', '%', '!', '~', '*', '\'', '(', ')'].contains c
    || (verbatim && (c == ',' || c == '[' || c == ']'))

/-- A text of which every percent sign starts an escaped byte, as bytes. -/
def unescapedBytes? : List Char → Option (List Nat)
  | [] => some []
  | '%' :: a :: b :: rest => do
      let high ← digitIn? 16 a
      let low ← digitIn? 16 b
      let others ← unescapedBytes? rest
      some ((16 * high + low) :: others)
  | c :: rest =>
      if c = '%' then none else (unescapedBytes? rest).map (Text.utf8Bytes c ++ ·)

/-- Takes the address of a tag, which continues a text of some length. -/
def takeTagText (verbatim : Bool) (before : Nat) (cursor : Cursor) : Option (List Char × Cursor) := do
  let (written, cursor) := cursor.takeWhile (isTagChar verbatim)
  let bytes ← unescapedBytes? written
  let text ← Text.ofUtf8? bytes
  if before = 0 ∧ written.isEmpty then none else some (text, cursor)

/-- Takes a handle: an exclamation mark, and a name with another one behind it if both are
there. Answers the name alone when no mark ends it. -/
def takeHandle (cursor : Cursor) : Option (List Char × Cursor) :=
  if cursor.seesChar '!' then
    let (name, cursor) := (cursor.skip 1).takeWhile isNameChar
    if cursor.seesChar '!' then some ('!' :: name ++ ['!'], cursor.skip 1)
    else some ('!' :: name, cursor)
  else none

/-- A tag with its handle, which is empty if the suffix is the whole tag. -/
structure WrittenTag where
  handle : String
  suffix : String
  deriving DecidableEq, Repr

/-- Whether a text starts and ends with an exclamation mark and has more than one character. -/
def isHandle (text : List Char) : Bool :=
  2 ≤ text.length && text.getLast? == some '!'

/-- Takes a tag, behind which a blank has to stand, or a comma in a flow collection. -/
def takeTag (inFlow : Bool) (cursor : Cursor) : Option (WrittenTag × Cursor) := do
  let (tag, cursor) ←
    if cursor.peekAt? 1 = some '<' then do
      let (text, cursor) ← takeTagText true 0 (cursor.skip 2)
      if cursor.seesChar '>' then some (⟨"", String.ofList text⟩, cursor.skip 1) else none
    else do
      let (handle, cursor) ← takeHandle cursor
      if isHandle handle then
        let (suffix, cursor) ← takeTagText false 0 cursor
        some (⟨String.ofList handle, String.ofList suffix⟩, cursor)
      else
        let (rest, cursor) ← takeTagText false handle.length cursor
        let suffix := handle.drop 1 ++ rest
        some (if suffix.isEmpty then ⟨"", "!"⟩ else ⟨"!", String.ofList suffix⟩, cursor)
  if cursor.blankAt 0 ∨ (inFlow ∧ cursor.seesChar ',') then some (tag, cursor) else none

/-- A line that says something about the document below it. -/
inductive Directive where
  | version (major minor : Nat)
  | tag (handle start : String)
  deriving DecidableEq, Repr

/-- Takes a number of at most nine digits. -/
def takeNumber (cursor : Cursor) : Option (Nat × Cursor) :=
  let (digits, cursor) := cursor.takeWhile Char.isDigit
  if digits.isEmpty ∨ 9 < digits.length then none
  else some (digits.foldl (fun n c => n * 10 + (c.toNat - 48)) 0, cursor)

/-- Takes what a directive says behind its name. -/
def takeDirectiveValue (name : List Char) (cursor : Cursor) : Option (Directive × Cursor) :=
  if name = "YAML".toList then do
    let (major, cursor) ← takeNumber (cursor.skipWhile isGap)
    if cursor.seesChar '.' then
      let (minor, cursor) ← takeNumber (cursor.skip 1)
      some (.version major minor, cursor)
    else none
  else if name = "TAG".toList then do
    let (handle, cursor) ← takeHandle (cursor.skipWhile isGap)
    if !(handle = ['!'] ∨ isHandle handle) ∨ !cursor.sees isGap then none
    else
      let (start, cursor) ← takeTagText true 0 (cursor.skipWhile isGap)
      if cursor.blankAt 0 then
        some (.tag (String.ofList handle) (String.ofList start), cursor)
      else none
  else none

/-- Takes a directive with its line. -/
def takeDirective (cursor : Cursor) : Option (Directive × Cursor) := do
  let (name, cursor) := (cursor.skip 1).takeWhile isNameChar
  if name.isEmpty ∨ !cursor.blankAt 0 then none
  else
    let (directive, cursor) ← takeDirectiveValue name cursor
    let cursor := cursor.skipWhile isGap
    let cursor := if cursor.seesChar '#' then cursor.skipWhile (!isBreak ·) else cursor
    if cursor.atEnd ∨ cursor.sees isBreak then some (directive, cursor.skipBreak) else none

end Remediation.Yaml
