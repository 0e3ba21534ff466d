import Remediation.Yaml.Cursor

/-!
Block scalars, which keep the line breaks of their indented lines or fold them into spaces. An
indicator says what becomes of the breaks at the end.
-/

namespace Remediation.Yaml

/-- What becomes of the line breaks at the end of a block scalar. -/
inductive Chomping where
  | strip
  | clip
  | keep
  deriving DecidableEq, Repr

/-- What stands behind the indicator of a block scalar. -/
structure BlockHeader where
  chomping : Chomping
  /-- How much deeper than its parent the scalar is indented, if that is said. -/
  increment : Option Nat
  deriving Repr

namespace BlockHeader

def chompingOf? : Char → Option Chomping
  | '+' => some .keep
  | '-' => some .strip
  | _ => none

/-- Takes a digit of indentation, which may not be zero. -/
def takeIncrement (cursor : Cursor) : Option (Option Nat × Cursor) :=
  match cursor.peek? with
  | some c =>
      if c = '0' then none
      else if c.isDigit then some (some (c.toNat - 48), cursor.skip 1)
      else some (none, cursor)
  | none => some (none, cursor)

def takeChomping (cursor : Cursor) : Option Chomping × Cursor :=
  match cursor.peek?.bind chompingOf? with
  | some chomping => (some chomping, cursor.skip 1)
  | none => (none, cursor)

/-- Takes a header with the rest of its line, where only a comment may stand. -/
def take (cursor : Cursor) : Option (BlockHeader × Cursor) := do
  let (before, cursor) := takeChomping cursor
  let (increment, cursor) ← takeIncrement cursor
  let (chomping, cursor) :=
    if before.isSome ∨ increment.isNone then (before, cursor) else takeChomping cursor
  let cursor := cursor.skipWhile isGap
  let cursor := if cursor.seesChar '#' then cursor.skipWhile (!isBreak ·) else cursor
  if cursor.atEnd ∨ cursor.sees isBreak then
    some (⟨chomping.getD .clip, increment⟩, cursor.skipBreak)
  else none

end BlockHeader

/-- Takes the indentation and the empty lines before a line with content, up to a column if one is
given. Answers the line breaks and the greatest column reached. A tab may not stand in the
indentation. -/
def takeIndentation (indent : Option Nat)
    : Nat → List Char → Nat → Cursor → Option (List Char × Nat × Cursor)
  | 0, breaks, most, cursor => some (breaks, most, cursor)
  | fuel + 1, breaks, most, cursor =>
      let spaces := cursor.rest.takeWhile isSpace
      let count := indent.elim spaces.length (fun column => min spaces.length (column - cursor.column))
      let cursor := cursor.skip count
      let most := max most cursor.column
      if cursor.seesChar '\t' && indent.all (cursor.column < ·) then none
      else if cursor.sees isBreak then
        let (text, cursor) := cursor.takeBreak
        takeIndentation indent fuel (breaks ++ text) most cursor
      else some (breaks, most, cursor)

/-- A block scalar while its lines are taken. -/
structure BlockLines where
  /-- The text so far, in reverse. -/
  done : List Char
  /-- The line break behind the last line. -/
  lastBreak : List Char
  /-- The breaks of the empty lines behind it. -/
  emptyBreaks : List Char
  /-- Whether the last line starts with a blank. -/
  afterBlank : Bool
  deriving Repr

namespace BlockLines

/-- What stands between the last line and one that may start with a blank. Only breaks between
lines that start without one are folded. -/
def separator (literal : Bool) (lines : BlockLines) (startsBlank : Bool) : List Char :=
  if !literal && lines.lastBreak.head? == some '\n' && !lines.afterBlank && !startsBlank then
    if lines.emptyBreaks.isEmpty then [' '] else lines.emptyBreaks
  else lines.lastBreak ++ lines.emptyBreaks

/-- Takes the lines that are indented to a column. -/
def take (literal : Bool) (indent : Nat) : Nat → BlockLines → Cursor → Option (BlockLines × Cursor)
  | 0, lines, cursor => some (lines, cursor)
  | fuel + 1, lines, cursor =>
      if cursor.column ≠ indent ∨ cursor.atEnd then some (lines, cursor)
      else do
        let startsBlank := cursor.sees isGap
        let separator := lines.separator literal startsBlank
        let (line, cursor) := cursor.takeWhile (!isBreak ·)
        let (lastBreak, cursor) := cursor.takeBreak
        let (emptyBreaks, _, cursor) ← takeIndentation (some indent) (cursor.rest.length + 1) [] 0 cursor
        take literal indent fuel
          ⟨line.reverse ++ (separator.reverse ++ lines.done), lastBreak, emptyBreaks, startsBlank⟩
          cursor

/-- The whole text. -/
def text (lines : BlockLines) (chomping : Chomping) : List Char :=
  lines.done.reverse
    ++ match chomping with
      | .strip => []
      | .clip => lines.lastBreak
      | .keep => lines.lastBreak ++ lines.emptyBreaks

end BlockLines

/-- Takes a block scalar behind its indicator, below a parent with an indentation. -/
def takeBlock (literal : Bool) (parent : Int) (cursor : Cursor) : Option (String × Cursor) := do
  let (header, cursor) ← BlockHeader.take cursor
  let given := header.increment.map (fun increment =>
    if 0 ≤ parent then parent.toNat + increment else increment)
  let (breaks, most, cursor) ← takeIndentation given (cursor.rest.length + 1) [] 0 cursor
  let indent := given.getD (max most (max (parent + 1).toNat 1))
  let (lines, cursor) ←
    BlockLines.take literal indent (cursor.rest.length + 1) ⟨[], [], breaks, false⟩ cursor
  some (String.ofList (lines.text header.chomping), cursor)

end Remediation.Yaml
