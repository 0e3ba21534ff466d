import Remediation.Number.Radix
import Remediation.Yaml.Gap

/-!
Scalars that are written in line: in single quotes, in double quotes with escapes, or plain. The
lines of one that goes over several are joined.
-/

namespace Remediation.Yaml

/-- The character of an escape of one letter. -/
def escapedChar? : Char → Option Char
  | '0' => some (Char.ofNat 0)
  | 'a' => some (Char.ofNat 7)
  | 'b' => some (Char.ofNat 8)
  | 't' | '\t' => some '\t'
  | 'n' => some '\n'
  | 'v' => some (Char.ofNat 11)
  | 'f' => some (Char.ofNat 12)
  | 'r' => some '\r'
  | 'e' => some (Char.ofNat 27)
  | ' ' => some ' '
  | '"' => some '"'
  | '/' => some '/'
  | '\\' => some '\\'
  | 'N' => some (Char.ofNat 0x85)
  | '_' => some (Char.ofNat 0xA0)
  | 'L' => some (Char.ofNat 0x2028)
  | 'P' => some (Char.ofNat 0x2029)
  | _ => none

/-- How many digits follow the letter of a numeric escape. -/
def escapeLength? : Char → Option Nat
  | 'x' => some 2
  | 'u' => some 4
  | 'U' => some 8
  | _ => none

/-- The character of a numeric escape. -/
def charOfDigits? (digits : List Char) : Option Char := do
  let code ← digitsIn? 16 digits
  if (0xD800 ≤ code ∧ code ≤ 0xDFFF) ∨ 0x10FFFF < code then none else some (Char.ofNat code)

/-- Takes an escape behind its backslash. -/
def takeEscape (cursor : Cursor) : Option (Char × Cursor) := do
  let letter ← cursor.peek?
  match escapeLength? letter with
  | none => (escapedChar? letter).map (·, cursor.skip 1)
  | some length =>
      let digits := (cursor.rest.drop 1).take length
      if digits.length = length then (charOfDigits? digits).map (·, cursor.skip (length + 1))
      else none

/-- Takes the characters of a quoted scalar up to the next blank, break or closing quote. Answers
whether it ended in an escaped break. -/
def takeQuotedRun (single : Bool)
    : Nat → List Char → Cursor → Option (Bool × List Char × Cursor)
  | 0, done, cursor => some (false, done, cursor)
  | fuel + 1, done, cursor =>
      match cursor.rest with
      | [] => some (false, done, cursor)
      | '\'' :: '\'' :: _ =>
          if single then takeQuotedRun single fuel ('\'' :: done) (cursor.skip 2)
          else takeQuotedRun single fuel ('\'' :: done) (cursor.skip 1)
      | c :: rest =>
          if isGapOrBreak c || c == (if single then '\'' else '"') then
            some (false, done, cursor)
          else if c = '\\' && !single then
            if rest.head?.any isBreak then some (true, done, (cursor.skip 1).skipBreak)
            else do
              let (c, cursor) ← takeEscape (cursor.skip 1)
              takeQuotedRun single fuel (c :: done) cursor
          else takeQuotedRun single fuel (c :: done) (cursor.skip 1)

/-- Takes a quoted scalar behind its opening quote; the text so far is kept in reverse. -/
def takeQuotedFrom (single : Bool) : Nat → List Char → Cursor → Option (List Char × Cursor)
  | 0, _, _ => none
  | fuel + 1, done, cursor =>
      if cursor.seesDocumentMarker || cursor.atEnd then none
      else do
        let (escaped, done, cursor) ← takeQuotedRun single cursor.rest.length done cursor
        if cursor.seesChar (if single then '\'' else '"') then
          some (done.reverse, cursor.skip 1)
        else do
          let start := if escaped then Gap.escaped else Gap.none
          let (gap, cursor) ← Gap.take 0 cursor.rest.length start cursor
          takeQuotedFrom single fuel (gap.folded.reverse ++ done) cursor

/-- Takes a quoted scalar. -/
def takeQuoted (single : Bool) (cursor : Cursor) : Option (String × Cursor) :=
  (takeQuotedFrom single cursor.rest.length [] (cursor.skip 1)).map
    (fun (text, cursor) => (String.ofList text, cursor))

/-! ### Plain scalars -/

/-- The characters that end a plain scalar inside a flow collection. -/
def isFlowEnd (c : Char) : Bool :=
  c == ',' || c == '[' || c == ']' || c == '\x7b' || c == '\x7d'

/-- Whether a colon stands before an indicator of flow collections, which is refused. -/
def seesStrayColon (cursor : Cursor) : Bool :=
  cursor.seesChar ':' && (cursor.peekAt? 1).any (fun c => isFlowEnd c || c == '?')

/-- Takes the characters of a plain scalar up to the next blank, break or indicator. -/
def takePlainRun (inFlow : Bool) : Nat → List Char → Cursor → Option (List Char × Cursor)
  | 0, done, cursor => some (done, cursor)
  | fuel + 1, done, cursor =>
      match cursor.peek? with
      | none => some (done, cursor)
      | some c =>
          if isGapOrBreak c then some (done, cursor)
          else if inFlow && seesStrayColon cursor then none
          else if (c == ':' && cursor.blankAt 1) || (inFlow && isFlowEnd c) then
            some (done, cursor)
          else takePlainRun inFlow fuel (c :: done) (cursor.skip 1)

/-- Takes a plain scalar of which the text so far is given in reverse, and the gap behind it.
Answers also whether the scalar ended behind a line break. -/
def takePlainFrom (inFlow : Bool) (leastColumn : Nat)
    : Nat → List Char → Gap → Cursor → Option (List Char × Bool × Cursor)
  | 0, _, _, _ => none
  | fuel + 1, done, gap, cursor =>
      if cursor.seesDocumentMarker || cursor.seesChar '#' then
        some (done.reverse, gap.broken, cursor)
      else do
        let (run, next) ← takePlainRun inFlow cursor.rest.length [] cursor
        let (done, gap) :=
          if run.isEmpty then (done, gap)
          else (run ++ (gap.folded.reverse ++ done), Gap.none)
        if !next.sees isGapOrBreak then some (done.reverse, gap.broken, next)
        else do
          let (gap, next) ← Gap.take leastColumn next.rest.length gap next
          if !inFlow && next.column < leastColumn then
            some (done.reverse, gap.broken, next)
          else takePlainFrom inFlow leastColumn fuel done gap next

/-- Takes a plain scalar whose lines stand at a column at least. Answers also whether it ended
behind a line break. -/
def takePlain (inFlow : Bool) (leastColumn : Nat) (cursor : Cursor)
    : Option (String × Bool × Cursor) :=
  (takePlainFrom inFlow leastColumn (cursor.rest.length + 1) [] Gap.none cursor).map
    (fun (text, broken, cursor) => (String.ofList text, broken, cursor))

end Remediation.Yaml
