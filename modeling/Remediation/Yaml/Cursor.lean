/-!
A place in a YAML text, and the characters that YAML tells apart. A line ends in a carriage
return, a line feed or both, or in one of three separators of Unicode.
-/

namespace Remediation.Yaml

def isSpace (c : Char) : Bool := c == ' '

/-- Spaces and tabs. -/
def isGap (c : Char) : Bool := c == ' ' || c == '\t'

def isBreak (c : Char) : Bool :=
  c == '\n' || c == '\r' || c.toNat == 0x85 || c.toNat == 0x2028 || c.toNat == 0x2029

def isGapOrBreak (c : Char) : Bool := isGap c || isBreak c

/-- The characters of names: of anchors, of tag handles and of directives. -/
def isNameChar (c : Char) : Bool := c.isAlphanum || c == '_' || c == '-'

/-- Whether a character may stand in a YAML text at all. -/
def isPrintable (c : Char) : Bool :=
  let n := c.toNat
  n == 9 || n == 10 || n == 13 || (0x20 ≤ n && n ≤ 0x7E) || n == 0x85
    || (0xA0 ≤ n && n ≤ 0xD7FF) || (0xE000 ≤ n && n ≤ 0xFFFD && n != 0xFEFF) || 0x10000 ≤ n

/-- What is left of a text, and how much is behind. -/
structure Cursor where
  rest : List Char
  index : Nat
  line : Nat
  column : Nat
  deriving Repr

namespace Cursor

def start (text : List Char) : Cursor := ⟨text, 0, 0, 0⟩

def atEnd (cursor : Cursor) : Bool := cursor.rest.isEmpty

def peek? (cursor : Cursor) : Option Char := cursor.rest.head?

/-- The character at a distance. -/
def peekAt? (cursor : Cursor) (distance : Nat) : Option Char := cursor.rest[distance]?

/-- Whether the next character satisfies a test. -/
def sees (cursor : Cursor) (test : Char → Bool) : Bool := cursor.peek?.any test

/-- Whether the next character is a given one. -/
def seesChar (cursor : Cursor) (c : Char) : Bool := cursor.peek? == some c

/-- Whether there is a blank, a line break or the end at a distance. -/
def blankAt (cursor : Cursor) (distance : Nat) : Bool :=
  (cursor.peekAt? distance).all isGapOrBreak

/-- Passes over characters within a line. -/
def skip (cursor : Cursor) (count : Nat) : Cursor :=
  {
    cursor with
    rest := cursor.rest.drop count,
    index := cursor.index + count,
    column := cursor.column + count
  }

/-- Takes the characters within a line that satisfy a test. -/
def takeWhile (cursor : Cursor) (test : Char → Bool) : List Char × Cursor :=
  let taken := cursor.rest.takeWhile test
  (taken, cursor.skip taken.length)

def skipWhile (cursor : Cursor) (test : Char → Bool) : Cursor :=
  (cursor.takeWhile test).2

/-- Passes over a line break of some characters. -/
def nextLine (cursor : Cursor) (count : Nat) : Cursor :=
  {
    rest := cursor.rest.drop count,
    index := cursor.index + count,
    line := cursor.line + 1,
    column := 0
  }

/-- Takes a line break, which counts as a line feed unless it is a separator of lines or
paragraphs. Takes nothing where there is no break. -/
def takeBreak (cursor : Cursor) : List Char × Cursor :=
  match cursor.rest with
  | '\r' :: '\n' :: _ => (['\n'], cursor.nextLine 2)
  | c :: _ =>
      if isBreak c then
        (if c.toNat = 0x2028 ∨ c.toNat = 0x2029 then [c] else ['\n'], cursor.nextLine 1)
      else ([], cursor)
  | [] => ([], cursor)

def skipBreak (cursor : Cursor) : Cursor := cursor.takeBreak.2

/-- Whether a marker of documents stands at the start of a line: three equal characters with a
blank behind them. -/
def seesMarker (cursor : Cursor) (c : Char) : Bool :=
  cursor.column == 0 && cursor.rest.take 3 == [c, c, c] && cursor.blankAt 3

def seesDocumentMarker (cursor : Cursor) : Bool :=
  cursor.seesMarker '-' || cursor.seesMarker '.'

end Cursor

end Remediation.Yaml
