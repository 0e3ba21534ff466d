/-!
The syntax trees of regular expressions. Flags can change in the middle of a group, so that what
an item means depends on the items before it; the tree keeps flags as items of their own.
-/

namespace Remediation.Regex

/-- A flag that changes the meaning of what follows. -/
inductive Flag where
  | ignoreCase
  | multiLine
  | dotMatchesNewline
  | swapGreed
  | unicode
  | crlf
  | extended
  deriving DecidableEq, Repr

/-- A change of flags: each one with whether it is set or cleared. -/
abbrev FlagChange := List (Flag × Bool)

/-- A place in a text, apart from what stands there. -/
inductive Anchor where
  | lineStart
  | lineEnd
  | textStart
  | textEnd
  | wordBoundary
  | noWordBoundary
  | wordStart
  | wordEnd
  | wordStartHalf
  | wordEndHalf
  deriving DecidableEq, Repr

/-- The classes with a letter of their own. -/
inductive LetterClass where
  | digit
  | space
  | word
  deriving DecidableEq, Repr

/-- A property of characters, as a pattern asks for it. -/
inductive Query where
  | named (name : List Char)
  | valued (property value : List Char) (equal : Bool)
  deriving DecidableEq, Repr

/-- A character of a pattern. One written with two hexadecimal digits is a byte where Unicode
is switched off. -/
structure Literal where
  char : Char
  isByte : Bool
  deriving DecidableEq, Repr

inductive SetOperation where
  | intersection
  | difference
  | symmetricDifference
  deriving DecidableEq, Repr

/-- What stands between square brackets. -/
inductive ClassItem where
  | literal (literal : Literal)
  | range (first last : Literal)
  | ascii (ranges : List (Nat × Nat)) (negated : Bool)
  | letter (kind : LetterClass) (negated : Bool)
  | property (query : Query) (negated : Bool)
  | bracketed (negated : Bool) (content : ClassItem)
  | union (items : List ClassItem)
  | combination (operation : SetOperation) (left right : ClassItem)
  deriving Inhabited, Repr

/-- The syntax tree of a pattern. -/
inductive Tree where
  | empty
  | flags (change : FlagChange)
  | literal (literal : Literal)
  | dot
  | anchor (anchor : Anchor)
  | letter (kind : LetterClass) (negated : Bool)
  | property (query : Query) (negated : Bool)
  | bracketed (negated : Bool) (content : ClassItem)
  | repetition (least : Nat) (most : Option Nat) (body : Tree)
  | group (change : FlagChange) (body : Tree)
  | alternation (branches : List Tree)
  | concatenation (parts : List Tree)
  deriving Inhabited, Repr

namespace ClassItem

mutual

/-- How deep sets are nested in an item. -/
def depth : ClassItem → Nat
  | .bracketed _ content => depth content + 1
  | .union items => depthOfAll items + 1
  | .combination _ left right => max (depth left) (depth right) + 1
  | _ => 0

def depthOfAll : List ClassItem → Nat
  | [] => 0
  | item :: rest => max (depth item) (depthOfAll rest)

end

/-- The items of a set as one item. -/
def ofItems : List ClassItem → ClassItem
  | [item] => item
  | items => .union items

end ClassItem

namespace Tree

mutual

/-- How deep groups, repetitions and sets are nested in a tree. -/
def depth : Tree → Nat
  | .bracketed _ content => content.depth + 1
  | .repetition _ _ body => depth body + 1
  | .group _ body => depth body + 1
  | .alternation branches => depthOfAll branches + 1
  | .concatenation parts => depthOfAll parts + 1
  | _ => 0

def depthOfAll : List Tree → Nat
  | [] => 0
  | tree :: rest => max (depth tree) (depthOfAll rest)

end

/-- Parts one after the other, as one tree. -/
def ofParts : List Tree → Tree
  | [] => .empty
  | [part] => part
  | parts => .concatenation parts

/-- Branches as one tree. -/
def ofBranches : List Tree → Tree
  | [branch] => branch
  | branches => .alternation branches

end Tree

/-- The depth to which a pattern may be nested. -/
def greatestDepth : Nat := 250

end Remediation.Regex
