import Remediation.Text.Ranges

/-!
Regular expressions with their flags worked out. `Matches` says which parts of a text an
expression matches; whether it matches is all that is asked of one, so that greed plays no part.
-/

namespace Remediation

/-- A condition on a position of a text. -/
inductive Look where
  | textStart
  | textEnd
  | lineStart
  | lineEnd
  /-- Line ends are those of texts that end lines with a carriage return too. -/
  | wideLineStart
  | wideLineEnd
  /-- Whether a word character stands on neither, one or both sides, for a set of word
  characters. -/
  | boundary (word : Ranges)
  | noBoundary (word : Ranges)
  | wordStart (word : Ranges)
  | wordEnd (word : Ranges)
  | wordStartHalf (word : Ranges)
  | wordEndHalf (word : Ranges)
  deriving DecidableEq, Repr

namespace Look

def isWord (word : Ranges) (c : Option Char) : Bool :=
  c.elim false (fun c => word.contains c.toNat)

/-- Whether the condition holds between two characters, which are none at the ends of a text. -/
def holds (look : Look) (before after : Option Char) : Bool :=
  match look with
  | .textStart => before.isNone
  | .textEnd => after.isNone
  | .lineStart => before.isNone || before == some '\n'
  | .lineEnd => after.isNone || after == some '\n'
  | .wideLineStart =>
      before.isNone || before == some '\n' || (before == some '\r' && after != some '\n')
  | .wideLineEnd =>
      after.isNone || after == some '\r' || (after == some '\n' && before != some '\r')
  | .boundary word => isWord word before != isWord word after
  | .noBoundary word => isWord word before == isWord word after
  | .wordStart word => !isWord word before && isWord word after
  | .wordEnd word => isWord word before && !isWord word after
  | .wordStartHalf word => !isWord word before
  | .wordEndHalf word => !isWord word after

end Look

/-- A regular expression. -/
inductive Regex where
  | empty
  | chars (ranges : Ranges)
  | look (look : Look)
  | seq (first second : Regex)
  | alt (left right : Regex)
  | times (least : Nat) (most : Option Nat) (body : Regex)
  deriving Inhabited, Repr

namespace Regex

/-- Expressions one after the other. -/
def seqs : List Regex → Regex
  | [] => .empty
  | [r] => r
  | r :: rest => .seq r (seqs rest)

/-- A choice between expressions; without any, nothing matches. -/
def alts : List Regex → Regex
  | [] => .chars []
  | [r] => r
  | r :: rest => .alt r (alts rest)

end Regex

end Remediation
