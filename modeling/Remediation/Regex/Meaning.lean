import Remediation.Regex.Basic
import Remediation.Regex.Syntax
import Remediation.Text.Folding
import Remediation.Text.Property

/-!
The regular expression that a syntax tree means. Flags are carried through the tree from left to
right: a change holds up to the end of its group, across the branches of an alternation. Where
Unicode is switched off, what could match part of a character is refused.
-/

namespace Remediation.Regex

structure Flags where
  ignoreCase : Bool := false
  multiLine : Bool := false
  dotMatchesNewline : Bool := false
  unicode : Bool := true
  crlf : Bool := false

namespace Flags

def set (flags : Flags) : Flag → Bool → Flags
  | .ignoreCase, on => { flags with ignoreCase := on }
  | .multiLine, on => { flags with multiLine := on }
  | .dotMatchesNewline, on => { flags with dotMatchesNewline := on }
  | .unicode, on => { flags with unicode := on }
  | .crlf, on => { flags with crlf := on }
  | .swapGreed, _ | .extended, _ => flags

def apply (flags : Flags) (change : FlagChange) : Flags :=
  change.foldl (fun flags (flag, on) => flags.set flag on) flags

end Flags

/-- The bytes that are characters of their own. -/
def asciiRange : Ranges := [(0, 127)]

/-- Adds the other case of each ASCII letter. -/
def foldAscii (ranges : Ranges) : Ranges :=
  (List.range 26).foldl
    (fun folded i =>
      let folded := if ranges.contains (65 + i) then Ranges.add (97 + i, 97 + i) folded else folded
      if ranges.contains (97 + i) then Ranges.add (65 + i, 65 + i) folded else folded)
    ranges

/-- A set without regard to case, if the flags ask for that. -/
def foldedBy (flags : Flags) (ranges : Ranges) : Ranges :=
  if flags.ignoreCase then
    if flags.unicode then Text.foldCase ranges else foldAscii ranges
  else ranges

/-- Negates a set of characters. Bytes are negated among all bytes, and what is then beyond
ASCII matches no characters. -/
def negatedIf (flags : Flags) (negated : Bool) (ranges : Ranges) : Option Ranges :=
  if negated then
    if flags.unicode then some ranges.complement
    else
      let others := Ranges.intersection ranges.complement [(0, 255)]
      if others.all (fun (_, last) => last ≤ 127) then some others else none
  else some ranges

def letterRanges (flags : Flags) : LetterClass → Ranges
  | .digit => if flags.unicode then Text.Category.decimalNumber else [(48, 57)]
  | .space => if flags.unicode then Text.Property.whiteSpace else [(9, 13), (32, 32)]
  | .word =>
      if flags.unicode then Text.Property.word else [(48, 57), (65, 90), (95, 95), (97, 122)]

def letterSet (flags : Flags) (kind : LetterClass) (negated : Bool) : Option Ranges :=
  negatedIf flags negated (letterRanges flags kind)

/-- The characters of a property; none if there is no such property. -/
def querySet (flags : Flags) (query : Query) (negated : Bool) : Option Ranges :=
  if flags.unicode then
    let (found, negated) :=
      match query with
      | .named name => (Text.Property.named? name, negated)
      | .valued property value equal =>
          (Text.Property.valued? property value, if equal then negated else !negated)
    found.bind (fun ranges => negatedIf flags negated (foldedBy flags ranges))
  else none

/-- Whether a literal stands for a character; a byte beyond ASCII does not. -/
def literalCode (flags : Flags) (literal : Literal) : Option Nat :=
  if !flags.unicode && literal.isByte && 127 < literal.char.toNat then none
  else some literal.char.toNat

/-- The code of a literal in a set, where without Unicode only ASCII may stand. -/
def memberCode (flags : Flags) (literal : Literal) : Option Nat :=
  if !flags.unicode && 127 < literal.char.toNat && !literal.isByte then none
  else some literal.char.toNat

def combine : SetOperation → Ranges → Ranges → Ranges
  | .intersection => Ranges.intersection
  | .difference => Ranges.difference
  | .symmetricDifference => Ranges.symmetricDifference

mutual

/-- The characters of an item of a set. -/
def itemSet (flags : Flags) : ClassItem → Option Ranges
  | .literal l => (memberCode flags l).map (fun n => [(n, n)])
  | .range first last => do
      let first ← memberCode flags first
      let last ← memberCode flags last
      some [(first, last)]
  | .ascii ranges negated => negatedIf flags negated (foldedBy flags ranges)
  | .letter kind negated => letterSet flags kind negated
  | .property query negated => querySet flags query negated
  | .bracketed negated content => do
      let ranges ← itemSet flags content
      negatedIf flags negated (foldedBy flags ranges)
  | .union items => itemsSet flags items
  | .combination operation left right => do
      let left ← itemSet flags left
      let right ← itemSet flags right
      some (combine operation (foldedBy flags left) (foldedBy flags right))

def itemsSet (flags : Flags) : List ClassItem → Option Ranges
  | [] => some []
  | item :: rest => do
      let first ← itemSet flags item
      let others ← itemsSet flags rest
      some (Ranges.union first others)

end

/-- A set of characters, which without Unicode has to be one of ASCII characters. -/
def charsOf (flags : Flags) (ranges : Ranges) : Option Regex :=
  if flags.unicode || ranges.all (fun (_, last) => last ≤ 127) then some (.chars ranges) else none

def anchorLook (flags : Flags) : Anchor → Look
  | .lineStart =>
      if flags.multiLine then (if flags.crlf then .wideLineStart else .lineStart) else .textStart
  | .lineEnd =>
      if flags.multiLine then (if flags.crlf then .wideLineEnd else .lineEnd) else .textEnd
  | .textStart => .textStart
  | .textEnd => .textEnd
  | .wordBoundary => .boundary word
  | .noWordBoundary => .noBoundary word
  | .wordStart => .wordStart word
  | .wordEnd => .wordEnd word
  | .wordStartHalf => .wordStartHalf word
  | .wordEndHalf => .wordEndHalf word
where
  word : Ranges := letterRanges flags .word

/-- The characters that a dot stands for. Without Unicode it would match single bytes. -/
def dotSet (flags : Flags) : Option Ranges :=
  if flags.unicode then
    some
      (if flags.dotMatchesNewline then Ranges.everything
      else if flags.crlf then Ranges.complement [(10, 10), (13, 13)]
      else Ranges.complement [(10, 10)])
  else none

mutual

/-- The expression that a tree means, and the flags that hold after it. -/
def meaning (flags : Flags) : Tree → Option (Regex × Flags)
  | .empty => some (.empty, flags)
  | .flags change => some (.empty, flags.apply change)
  | .literal l => do
      let n ← literalCode flags l
      some (.chars (foldedBy flags [(n, n)]), flags)
  | .dot => (dotSet flags).map (fun ranges => (.chars ranges, flags))
  | .anchor a => some (.look (anchorLook flags a), flags)
  | .letter kind negated => do
      let ranges ← letterSet flags kind negated
      some (.chars ranges, flags)
  | .property query negated => do
      let ranges ← querySet flags query negated
      some (.chars ranges, flags)
  | .bracketed negated content => do
      let ranges ← itemSet flags content
      let ranges ← negatedIf flags negated (foldedBy flags ranges)
      let regex ← charsOf flags ranges
      some (regex, flags)
  | .repetition least most body => do
      let (body, flags) ← meaning flags body
      some (.times least most body, flags)
  | .group change body => do
      let (body, _) ← meaning (flags.apply change) body
      some (body, flags)
  | .alternation branches => do
      let (branches, flags) ← meanings flags branches
      some (alts branches, flags)
  | .concatenation parts => do
      let (parts, flags) ← meanings flags parts
      some (seqs parts, flags)

def meanings (flags : Flags) : List Tree → Option (List Regex × Flags)
  | [] => some ([], flags)
  | tree :: rest => do
      let (first, flags) ← meaning flags tree
      let (others, flags) ← meanings flags rest
      some (first :: others, flags)

end

end Remediation.Regex
