import Remediation.Regex.Basic

/-!
Matching by sets of positions. A text of `n` characters has `n + 1` positions, and a set of them
is a list of as many truth values. An expression carries the set of positions where a match may
start to the set of those where it may end, so that matching takes no longer on one text than on
another of its length.
-/

namespace Remediation.Regex

/-- A set of positions in a text. -/
abbrev Positions := List Bool

namespace Positions

def isEmpty (positions : Positions) : Bool :=
  positions.all (!·)

def union (as bs : Positions) : Positions :=
  List.zipWith (· || ·) as bs

end Positions

/-- The characters before and after each position of a text. -/
def neighboursFrom (before : Option Char) : List Char → List (Option Char × Option Char)
  | [] => [(before, none)]
  | c :: rest => (before, some c) :: neighboursFrom (some c) rest

def neighbours (text : List Char) : List (Option Char × Option Char) :=
  neighboursFrom none text

/-- Takes a step up to `count` times, but no longer than there are positions. -/
def iterate (step : Positions → Positions) : Nat → Positions → Positions
  | 0, positions => positions
  | count + 1, positions =>
      if positions.isEmpty then positions else iterate step count (step positions)

/-- The positions that up to `count` steps lead to, which is all there are as soon as a step
adds none. -/
def closure (step : Positions → Positions) : Nat → Positions → Positions
  | 0, positions => positions
  | count + 1, positions =>
      let next := positions.union (step positions)
      if next = positions then positions else closure step count next

/-- The positions where a match that starts in a set may end. -/
def ends (text : List Char) : Regex → Positions → Positions
  | .empty, starts => starts
  | .chars ranges, starts =>
      false :: List.zipWith (fun start c => start && ranges.contains c.toNat) starts text
  | .look condition, starts =>
      List.zipWith (fun start (before, after) => start && condition.holds before after) starts
        (neighbours text)
  | .seq first second, starts => ends text second (ends text first starts)
  | .alt left right, starts => (ends text left starts).union (ends text right starts)
  | .times least most body, starts =>
      let after := iterate (ends text body) least starts
      closure (ends text body)
        (match most with
          | some most => most - least
          | none => text.length + 1)
        after

/-- Whether an expression matches some part of a text. -/
def isMatch (regex : Regex) (text : List Char) : Bool :=
  !(ends text regex (List.replicate (text.length + 1) true)).isEmpty

end Remediation.Regex
