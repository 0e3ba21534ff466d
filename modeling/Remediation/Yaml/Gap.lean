import Remediation.Yaml.Cursor

/-!
The blanks and line breaks inside of a scalar that goes over several lines. Without a break they
stand for themselves; one break stands for a space, and of more breaks the first is dropped.
-/

namespace Remediation.Yaml

structure Gap where
  /-- Whether there is a line break among the blanks. -/
  broken : Bool
  /-- The blanks before the first break. -/
  blanks : List Char
  firstBreak : List Char
  otherBreaks : List Char
  deriving Repr

namespace Gap

def none : Gap := ⟨false, [], [], []⟩

/-- A break that leaves no trace, as one that is escaped. -/
def escaped : Gap := ⟨true, [], [], []⟩

/-- What the gap stands for. -/
def folded (gap : Gap) : List Char :=
  if !gap.broken then gap.blanks
  else if gap.firstBreak = ['\n'] then
    if gap.otherBreaks.isEmpty then [' '] else gap.otherBreaks
  else gap.firstBreak ++ gap.otherBreaks

/-- The gap with one more line break. -/
def withBreak (gap : Gap) (text : List Char) : Gap :=
  if gap.broken then { gap with otherBreaks := gap.otherBreaks ++ text }
  else { gap with broken := true, blanks := [], firstBreak := text }

/-- Takes blanks and line breaks. A tab may not stand before a column behind a break. Fuel of the
length of the text is enough. -/
def take (leastColumn : Nat) : Nat → Gap → Cursor → Option (Gap × Cursor)
  | 0, gap, cursor => some (gap, cursor)
  | fuel + 1, gap, cursor =>
      match cursor.peek? with
      | some c =>
          if isGap c then
            if gap.broken then
              if c = '\t' ∧ cursor.column < leastColumn then Option.none
              else take leastColumn fuel gap (cursor.skip 1)
            else take leastColumn fuel { gap with blanks := gap.blanks ++ [c] } (cursor.skip 1)
          else if isBreak c then
            let (text, cursor) := cursor.takeBreak
            take leastColumn fuel (gap.withBreak text) cursor
          else some (gap, cursor)
      | Option.none => some (gap, cursor)

end Gap

end Remediation.Yaml
