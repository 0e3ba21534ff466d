/-!
Sets of characters as ranges of code points. The ranges of a set ascend and do not touch, which
makes union and complement single passes over them. Tables of a character standard are written
in hexadecimal, a range as its two ends joined by a hyphen and the ranges set apart by blanks,
over as many lines as a table needs.
-/

namespace Remediation

/-- A set of code points: the union of closed ranges. -/
abbrev Ranges := List (Nat × Nat)

namespace Ranges

def contains (ranges : Ranges) (codePoint : Nat) : Bool :=
  ranges.any (fun (first, last) => first ≤ codePoint && codePoint ≤ last)

/-- The greatest code point. -/
def greatest : Nat := 0x10FFFF

/-- All code points. -/
def everything : Ranges := [(0, greatest)]

/-- Adds a range, joining it with those that it overlaps or touches. -/
def add : Nat × Nat → Ranges → Ranges
  | range, [] => [range]
  | (first, last), (f, l) :: rest =>
      if last + 1 < f then (first, last) :: (f, l) :: rest
      else if l + 1 < first then (f, l) :: add (first, last) rest
      else add (min first f, max last l) rest

/-- The union of two sets, each given by ascending ranges. The fuel is the number of ranges. -/
def merge : Nat → Ranges → Ranges → Ranges
  | 0, _, _ => []
  | _ + 1, [], bs => bs
  | _ + 1, as, [] => as
  | fuel + 1, (f, l) :: as, (f', l') :: bs =>
      if l + 1 < f' then (f, l) :: merge fuel as ((f', l') :: bs)
      else if l' + 1 < f then (f', l') :: merge fuel ((f, l) :: as) bs
      else if l ≤ l' then merge fuel as ((min f f', l') :: bs)
      else merge fuel ((min f f', l) :: as) bs

def union (as bs : Ranges) : Ranges :=
  merge (as.length + bs.length + 1) as bs

/-- The code points from `start` on that are in no range. -/
def gaps (start : Nat) : Ranges → Ranges
  | [] => if start ≤ greatest then [(start, greatest)] else []
  | (first, last) :: rest =>
      if start < first then (start, first - 1) :: gaps (last + 1) rest else gaps (last + 1) rest

def complement (ranges : Ranges) : Ranges :=
  gaps 0 ranges

def intersection (as bs : Ranges) : Ranges :=
  complement (union (complement as) (complement bs))

def difference (as bs : Ranges) : Ranges :=
  intersection as (complement bs)

def symmetricDifference (as bs : Ranges) : Ranges :=
  union (difference as bs) (difference bs as)

def unions (sets : List Ranges) : Ranges :=
  sets.foldl union []

/-- The value of a hexadecimal digit, `0` for other characters. -/
def hexValue (c : Char) : Nat :=
  if '0' ≤ c ∧ c ≤ '9' then c.toNat - 48
  else if 'A' ≤ c ∧ c ≤ 'F' then c.toNat - 55
  else 0

/-- Reads a line of a table. The open range holds its first end, if that is complete, and the
digits gathered so far. -/
def readLine : Option Nat → Nat → List Char → Ranges
  | first, value, [] => [(first.getD value, value)]
  | first, value, ' ' :: rest => (first.getD value, value) :: readLine none 0 rest
  | _, value, '-' :: rest => readLine (some value) 0 rest
  | first, value, c :: rest => readLine first (value * 16 + hexValue c) rest

/-- The ranges of a table in hexadecimal, given line by line. -/
def ofHex (lines : List String) : Ranges :=
  lines.flatMap (fun line => readLine none 0 line.toList)

end Ranges

end Remediation
