/-!
Labels of domain names in ASCII. The characters outside of ASCII are inserted in ascending order,
each as the number of states that a decoder passes before it; the numbers are written in digits
of base 36 whose thresholds adapt to how large the numbers are.
-/

namespace Remediation.Url.Punycode

def digit (n : Nat) : Char :=
  Char.ofNat (if n < 26 then 97 + n else 22 + n)

/-- The threshold of the digit at a place, which counts in steps of the base. -/
def threshold (place bias : Nat) : Nat :=
  if place ≤ bias then 1 else if bias + 26 ≤ place then 26 else place - bias

theorem threshold_pos (place bias : Nat) : 1 ≤ threshold place bias := by
  unfold threshold
  split
  · omega
  · split <;> omega

/-- The digits of a number from a place on. -/
def digits (bias place number : Nat) : List Char :=
  let least := threshold place bias
  if number < least then [digit number]
  else
    digit (least + (number - least) % (36 - least))
      :: digits bias (place + 36) ((number - least) / (36 - least))
termination_by number
decreasing_by
  have := threshold_pos place bias
  have := Nat.div_le_self (number - threshold place bias) (36 - threshold place bias)
  omega

/-- Divides until a number is small, and counts the divisions in steps of the base. -/
def settle (number place : Nat) : Nat × Nat :=
  if 455 < number then settle (number / 35) (place + 36) else (number, place)
termination_by number

/-- The bias after a number, of which there have been some so far. -/
def adapt (number count : Nat) (isFirst : Bool) : Nat :=
  let scaled := if isFirst then number / 700 else number / 2
  let (rest, place) := settle (scaled + scaled / count) 0
  place + 36 * rest / (rest + 38)

/-- How far an encoding has come. -/
structure Progress where
  output : List Char
  /-- The states passed since the last number was written. -/
  states : Nat
  bias : Nat
  /-- How many characters have been handled. -/
  handled : Nat

/-- Passes one character of a label in the round of a code point. -/
def step (basicCount point : Nat) (progress : Progress) (c : Char) : Progress :=
  if c.toNat < point then { progress with states := progress.states + 1 }
  else if c.toNat = point then
    {
      output := progress.output ++ digits progress.bias 36 progress.states,
      states := 0,
      bias := adapt progress.states (progress.handled + 1) (progress.handled == basicCount),
      handled := progress.handled + 1
    }
  else progress

/-- Inserts code points in ascending order; the first argument is the least one that has not been
looked at. -/
def rounds (basicCount : Nat) (label : List Char) : Nat → List Nat → Progress → Progress
  | _, [], progress => progress
  | least, point :: points, progress =>
      let skipped := (point - least) * (progress.handled + 1)
      let progress :=
        label.foldl (step basicCount point) { progress with states := progress.states + skipped }
      rounds basicCount label (point + 1) points { progress with states := progress.states + 1 }

/-- A label in ASCII. -/
def encode (label : List Char) : List Char :=
  let basic := label.filter (·.toNat < 128)
  let points := (((label.map Char.toNat).filter (128 ≤ ·)).mergeSort (· ≤ ·)).eraseDups
  let output := if basic.isEmpty then [] else basic ++ ['-']
  (rounds basic.length label 128 points ⟨output, 0, 72, basic.length⟩).output

end Remediation.Url.Punycode
