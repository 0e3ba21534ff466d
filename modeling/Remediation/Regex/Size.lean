import Remediation.Regex.Basic

/-!
The size of the automaton for an expression, which is bounded. Texts are read backwards byte by
byte; each state costs `stateSize` and a choice costs four bytes more for each of its branches.
-/

namespace Remediation.Regex

/-- A range of bytes. -/
abbrev ByteRange := Nat × Nat

def stateSize : Nat := 32

/-- The number of bytes of a character. -/
def byteLength (n : Nat) : Nat :=
  if n < 0x80 then 1 else if n < 0x800 then 2 else if n < 0x10000 then 3 else 4

/-- The bytes of a code point that has `length` bytes. -/
def bytesOf (length n : Nat) : List Nat :=
  match length with
  | 1 => [n]
  | 2 => [0xC0 + n / 64, 0x80 + n % 64]
  | 3 => [0xE0 + n / 4096, 0x80 + n / 64 % 64, 0x80 + n % 64]
  | _ => [0xF0 + n / 262144, 0x80 + n / 4096 % 64, 0x80 + n / 64 % 64, 0x80 + n % 64]

/-- Cuts a range where the number of bytes changes, and leaves out the surrogates. -/
def cutAtLengths (range : Nat × Nat) : List (Nat × Nat) :=
  [(0, 0x7F), (0x80, 0x7FF), (0x800, 0xD7FF), (0xE000, 0xFFFF), (0x10000, 0x10FFFF)].filterMap
    (fun (first, last) =>
      let low := max first range.1
      let high := min last range.2
      if low ≤ high then some (low, high) else none)

/-- Cuts a range so that all but the last `places` bytes of its code points agree or are full,
and gives the sequences of byte ranges. -/
def sequences (length : Nat) : Nat → Nat → Nat → List (List ByteRange)
  | 0, low, high => [List.zip (bytesOf length low) (bytesOf length high)]
  | places + 1, low, high =>
      let unit := 1 <<< (6 * (places + 1))
      if low / unit = high / unit then sequences length places low high
      else
        let startsFull := low % unit = 0
        let endsFull := high % unit = unit - 1
        let firstFull := if startsFull then low else (low / unit + 1) * unit
        let afterFull := if endsFull then high + 1 else high / unit * unit
        (if startsFull then [] else sequences length places low (firstFull - 1))
          ++ (if firstFull < afterFull then
              [List.zip (bytesOf length firstFull) (bytesOf length (afterFull - 1))]
            else [])
          ++ (if endsFull then [] else sequences length places afterFull high)

/-- The sequences of byte ranges of a set of characters. -/
def byteSequences (ranges : Ranges) : List (List ByteRange) :=
  ranges.flatMap (fun range =>
    (cutAtLengths range).flatMap (fun (low, high) =>
      let length := byteLength low
      sequences length (length - 1) low high))

/-- The length of the common part at the front of two sequences. -/
def sharedLength : List ByteRange → List ByteRange → Nat
  | a :: as, b :: bs => if a = b then sharedLength as bs + 1 else 0
  | _, _ => 0

/-- The number of states for sequences that share their fronts with the sequence before. -/
def countStates (previous : List ByteRange) : List (List ByteRange) → Nat
  | [] => 0
  | sequence :: rest =>
      sequence.length - sharedLength previous sequence + countStates sequence rest

/-- The cost of a set of characters. -/
def charsSize (ranges : Ranges) : Nat :=
  match ranges with
  | [] => stateSize
  | [(first, last)] =>
      if first = last then stateSize * byteLength first else manySize ranges
  | ranges => manySize ranges
where
  manySize (ranges : Ranges) : Nat :=
    if ranges.all (fun (_, last) => last < 0x80) then
      if ranges.length = 1 then stateSize else stateSize + 8 * ranges.length
    else
      let all := byteSequences ranges
      stateSize * (countStates [] all + 2) + 4 * all.length

/-- The cost of an expression. -/
def size : Regex → Nat
  | .empty => stateSize
  | .chars ranges => charsSize ranges
  | .look _ => stateSize
  | .seq first second => size first + size second
  | .alt left right => size left + size right + stateSize + 8
  | .times least most body =>
      let once := size body
      match most with
      | none => once * max least 1 + 2 * stateSize
      | some most => once * most + (most - least) * (stateSize + 8)

/-- The greatest cost that is accepted. -/
def sizeLimit : Nat := 10 * 1024 * 1024

end Remediation.Regex
