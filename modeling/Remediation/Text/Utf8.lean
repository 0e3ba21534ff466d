/-!
Characters as bytes: the encoding of Unicode that gives ASCII one byte each and every other
character two to four.
-/

namespace Remediation.Text

/-- The bytes of a character. -/
def utf8Bytes (c : Char) : List Nat :=
  let n := c.toNat
  if n < 0x80 then [n]
  else if n < 0x800 then [0xC0 + n / 0x40, 0x80 + n % 0x40]
  else if n < 0x10000 then [0xE0 + n / 0x1000, 0x80 + n / 0x40 % 0x40, 0x80 + n % 0x40]
  else
    [
      0xF0 + n / 0x40000,
      0x80 + n / 0x1000 % 0x40,
      0x80 + n / 0x40 % 0x40,
      0x80 + n % 0x40
    ]

/-- The bytes of a text. -/
def bytes (cs : List Char) : List Nat :=
  cs.flatMap utf8Bytes

/-- Whether a byte is one of a character, but not its first. -/
def isContinuation (byte : Nat) : Bool :=
  0x80 ≤ byte && byte < 0xC0

/-- Whether a place among the bytes of a text is at one of its ends or in front of a character. -/
def isBoundary (bytes : List Nat) (place : Nat) : Bool :=
  place == 0
    || match bytes[place]? with
      | some byte => !isContinuation byte
      | none => place == bytes.length

/-- Steps back from a place until a boundary is met; none if there is none down to the start. -/
def boundaryUpTo? (bytes : List Nat) : Nat → Option Nat
  | 0 => if isBoundary bytes 0 then some 0 else none
  | place + 1 =>
      if isBoundary bytes (place + 1) then some (place + 1) else boundaryUpTo? bytes place

/-- How many bytes a character takes whose first byte is given. -/
def sequenceLength? (first : Nat) : Option Nat :=
  if first < 0x80 then some 1
  else if first < 0xC2 then none
  else if first < 0xE0 then some 2
  else if first < 0xF0 then some 3
  else if first < 0xF5 then some 4
  else none

/-- The character of some bytes, if they are its encoding. -/
def ofSequence? (bytes : List Nat) : Option Char :=
  let code :=
    match bytes with
    | [a] => a
    | [a, b] => (a - 0xC0) * 0x40 + (b - 0x80)
    | [a, b, c] => (a - 0xE0) * 0x1000 + (b - 0x80) * 0x40 + (c - 0x80)
    | [a, b, c, d] =>
        (a - 0xF0) * 0x40000 + (b - 0x80) * 0x1000 + (c - 0x80) * 0x40 + (d - 0x80)
    | _ => 0
  let c := Char.ofNat code
  if utf8Bytes c = bytes then some c else none

/-- Reads bytes as characters, from the front. -/
def ofUtf8From : Nat → List Nat → Option (List Char)
  | _, [] => some []
  | 0, _ => none
  | fuel + 1, first :: rest => do
      let length ← sequenceLength? first
      let c ← ofSequence? ((first :: rest).take length)
      let others ← ofUtf8From fuel ((first :: rest).drop length)
      some (c :: others)

/-- The characters of bytes; none if the bytes are no encoding. -/
def ofUtf8? (bytes : List Nat) : Option (List Char) :=
  ofUtf8From bytes.length bytes

end Remediation.Text
