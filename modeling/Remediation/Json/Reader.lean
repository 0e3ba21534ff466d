import Remediation.Json.Basic

/-!
Reading JSON text. `readMembers` keeps the members of objects as they are written, with repeated
keys, and leaves a number beyond the range of doubles infinite; `read` hands out the canonical
value and refuses such a number. Arrays and objects may be nested 127 deep.
-/

namespace Remediation.Json

def isBlank (c : Char) : Bool :=
  c == ' ' || c == '\n' || c == '\t' || c == '\r'

def skipBlanks (cs : List Char) : List Char :=
  cs.dropWhile isBlank

/-- The value of a digit, `0` for other characters. -/
def digitValue (c : Char) : Nat := c.toNat - 48

/-- The greatest significand that a number's digits are gathered in. -/
def greatestSignificand : Nat := UInt64.size - 1

/-- Gathers digits as long as the significand stays in its range; also counts them. -/
def gather : Nat → Nat → List Char → Nat × Nat × List Char
  | significand, count, c :: rest =>
      let next := significand * 10 + digitValue c
      if c.isDigit ∧ next ≤ greatestSignificand then gather next (count + 1) rest
      else (significand, count, c :: rest)
  | significand, count, [] => (significand, count, [])

/-- `10 ^ n` as a double. -/
def tenTo (n : Nat) : Binary64 := .ofDecimal false 1 n

/-- The double `x * 10 ^ exponent`, with one rounding for each power of ten that is applied. -/
def scale : Nat → Binary64 → Int → Binary64
  | 0, _, _ => .zero
  | fuel + 1, x, exponent =>
      if exponent.natAbs ≤ 308 then
        if 0 ≤ exponent then x.mul (tenTo exponent.natAbs) else x.div (tenTo exponent.natAbs)
      else if x.equal .zero then x
      else if 0 ≤ exponent then .infinite false
      else scale fuel (x.div (tenTo 308)) (exponent + 308)

/-- The double for a significand and a decimal exponent. The significand is rounded first. -/
def floatOf (negative : Bool) (significand : Nat) (exponent : Int) : Number :=
  let x := scale 4 (.ofInt significand) exponent
  .float (if negative then x.neg else x)

/-- The greatest exponent that is taken at its value. -/
def greatestExponent : Nat := 0x7FFFFFFF

/-- Reads what follows an `e`: a sign and at least one digit. -/
def readExponent (negative : Bool) (significand : Nat) (start : Int) (cs : List Char)
    : Option (Number × List Char) :=
  let (down, cs) :=
    match cs with
    | '+' :: rest => (false, rest)
    | '-' :: rest => (true, rest)
    | cs => (false, cs)
  let digits := cs.takeWhile Char.isDigit
  let rest := cs.dropWhile Char.isDigit
  let exponent := digits.foldl (fun n c => n * 10 + digitValue c) 0
  if digits.isEmpty then none
  else if greatestExponent < exponent then
    if significand ≠ 0 ∧ down = false then some (.float (.infinite negative), rest)
    else some (floatOf negative 0 0, rest)
  else
    some
      (floatOf negative significand (if down then start - exponent else start + exponent), rest)

/-- Reads what follows the digits of a double. -/
def readTail (negative : Bool) (significand : Nat) (exponent : Int) (cs : List Char)
    : Option (Number × List Char) :=
  match cs with
  | 'e' :: rest | 'E' :: rest => readExponent negative significand exponent rest
  | cs => some (floatOf negative significand exponent, cs)

/-- Reads the digits after a decimal point; those that the significand has no room for are
dropped. -/
def readFraction (negative : Bool) (significand : Nat) (exponent : Int) (cs : List Char)
    : Option (Number × List Char) :=
  match cs with
  | c :: _ =>
      if c.isDigit then
        let (significand, count, rest) := gather significand 0 cs
        readTail negative significand (exponent - count) (rest.dropWhile Char.isDigit)
      else none
  | [] => none

/-- The number of an integer literal: an integer where 64 bits hold it, else a double. A zero
with a sign is a double. -/
def integerOf (negative : Bool) (value : Nat) : Number :=
  if negative then
    if 0 < value ∧ value ≤ 0x8000000000000000 then .int (-value) else .float (Binary64.ofInt value).neg
  else .int value

/-- Reads a number without its sign. -/
def readUnsigned (negative : Bool) (cs : List Char) : Option (Number × List Char) :=
  match cs with
  | '0' :: c :: rest =>
      if c.isDigit then none else readAfter 0 (c :: rest)
  | c :: rest =>
      if c.isDigit then
        let (significand, _, rest) := gather 0 0 (c :: rest)
        readAfter significand rest
      else none
  | [] => none
where
  readAfter (significand : Nat) (cs : List Char) : Option (Number × List Char) :=
    match cs with
    | '.' :: rest => readFraction negative significand 0 rest
    | 'e' :: rest | 'E' :: rest => readExponent negative significand 0 rest
    | cs =>
        let dropped := (cs.takeWhile Char.isDigit).length
        if dropped = 0 then some (integerOf negative significand, cs)
        else
          match cs.dropWhile Char.isDigit with
          | '.' :: rest => readFraction negative significand dropped rest
          | rest => readTail negative significand dropped rest

/-- Reads a number. -/
def readNumber (cs : List Char) : Option (Number × List Char) :=
  match cs with
  | '-' :: rest => readUnsigned true rest
  | cs => readUnsigned false cs

def hexValue? (c : Char) : Option Nat :=
  if c.isDigit then some (c.toNat - 48)
  else if 'a' ≤ c ∧ c ≤ 'f' then some (c.toNat - 87)
  else if 'A' ≤ c ∧ c ≤ 'F' then some (c.toNat - 55)
  else none

/-- Reads four hexadecimal digits. -/
def readUnit : List Char → Option (Nat × List Char)
  | a :: b :: c :: d :: rest => do
      let a ← hexValue? a
      let b ← hexValue? b
      let c ← hexValue? c
      let d ← hexValue? d
      some (((a * 16 + b) * 16 + c) * 16 + d, rest)
  | _ => none

/-- Reads what follows `\u`: a code unit, or two that form a surrogate pair. -/
def readUnicode (cs : List Char) : Option (Char × List Char) := do
  let (unit, rest) ← readUnit cs
  if 0xDC00 ≤ unit ∧ unit ≤ 0xDFFF then none
  else if 0xD800 ≤ unit ∧ unit ≤ 0xDBFF then
    match rest with
    | '\\' :: 'u' :: rest =>
        let (low, rest) ← readUnit rest
        if 0xDC00 ≤ low ∧ low ≤ 0xDFFF then
          some (Char.ofNat (0x10000 + (unit - 0xD800) * 0x400 + (low - 0xDC00)), rest)
        else none
    | _ => none
  else some (Char.ofNat unit, rest)

/-- The character that a one-letter escape stands for. -/
def simpleEscape? : Char → Option Char
  | '"' => some '"'
  | '\\' => some '\\'
  | '/' => some '/'
  | 'b' => some (Char.ofNat 8)
  | 'f' => some (Char.ofNat 12)
  | 'n' => some '\n'
  | 'r' => some '\r'
  | 't' => some '\t'
  | _ => none

/-- Reads a string after its opening quote; the characters read so far are kept in reverse. -/
def readStringFrom : Nat → List Char → List Char → Option (String × List Char)
  | 0, _, _ => none
  | fuel + 1, cs, done =>
      match cs with
      | [] => none
      | '"' :: rest => some (String.ofList done.reverse, rest)
      | '\\' :: 'u' :: rest => do
          let (c, rest) ← readUnicode rest
          readStringFrom fuel rest (c :: done)
      | '\\' :: c :: rest => do
          let c ← simpleEscape? c
          readStringFrom fuel rest (c :: done)
      | c :: rest => if c.toNat < 32 then none else readStringFrom fuel rest (c :: done)

def readString (cs : List Char) : Option (String × List Char) :=
  readStringFrom (cs.length + 1) cs []

/-- Reads the items of an array after its first opening bracket or comma. -/
def readItems (item : List Char → Option (Json × List Char))
    : Nat → List Char → List Json → Option (Json × List Char)
  | 0, _, _ => none
  | fuel + 1, cs, done => do
      let (value, rest) ← item cs
      match skipBlanks rest with
      | ',' :: rest => readItems item fuel rest (value :: done)
      | ']' :: rest => some (.array (value :: done).reverse, rest)
      | _ => none

/-- Reads the members of an object after its opening brace or a comma. -/
def readMembersFrom (item : List Char → Option (Json × List Char))
    : Nat → List Char → List (String × Json) → Option (Json × List Char)
  | 0, _, _ => none
  | fuel + 1, cs, done =>
      match skipBlanks cs with
      | '"' :: rest => do
          let (key, rest) ← readString rest
          match skipBlanks rest with
          | ':' :: rest =>
              let (value, rest) ← item rest
              match skipBlanks rest with
              | ',' :: rest => readMembersFrom item fuel rest ((key, value) :: done)
              | '\x7d' :: rest => some (.object ((key, value) :: done).reverse, rest)
              | _ => none
          | _ => none
      | _ => none

def stripWord? : List Char → List Char → Option (List Char)
  | [], cs => some cs
  | w :: ws, c :: cs => if w = c then stripWord? ws cs else none
  | _ :: _, [] => none

/-- Reads a value whose arrays and objects are nested less deep than `depth`. -/
def readValue : Nat → List Char → Option (Json × List Char)
  | depth, cs =>
      match skipBlanks cs with
      | '"' :: rest => (readString rest).map (fun (s, rest) => (.string s, rest))
      | 't' :: rest => (stripWord? ['r', 'u', 'e'] rest).map (.bool true, ·)
      | 'f' :: rest => (stripWord? ['a', 'l', 's', 'e'] rest).map (.bool false, ·)
      | 'n' :: rest => (stripWord? ['u', 'l', 'l'] rest).map (.null, ·)
      | '[' :: rest =>
          match depth with
          | 0 | 1 => none
          | depth + 1 =>
              match skipBlanks rest with
              | ']' :: rest => some (.array [], rest)
              | rest => readItems (readValue depth) rest.length rest []
      | '\x7b' :: rest =>
          match depth with
          | 0 | 1 => none
          | depth + 1 =>
              match skipBlanks rest with
              | '\x7d' :: rest => some (.object [], rest)
              | rest => readMembersFrom (readValue depth) rest.length rest []
      | cs => (readNumber cs).map (fun (n, rest) => (.number n, rest))

/-- One more than the depth to which arrays and objects may be nested. -/
def depthLimit : Nat := 128

/-- Reads a text that is one value, its members kept as they are written. -/
def readMembers (text : String) : Option Json := do
  let (json, rest) ← readValue depthLimit text.toList
  if (skipBlanks rest).isEmpty then some json else none

/-- Reads a text that is one value. -/
def read (text : String) : Option Json :=
  ((readMembers text).filter isFinite).map canonical

end Remediation.Json
