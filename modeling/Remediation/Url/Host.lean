import Remediation.Text.Lowercase
import Remediation.Text.Split
import Remediation.Url.Percent
import Remediation.Url.Punycode

/-!
The hosts of URLs: names, which are kept in lower case and in ASCII, and addresses of the fourth
and sixth version of the internet protocol, which are kept as numbers.
-/

namespace Remediation

/-- Why a text is no URL. -/
inductive UrlError where
  | emptyHost
  | invalidName
  | invalidCharacter
  | invalidPort
  | invalidIpv4
  | invalidIpv6
  | relative
  deriving DecidableEq, Repr

def UrlError.message : UrlError → String
  | .emptyHost => "empty host"
  | .invalidName => "invalid international domain name"
  | .invalidCharacter => "invalid domain character"
  | .invalidPort => "invalid port number"
  | .invalidIpv4 => "invalid IPv4 address"
  | .invalidIpv6 => "invalid IPv6 address"
  | .relative => "relative URL without a base"

namespace Url

/-- A host. The name may be empty where the scheme is none of the web. -/
inductive Host where
  | name (text : String)
  | ipv4 (address : Nat)
  | ipv6 (pieces : List Nat)
  deriving DecidableEq, Repr

/-! ### Addresses of version 4 -/

/-- A number in an address: hexadecimal behind `0x`, octal behind another zero, else decimal. -/
def ipv4Number? (cs : List Char) : Option Nat :=
  match cs with
  | [] => none
  | ['0', 'x'] | ['0', 'X'] => some 0
  | '0' :: 'x' :: rest | '0' :: 'X' :: rest => digitsIn? 16 rest
  | '0' :: c :: rest => digitsIn? 8 (c :: rest)
  | cs => digitsIn? 10 cs

/-- The parts of a name without the empty one behind a final dot. -/
def nameParts (cs : List Char) : List (List Char) :=
  let parts := Text.splitOn (· == '.') cs
  if 1 < parts.length ∧ parts.getLast? = some [] then parts.dropLast else parts

/-- Whether a name can only be an address, because its last part is a number. -/
def endsInNumber (cs : List Char) : Bool :=
  match (nameParts cs).getLast? with
  | some last => (!last.isEmpty && last.all Char.isDigit) || (ipv4Number? last).isSome
  | none => false

/-- An address of up to four numbers, of which the last one fills the bytes that are left. -/
def ipv4? (cs : List Char) : Option Nat := do
  let parts := nameParts cs
  guard (parts.length ≤ 4)
  let numbers ← parts.mapM ipv4Number?
  let last ← numbers.getLast?
  let leading := numbers.dropLast
  let room := 8 * (4 - leading.length)
  guard (leading.all (· ≤ 255) ∧ last < 1 <<< room)
  some ((leading.foldl (fun high byte => high * 256 + byte) 0) <<< room + last)

def ipv4Text (address : Nat) : String :=
  ".".intercalate ([3, 2, 1, 0].map (fun place => toString (address >>> (8 * place) % 256)))

/-! ### Addresses of version 6 -/

/-- A decimal byte without leading zeros. -/
def byte? (cs : List Char) : Option Nat := do
  guard (cs.length ≤ 3 ∧ (cs.length = 1 ∨ cs.head? ≠ some '0'))
  let n ← digitsIn? 10 cs
  guard (n ≤ 255)
  some n

/-- The pieces of four bytes in the notation of version 4. -/
def dottedPieces? (cs : List Char) : Option (List Nat) := do
  match ← (Text.splitOn (· == '.') cs).mapM byte? with
  | [a, b, c, d] => some [a * 256 + b, c * 256 + d]
  | _ => none

/-- The pieces of parts between colons. Only the last part of an address may be dotted. -/
def pieces? (mayEndDotted : Bool) : List (List Char) → Option (List Nat)
  | [] => some []
  | [part] =>
      if mayEndDotted && part.contains '.' then dottedPieces? part
      else if part.length ≤ 4 then (digitsIn? 16 part).map (fun n => [n])
      else none
  | part :: rest => do
      guard (part.length ≤ 4)
      let piece ← digitsIn? 16 part
      let others ← pieces? mayEndDotted rest
      some (piece :: others)

def side? (mayEndDotted : Bool) (cs : List Char) : Option (List Nat) :=
  if cs.isEmpty then some [] else pieces? mayEndDotted (Text.splitOn (· == ':') cs)

/-- What comes before the first two colons in a row and what comes after them. -/
def splitAtGap? : List Char → Option (List Char × List Char)
  | ':' :: ':' :: rest => some ([], rest)
  | c :: rest => (splitAtGap? rest).map (fun (before, after) => (c :: before, after))
  | [] => none

/-- An address of eight pieces, of which some that are zero may be left out once. -/
def ipv6? (cs : List Char) : Option (List Nat) := do
  match splitAtGap? cs with
  | some (before, after) =>
      let left ← side? false before
      let right ← side? true after
      guard (left.length + right.length ≤ 7)
      some (left ++ List.replicate (8 - left.length - right.length) 0 ++ right)
  | none =>
      let pieces ← pieces? true (Text.splitOn (· == ':') cs)
      guard (pieces.length = 8)
      some pieces

/-- How many pieces at the front are zero. -/
def zeroRun (pieces : List Nat) : Nat :=
  (pieces.takeWhile (· == 0)).length

/-- The longest run of zeros as its place and its length; of equal ones the first. -/
def longestZeroRun (pieces : List Nat) : Nat × Nat :=
  (List.range pieces.length).foldl (fun best place =>
    let length := zeroRun (pieces.drop place)
    if best.2 < length then (place, length) else best) (0, 0)

def ipv6Text (pieces : List Nat) : String :=
  let hex (pieces : List Nat) : String :=
    ":".intercalate (pieces.map (fun n => String.ofList (Nat.toDigits 16 n)))
  let (place, length) := longestZeroRun pieces
  if length < 2 then hex pieces
  else hex (pieces.take place) ++ "::" ++ hex (pieces.drop (place + length))

/-! ### Names -/

/-- The characters that no name has. -/
def isForbiddenInName (c : Char) : Bool :=
  c.toNat ≤ 32 || c.toNat == 127 || "%#/:<>?@[\\]^|".toList.contains c

/-- A part of a name in lower case and in ASCII. -/
def asciiLabel (label : List Char) : List Char :=
  let lowered := label.map Text.lowerChar
  if lowered.all (·.toNat < 128) then lowered
  else "xn--".toList ++ Punycode.encode lowered

/-- The host of a scheme of the web. -/
def webHost (cs : List Char) : Except UrlError Host := do
  let some decoded := Text.ofUtf8? (percentDecode cs) | .error .invalidName
  let labels := (Text.splitOn (· == '.') decoded).map asciiLabel
  let name := ['.'].intercalate labels
  if name.any isForbiddenInName then .error .invalidName
  else if name.isEmpty then .error .emptyHost
  else if endsInNumber name then
    match ipv4? name with
    | some address => .ok (.ipv4 address)
    | none => .error .invalidIpv4
  else .ok (.name (String.ofList name))

/-- The characters that no host of another scheme has. -/
def isForbiddenInHost (c : Char) : Bool :=
  [0, 9, 10, 13, 32].contains c.toNat || "#/:<>?@[\\]^|".toList.contains c

namespace Host

/-- Reads a host; the schemes of the web have rules of their own for names. -/
def parse (special : Bool) (cs : List Char) : Except UrlError Host :=
  match cs with
  | '[' :: rest =>
      if rest.getLast? = some ']' then
        match ipv6? rest.dropLast with
        | some pieces => .ok (.ipv6 pieces)
        | none => .error .invalidIpv6
      else .error .invalidIpv6
  | cs =>
      if special then webHost cs
      else if cs.any isForbiddenInHost then .error .invalidCharacter
      else .ok (.name (String.ofList (percentEncode keepsInRootless cs)))

def text : Host → String
  | .name text => text
  | .ipv4 address => ipv4Text address
  | .ipv6 pieces => "[" ++ ipv6Text pieces ++ "]"

end Host

end Url

end Remediation
