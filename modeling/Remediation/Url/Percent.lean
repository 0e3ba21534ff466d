import Remediation.Number.Radix
import Remediation.Text.Utf8

/-!
Percent-encoding. A character that may not stand for itself is written as its bytes, each a percent
sign and two hexadecimal digits; which characters may depends on the part of the URL.
-/

namespace Remediation.Url

/-- A hexadecimal digit in upper case. -/
def upperHexDigit (n : Nat) : Char :=
  Char.ofNat (if n < 10 then 48 + n else 55 + n)

/-- The escape of a byte. -/
def percentByte (byte : Nat) : List Char :=
  ['%', upperHexDigit (byte / 16), upperHexDigit (byte % 16)]

/-- The escape of a character. -/
def percentChar (c : Char) : List Char :=
  (Text.utf8Bytes c).flatMap percentByte

/-- Escapes the characters that may not stand for themselves. -/
def percentEncode (keeps : Char → Bool) (cs : List Char) : List Char :=
  cs.flatMap (fun c => if keeps c then [c] else percentChar c)

/-- The bytes that a text stands for. A percent sign without two digits stands for itself. -/
def percentDecode : List Char → List Nat
  | '%' :: a :: b :: rest =>
      match digitIn? 16 a, digitIn? 16 b with
      | some high, some low => (16 * high + low) :: percentDecode rest
      | _, _ => Text.utf8Bytes '%' ++ percentDecode (a :: b :: rest)
  | c :: rest => Text.utf8Bytes c ++ percentDecode rest
  | [] => []

/-! ### What may stand for itself -/

/-- Printable ASCII characters besides some. -/
def isPlainBut (others : String) (c : Char) : Bool :=
  32 < c.toNat && c.toNat < 127 && !others.toList.contains c

/-- The characters that mean the same with and without an escape in every part of a URL. -/
def isUnreserved (c : Char) : Bool :=
  c.isAlphanum || c == '-' || c == '_' || c == '.' || c == '~'

def keepsInUserInfo : Char → Bool :=
  isPlainBut "\"#<>?`\x7b\x7d/:;=@[\\]^|"

def keepsInPath : Char → Bool :=
  isPlainBut "\"#<>?^`\x7b\x7d"

/-- A path without segments escapes no more than controls and what is not ASCII. -/
def keepsInRootless (c : Char) : Bool :=
  32 ≤ c.toNat && c.toNat < 127

/-- Apostrophes are escaped in the queries of the schemes of the web. -/
def keepsInQuery (special : Bool) : Char → Bool :=
  isPlainBut (if special then "\"#<>'" else "\"#<>")

def keepsInFragment : Char → Bool :=
  isPlainBut "\"<>`"

/-! ### Forms -/

def keepsInForm (c : Char) : Bool :=
  c.isAlphanum || c == '*' || c == '-' || c == '.' || c == '_'

/-- A name or a value in a form, where a plus sign stands for a space. -/
def formEncode (cs : List Char) : List Char :=
  cs.flatMap (fun c => if c = ' ' then ['+'] else if keepsInForm c then [c] else percentChar c)

/-- Names and values as a form. -/
def formText (pairs : List (String × String)) : String :=
  "&".intercalate (pairs.map (fun (name, value) =>
    String.ofList (formEncode name.toList ++ '=' :: formEncode value.toList)))

end Remediation.Url
