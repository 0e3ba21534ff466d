/-!
White space as the Unicode property defines it, and texts trimmed of it at both ends.
-/

namespace Remediation.Text

/-- The characters with the property White_Space. -/
def isBlank (c : Char) : Bool :=
  let n := c.toNat
  (9 ≤ n && n ≤ 13) || n == 32 || n == 0x85 || n == 0xA0 || n == 0x1680
    || (0x2000 ≤ n && n ≤ 0x200A) || n == 0x2028 || n == 0x2029 || n == 0x202F
    || n == 0x205F || n == 0x3000

def trimLeft (cs : List Char) : List Char :=
  cs.dropWhile isBlank

def trimRight (cs : List Char) : List Char :=
  (cs.reverse.dropWhile isBlank).reverse

/-- The characters without the white space at both ends. -/
def trim (cs : List Char) : List Char :=
  trimRight (trimLeft cs)

end Remediation.Text

namespace Remediation

/-- A text without the white space at its two ends. -/
def trimmed (s : String) : String :=
  String.ofList (Text.trim s.toList)

end Remediation
