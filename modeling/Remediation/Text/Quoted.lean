import Remediation.Number.Shortest
import Remediation.Text.Property

/-!
Texts in double quotes, as messages show them: what does not print is written as its code point
in hexadecimal.
-/

namespace Remediation.Text

/-- The characters that do not print: those of the categories of controls, separators and
unassigned code points, but for the space. -/
def unprintable : Ranges :=
  Ranges.unions
    [
      Category.control, Category.format, Category.privateUse, Category.lineSeparator,
      Category.paragraphSeparator, Ranges.difference Category.spaceSeparator [(32, 32)],
      Ranges.complement Property.assigned
    ]

/-- The characters that join the one before them; they are not shown on their own. -/
def joining : Ranges :=
  Ranges.unions
    [Category.enclosingMark, Category.nonspacingMark, Property.otherGraphemeExtend]

/-- A code point in hexadecimal between braces. -/
def codePointEscape (c : Char) : List Char :=
  ['\\', 'u', '\x7b'] ++ Nat.toDigits 16 c.toNat ++ ['\x7d']

def showChar (c : Char) : List Char :=
  match c with
  | '\t' => ['\\', 't']
  | '\r' => ['\\', 'r']
  | '\n' => ['\\', 'n']
  | '"' => ['\\', '"']
  | '\\' => ['\\', '\\']
  | c =>
      if c.toNat = 0 then ['\\', '0']
      else if 32 ≤ c.toNat ∧ c.toNat < 127 then [c]
      else if joining.contains c.toNat || unprintable.contains c.toNat then codePointEscape c
      else [c]

/-- A text in double quotes. -/
def shown (s : String) : String :=
  String.ofList ('"' :: s.toList.flatMap showChar ++ ['"'])

end Remediation.Text
