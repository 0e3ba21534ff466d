/-!
Natural numbers written as digits in a base up to 16.
-/

namespace Remediation

/-- The value of a digit in a base up to 16. -/
def digitIn? (base : Nat) (c : Char) : Option Nat :=
  let value :=
    if c.isDigit then c.toNat - 48
    else if 'a' ≤ c ∧ c ≤ 'f' then c.toNat - 87
    else if 'A' ≤ c ∧ c ≤ 'F' then c.toNat - 55
    else 99
  if value < base then some value else none

/-- The value of digits in a base; none without digits or with another character. -/
def digitsIn? (base : Nat) (cs : List Char) : Option Nat :=
  if cs.isEmpty then none
  else cs.foldlM (fun n c => (digitIn? base c).map (n * base + ·)) 0

end Remediation
