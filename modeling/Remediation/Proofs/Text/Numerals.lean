/-! The texts of numbers. They are made of digits, behind a sign if the number is negative. -/

namespace Remediation

/-- The text of a natural number has digits only. -/
theorem isDigit_of_mem_toString {number : Nat} {c : Char} (member : c ∈ (toString number).toList)
    : c.isDigit = true := by
  have shown : (toString number).toList = Nat.toDigits 10 number := Nat.toList_repr
  rw [shown] at member
  exact Nat.isDigit_of_mem_toDigits (by decide) (by decide) member

/-- The text of an integer is made of digits behind an optional sign. -/
theorem toString_shape (position : Int)
    : (∃ number : Nat, position = number ∧ (toString position).toList = (toString number).toList)
      ∨ ∃ number : Nat,
          position = -number ∧ (toString position).toList = '-' :: (toString number).toList := by
  cases position with
  | ofNat number => exact .inl ⟨number, rfl, rfl⟩
  | negSucc number =>
      refine .inr ⟨number + 1, rfl, ?_⟩
      change ("-" ++ Nat.repr (number + 1)).toList = _
      rw [String.toList_append]
      rfl

/-- What the text of an integer is made of. -/
theorem isDigit_or_minus_of_mem_toString {number : Int} {c : Char}
    (member : c ∈ (toString number).toList)
    : c.isDigit = true ∨ c = '-' := by
  rcases toString_shape number with ⟨size, -, shown⟩ | ⟨size, -, shown⟩
  · rw [shown] at member
    exact .inl (isDigit_of_mem_toString member)
  · rw [shown] at member
    rcases List.mem_cons.mp member with sign | behind
    · exact .inr sign
    · exact .inl (isDigit_of_mem_toString behind)

end Remediation
