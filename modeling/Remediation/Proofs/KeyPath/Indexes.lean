import Remediation.Proofs.KeyPath.Scanning
import Remediation.Proofs.Text.Numerals
import Remediation.Text.Blank

/-! Indexes of key paths. An integer of 64 bits is read back from its digits and its sign, and
neither of them means anything to the scanners.
-/

namespace Remediation.KeyPath

/-- The digits of a number have its value. -/
theorem digits?_toString (number : Nat) : digits? (toString number).toList = some number := by
  have shown : (toString number).toList = Nat.toDigits 10 number := Nat.toList_repr
  have digits : (Nat.toDigits 10 number).all Char.isDigit = true :=
    List.all_eq_true.mpr (fun c member =>
      Nat.isDigit_of_mem_toDigits (by decide) (by decide) member)
  have filled : (Nat.toDigits 10 number).isEmpty = false :=
    List.isEmpty_eq_false_iff.mpr Nat.toDigits_ne_nil
  have value (cs : List Char) (start : Nat)
      : cs.foldl (fun n c => n * 10 + Json.digitValue c) start = Nat.ofDigitChars 10 cs start := by
    induction cs generalizing start with
    | nil => rfl
    | cons c rest ih =>
        rw [List.foldl_cons, ih, Nat.ofDigitChars_cons, Nat.mul_comm start]
        rfl
  rw [shown, digits?, filled, digits, value, Nat.ofDigitChars_toDigits (by decide) (by decide)]
  rfl

/-- An integer that 64 bits hold. -/
def in64Bits (value : Int) : Option Int :=
  if -0x8000000000000000 ≤ value ∧ value < 0x8000000000000000 then some value else none

theorem in64Bits_eq {value : Int} (least : -0x8000000000000000 ≤ value)
    (greatest : value < 0x8000000000000000)
    : in64Bits value = some value :=
  if_pos ⟨least, greatest⟩

theorem integer?_unsigned {first : Char} {rest : List Char} (noMinus : first ≠ '-')
    (noPlus : first ≠ '+')
    : integer? (first :: rest) = ((digits? (first :: rest)).map Int.ofNat).bind in64Bits := by
  simp only [integer?, List.cons.injEq, noMinus, noPlus, false_and, imp_self, implies_true]
  rfl

theorem integer?_minus (rest : List Char)
    : integer? ('-' :: rest)
      = ((digits? rest).map (fun number : Nat => -(number : Int))).bind in64Bits := by
  simp only [integer?]
  cases digits? rest with
  | none => rfl
  | some number => rfl

/-- An integer of 64 bits is read back from its text. -/
theorem integer?_toString {position : Int} (least : -0x8000000000000000 ≤ position)
    (greatest : position < 0x8000000000000000)
    : integer? (toString position).toList = some position := by
  rcases toString_shape position with ⟨number, rfl, shown⟩ | ⟨number, rfl, shown⟩
  · have value := digits?_toString number
    rw [shown]
    cases digits : (toString number).toList with
    | nil =>
        rw [digits] at value
        cases value
    | cons first rest =>
        have member : first ∈ (toString number).toList := by
          rw [digits]
          exact List.mem_cons_self
        have digit := isDigit_of_mem_toString member
        have noMinus : first ≠ '-' := by
          rintro rfl
          exact absurd digit (by decide)
        have noPlus : first ≠ '+' := by
          rintro rfl
          exact absurd digit (by decide)
        rw [digits] at value
        rw [integer?_unsigned noMinus noPlus, value, Option.map_some, Option.bind_some,
          Int.ofNat_eq_natCast, in64Bits_eq least greatest]
  · rw [shown, integer?_minus, digits?_toString, Option.map_some, Option.bind_some,
      in64Bits_eq least greatest]

theorem integer?_plus (rest : List Char)
    : integer? ('+' :: rest) = ((digits? rest).map Int.ofNat).bind in64Bits := rfl

theorem isDigit_of_digits? {cs : List Char} {number : Nat} (read : digits? cs = some number)
    {c : Char} (member : c ∈ cs)
    : c.isDigit = true := by
  unfold digits? at read
  split at read
  · cases read
  · rename_i filled
    simp only [Bool.or_eq_true, Bool.not_eq_true', not_or, Bool.not_eq_false] at filled
    exact List.all_eq_true.mp filled.2 c member

/-- An integer is read from digits behind an optional sign. -/
theorem isDigit_or_sign_of_integer? {cs : List Char} {position : Int}
    (read : integer? cs = some position) {c : Char} (member : c ∈ cs)
    : c.isDigit = true ∨ c = '-' ∨ c = '+' := by
  cases cs with
  | nil => cases member
  | cons first rest =>
      by_cases minus : first = '-'
      · subst minus
        rw [integer?_minus] at read
        obtain ⟨value, found, -⟩ := Option.bind_eq_some_iff.mp read
        obtain ⟨number, digits, -⟩ := Option.map_eq_some_iff.mp found
        rcases List.mem_cons.mp member with rfl | behind
        · exact .inr (.inl rfl)
        · exact .inl (isDigit_of_digits? digits behind)
      · by_cases plus : first = '+'
        · subst plus
          rw [integer?_plus] at read
          obtain ⟨value, found, -⟩ := Option.bind_eq_some_iff.mp read
          obtain ⟨number, digits, -⟩ := Option.map_eq_some_iff.mp found
          rcases List.mem_cons.mp member with rfl | behind
          · exact .inr (.inr rfl)
          · exact .inl (isDigit_of_digits? digits behind)
        · rw [integer?_unsigned minus plus] at read
          obtain ⟨value, found, -⟩ := Option.bind_eq_some_iff.mp read
          obtain ⟨number, digits, -⟩ := Option.map_eq_some_iff.mp found
          exact .inl (isDigit_of_digits? digits member)

/-- Digits mean nothing to the scanners and are visible. -/
theorem plain_of_isDigit {c : Char} (digit : c.isDigit = true)
    : isOrdinary c = true ∧ isSign c = false ∧ Text.isBlank c = false := by
  have other {d : Char} (noDigit : d.isDigit = false) : c ≠ d := by
    rintro rfl
    rw [noDigit] at digit
    cases digit
  have range : 48 ≤ c.toNat ∧ c.toNat ≤ 57 := by
    simp only [Char.isDigit, Bool.and_eq_true, decide_eq_true_eq] at digit
    exact ⟨UInt32.le_iff_toNat_le.mp digit.1, UInt32.le_iff_toNat_le.mp digit.2⟩
  refine ⟨?_, ?_, ?_⟩
  · simp [isOrdinary, isQuote, other]
  · simp [isSign, other]
  · simp [Text.isBlank]
    omega

theorem plain_of_mem_toString {position : Int} {c : Char}
    (member : c ∈ (toString position).toList)
    : isOrdinary c = true ∧ isSign c = false ∧ Text.isBlank c = false := by
  rcases isDigit_or_minus_of_mem_toString member with digit | rfl
  · exact plain_of_isDigit digit
  · decide

end Remediation.KeyPath
