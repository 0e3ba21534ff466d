import Mathlib.Tactic.SplitIfs
import Remediation.Json.Reader

/-! The range of the numbers in a JSON text. What is read as a natural number has at most 64 bits,
for longer digits are read as a double.
-/

namespace Remediation.Json

theorem gather_le {significand : Nat} (fits : significand ≤ greatestSignificand) (count : Nat)
    (cs : List Char)
    : (gather significand count cs).1 ≤ greatestSignificand := by
  induction cs generalizing significand count with
  | nil => exact fits
  | cons c rest ih =>
      rw [gather]
      split
      · rename_i more
        exact ih more.2 (count + 1)
      · exact fits

section Doubles

variable {negative : Bool} {significand : Nat} {start : Int} {cs rest : List Char}
  {number : Number}

theorem float_of_readExponent
    (read : readExponent negative significand start cs = some (number, rest))
    : ∃ x, number = .float x := by
  unfold readExponent at read
  simp only at read
  split_ifs at read
  all_goals
    obtain ⟨rfl, -⟩ := Prod.mk.inj (Option.some.inj read)
    exact ⟨_, rfl⟩

theorem float_of_readTail (read : readTail negative significand start cs = some (number, rest))
    : ∃ x, number = .float x := by
  unfold readTail at read
  split at read
  · exact float_of_readExponent read
  · exact float_of_readExponent read
  · obtain ⟨rfl, -⟩ := Prod.mk.inj (Option.some.inj read)
    exact ⟨_, rfl⟩

theorem float_of_readFraction
    (read : readFraction negative significand start cs = some (number, rest))
    : ∃ x, number = .float x := by
  unfold readFraction at read
  split at read
  · split at read
    · exact float_of_readTail read
    · cases read
  · cases read

/-- What is not read as a double is the integer of its digits. -/
theorem float_or_integer_of_readAfter
    (read : readUnsigned.readAfter negative significand cs = some (number, rest))
    : (∃ x, number = .float x) ∨ number = integerOf negative significand := by
  unfold readUnsigned.readAfter at read
  split at read
  · exact .inl (float_of_readFraction read)
  · exact .inl (float_of_readExponent read)
  · exact .inl (float_of_readExponent read)
  · simp only at read
    split at read
    · exact .inr (Prod.mk.inj (Option.some.inj read)).1.symm
    · split at read
      · exact .inl (float_of_readFraction read)
      · exact .inl (float_of_readTail read)

end Doubles

/-- A natural number that is read has at most 64 bits. -/
theorem le_of_readNumber {cs rest : List Char} {n : Nat}
    (read : readNumber cs = some (.int n, rest))
    : n ≤ greatestSignificand := by
  have bounded {negative : Bool} {significand : Nat} {cs : List Char}
      (fits : significand ≤ greatestSignificand)
      (read : readUnsigned.readAfter negative significand cs = some (.int n, rest))
      : n ≤ greatestSignificand := by
    rcases float_or_integer_of_readAfter read with ⟨_, impossible⟩ | same
    · cases impossible
    · unfold integerOf at same
      split_ifs at same
      · rename_i minus
        have value := Number.int.inj same
        omega
      · have value := Number.int.inj same
        omega
  have unsigned {negative : Bool} {cs : List Char}
      (read : readUnsigned negative cs = some (.int n, rest))
      : n ≤ greatestSignificand := by
    unfold readUnsigned at read
    split at read
    · split at read
      · cases read
      · exact bounded (Nat.zero_le _) read
    · rename_i c rest _
      split at read
      · exact bounded (gather_le (Nat.zero_le _) 0 (c :: rest)) read
      · cases read
    · cases read
  unfold readNumber at read
  split at read
  · exact unsigned read
  · exact unsigned read

theorem array_of_readItems {item : List Char → Option (Json × List Char)} {fuel : Nat}
    {cs rest : List Char} {done : List Json} {json : Json}
    (read : readItems item fuel cs done = some (json, rest))
    : ∃ items, json = .array items := by
  induction fuel generalizing cs done with
  | zero => cases read
  | succ fuel ih =>
      rw [readItems] at read
      obtain ⟨⟨value, behind⟩, _, read⟩ := Option.bind_eq_some_iff.mp read
      simp only at read
      split at read
      · exact ih read
      · obtain ⟨rfl, -⟩ := Prod.mk.inj (Option.some.inj read)
        exact ⟨_, rfl⟩
      · cases read

/-- The members of an object are values that are read from it. -/
theorem members_of_readMembersFrom {item : List Char → Option (Json × List Char)} {fuel : Nat}
    {cs rest : List Char} {done : List (String × Json)} {json : Json}
    (read : readMembersFrom item fuel cs done = some (json, rest))
    : ∃ members,
        json = .object (done.reverse ++ members)
        ∧ ∀ member ∈ members, ∃ cs rest, item cs = some (member.2, rest) := by
  induction fuel generalizing cs done with
  | zero => cases read
  | succ fuel ih =>
      rw [readMembersFrom] at read
      split at read
      · obtain ⟨⟨key, behind⟩, _, read⟩ := Option.bind_eq_some_iff.mp read
        simp only at read
        split at read
        · obtain ⟨⟨value, behind⟩, itemRead, read⟩ := Option.bind_eq_some_iff.mp read
          simp only at read
          split at read
          · obtain ⟨members, same, others⟩ := ih read
            refine ⟨(key, value) :: members, ?_, ?_⟩
            · rw [same, List.reverse_cons, List.append_assoc]
              rfl
            · intro member inside
              rcases List.mem_cons.mp inside with rfl | later
              · exact ⟨_, _, itemRead⟩
              · exact others member later
          · obtain ⟨rfl, -⟩ := Prod.mk.inj (Option.some.inj read)
            refine ⟨[(key, value)], ?_, ?_⟩
            · rw [List.reverse_cons]
            · intro member inside
              rw [List.mem_singleton.mp inside]
              exact ⟨_, _, itemRead⟩
          · cases read
        · cases read
      · cases read

/-- What a value was read from: a number from its digits, an object from its members. -/
theorem parts_of_readValue {depth : Nat} {cs rest : List Char} {json : Json}
    (read : readValue depth cs = some (json, rest))
    : (∀ number, json = .number number → ∃ cs, readNumber cs = some (number, rest))
      ∧ ∀ members,
          json = .object members →
            ∀ member ∈ members,
              ∃ cs rest, readValue (depth - 1) cs = some (member.2, rest) := by
  rw [readValue] at read
  split at read
  · obtain ⟨⟨text, _⟩, _, same⟩ := Option.map_eq_some_iff.mp read
    cases same
    exact ⟨nofun, nofun⟩
  · obtain ⟨_, _, same⟩ := Option.map_eq_some_iff.mp read
    cases same
    exact ⟨nofun, nofun⟩
  · obtain ⟨_, _, same⟩ := Option.map_eq_some_iff.mp read
    cases same
    exact ⟨nofun, nofun⟩
  · obtain ⟨_, _, same⟩ := Option.map_eq_some_iff.mp read
    cases same
    exact ⟨nofun, nofun⟩
  · split at read
    · cases read
    · cases read
    · split at read
      · cases read
        exact ⟨nofun, nofun⟩
      · obtain ⟨items, rfl⟩ := array_of_readItems read
        exact ⟨nofun, nofun⟩
  · split at read
    · cases read
    · cases read
    · split at read
      · cases read
        refine ⟨nofun, fun members same member inside => ?_⟩
        cases same
        cases inside
      · obtain ⟨found, rfl, inside⟩ := members_of_readMembersFrom read
        refine ⟨nofun, fun members same member => ?_⟩
        cases same
        exact inside member
  · obtain ⟨⟨number, _⟩, found, same⟩ := Option.map_eq_some_iff.mp read
    cases same
    refine ⟨fun other same => ?_, nofun⟩
    cases same
    exact ⟨_, found⟩

/-- A natural number in an object that is read has at most 64 bits. -/
theorem le_of_readMembers {source : String} {members : List (String × Json)} {key : String}
    {n : Nat} (read : readMembers source = some (.object members))
    (member : (key, .ofNat n) ∈ members)
    : n ≤ greatestSignificand := by
  obtain ⟨⟨json, rest⟩, whole, read⟩ := Option.bind_eq_some_iff.mp read
  simp only at read
  split at read
  · cases read
    obtain ⟨_, _, value⟩ := (parts_of_readValue whole).2 members rfl _ member
    obtain ⟨_, number⟩ := (parts_of_readValue value).1 _ rfl
    exact le_of_readNumber number
  · cases read

end Remediation.Json
