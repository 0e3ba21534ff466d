import Remediation.Text.Utf8

/-! Texts as bytes and back. The first byte of a character tells how many there are, so that
characters are read one after the other and the bytes of a text stand for that text only.
-/

namespace Remediation.Text

/-- No code point is beyond the last one of Unicode. -/
theorem toNat_lt (c : Char) : c.toNat < 0x110000 := by
  rcases c.valid with small | ⟨_, large⟩
  · exact Nat.lt_trans small (by decide)
  · exact large

/-- What holds of all ASCII codes holds of every ASCII character. -/
theorem of_ascii {p : Char → Prop} (codes : ∀ n < 128, p (Char.ofNat n)) {c : Char}
    (ascii : c.toNat < 128)
    : p c := by
  have held := codes c.toNat ascii
  rwa [Char.ofNat_toNat] at held

/-- Bytes are less than 256. -/
theorem lt_of_mem_utf8Bytes {c : Char} {byte : Nat} (member : byte ∈ utf8Bytes c) : byte < 256 := by
  have bound := toNat_lt c
  unfold utf8Bytes at member
  simp only at member
  split at member
  · simp only [List.mem_cons, List.not_mem_nil, or_false] at member
    omega
  · split at member
    · simp only [List.mem_cons, List.not_mem_nil, or_false] at member
      omega
    · split at member
      · simp only [List.mem_cons, List.not_mem_nil, or_false] at member
        omega
      · simp only [List.mem_cons, List.not_mem_nil, or_false] at member
        omega

/-- A byte of ASCII stands for itself only. -/
theorem eq_of_mem_utf8Bytes {c : Char} {byte : Nat} (member : byte ∈ utf8Bytes c)
    (ascii : byte < 0x80)
    : c.toNat = byte := by
  unfold utf8Bytes at member
  simp only at member
  split at member
  · exact (List.mem_singleton.mp member).symm
  · split at member
    · simp only [List.mem_cons, List.not_mem_nil, or_false] at member
      omega
    · split at member
      · simp only [List.mem_cons, List.not_mem_nil, or_false] at member
        omega
      · simp only [List.mem_cons, List.not_mem_nil, or_false] at member
        omega

/-- A character has bytes, and the first one tells how many. -/
theorem utf8Bytes_starts (c : Char)
    : ∃ first rest,
        utf8Bytes c = first :: rest ∧ sequenceLength? first = some (rest.length + 1) := by
  have bound := toNat_lt c
  unfold utf8Bytes
  simp only
  split
  · exact ⟨_, _, rfl, by simp only [sequenceLength?]; rw [if_pos (by omega)]; rfl⟩
  · split
    · refine ⟨_, _, rfl, ?_⟩
      simp only [sequenceLength?]
      rw [if_neg (by omega), if_neg (by omega), if_pos (by omega)]
      rfl
    · split
      · refine ⟨_, _, rfl, ?_⟩
        simp only [sequenceLength?]
        rw [if_neg (by omega), if_neg (by omega), if_neg (by omega), if_pos (by omega)]
        rfl
      · refine ⟨_, _, rfl, ?_⟩
        simp only [sequenceLength?]
        rw [if_neg (by omega), if_neg (by omega), if_neg (by omega), if_neg (by omega),
          if_pos (by omega)]
        rfl

/-- The bytes of a character are read as that character. Witness: the code that they are read as is
the one that they were made of. -/
theorem ofSequence?_utf8Bytes (c : Char) : ofSequence? (utf8Bytes c) = some c := by
  have bound := toNat_lt c
  have written : utf8Bytes c = utf8Bytes c := rfl
  conv at written => rhs; unfold utf8Bytes
  simp only at written
  split at written
  · rw [written]
    simp only [ofSequence?]
    rw [Char.ofNat_toNat, if_pos written]
  · split at written
    · have code
          : (0xC0 + c.toNat / 0x40 - 0xC0) * 0x40 + (0x80 + c.toNat % 0x40 - 0x80) = c.toNat := by
        omega
      rw [written]
      simp only [ofSequence?]
      rw [code, Char.ofNat_toNat, if_pos written]
    · split at written
      · have code
            : (0xE0 + c.toNat / 0x1000 - 0xE0) * 0x1000
                + (0x80 + c.toNat / 0x40 % 0x40 - 0x80) * 0x40 + (0x80 + c.toNat % 0x40 - 0x80)
              = c.toNat := by
          omega
        rw [written]
        simp only [ofSequence?]
        rw [code, Char.ofNat_toNat, if_pos written]
      · have code
            : (0xF0 + c.toNat / 0x40000 - 0xF0) * 0x40000
                + (0x80 + c.toNat / 0x1000 % 0x40 - 0x80) * 0x1000
                + (0x80 + c.toNat / 0x40 % 0x40 - 0x80) * 0x40 + (0x80 + c.toNat % 0x40 - 0x80)
              = c.toNat := by
          omega
        rw [written]
        simp only [ofSequence?]
        rw [code, Char.ofNat_toNat, if_pos written]

/-- Reading the bytes of a text with enough fuel gives the text. Witness: induction on the text;
each round takes the bytes of its first character. -/
theorem ofUtf8From_bytes {fuel : Nat} {cs : List Char} (enough : (bytes cs).length ≤ fuel)
    : ofUtf8From fuel (bytes cs) = some cs := by
  induction cs generalizing fuel with
  | nil => rw [bytes, List.flatMap_nil, ofUtf8From]
  | cons c others ih =>
      obtain ⟨first, rest, written, length⟩ := utf8Bytes_starts c
      have whole : bytes (c :: others) = first :: (rest ++ bytes others) := by
        rw [bytes, List.flatMap_cons, written]
        rfl
      rw [whole] at enough ⊢
      cases fuel with
      | zero => cases enough
      | succ fuel =>
          have front
              : (first :: (rest ++ bytes others)).take (rest.length + 1) = first :: rest := by
            simp
          have back : (first :: (rest ++ bytes others)).drop (rest.length + 1) = bytes others := by
            simp
          have fewer : (bytes others).length ≤ fuel := by
            simp only [List.length_cons, List.length_append] at enough
            omega
          simp only [ofUtf8From, length, Option.bind_eq_bind, Option.bind_some, front, back,
            ← written, ofSequence?_utf8Bytes, ih fewer]

/-- Reading the bytes of a text gives the text. -/
theorem ofUtf8?_bytes (cs : List Char) : ofUtf8? (bytes cs) = some cs :=
  ofUtf8From_bytes (Nat.le_refl _)

theorem utf8Bytes_of_ofSequence? {bytes : List Nat} {c : Char} (read : ofSequence? bytes = some c)
    : utf8Bytes c = bytes := by
  unfold ofSequence? at read
  simp only [Option.ite_none_right_eq_some] at read
  obtain ⟨written, same⟩ := read
  rwa [Option.some.inj same] at written

theorem bytes_of_ofUtf8From {fuel : Nat} {read : List Nat} {cs : List Char}
    (text : ofUtf8From fuel read = some cs)
    : read = bytes cs := by
  induction fuel generalizing read cs with
  | zero =>
      cases read with
      | nil =>
          cases text
          rfl
      | cons first rest => cases text
  | succ fuel ih =>
      cases read with
      | nil =>
          cases text
          rfl
      | cons first rest =>
          rw [ofUtf8From] at text
          obtain ⟨length, _, text⟩ := Option.bind_eq_some_iff.mp text
          obtain ⟨c, here, text⟩ := Option.bind_eq_some_iff.mp text
          obtain ⟨others, later, text⟩ := Option.bind_eq_some_iff.mp text
          cases text
          have whole := (first :: rest).take_append_drop length
          rw [← utf8Bytes_of_ofSequence? here, ih later] at whole
          exact whole.symm

/-- Bytes that are read as a text are the bytes of that text. -/
theorem bytes_of_ofUtf8? {read : List Nat} {cs : List Char} (text : ofUtf8? read = some cs)
    : read = bytes cs :=
  bytes_of_ofUtf8From text

end Remediation.Text
