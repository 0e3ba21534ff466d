import Remediation.Proofs.Text.Utf8
import Remediation.Url.Reader

/-! Escaped texts. What is escaped is read back as the bytes that it was made of, an escaped text
has none of the characters that mean something in a URL, and the only ones that a path takes for dot
segments are the dot segments themselves.
-/

namespace Remediation.Url

-----------------------------------------------------------------------------------------
-- Escaping and reading back
-----------------------------------------------------------------------------------------

theorem digitIn?_upperHexDigit {n : Nat} (small : n < 16)
    : digitIn? 16 (upperHexDigit n) = some n := by
  have all : ∀ n < 16, digitIn? 16 (upperHexDigit n) = some n := by decide
  exact all n small

theorem isUnreserved_upperHexDigit {n : Nat} (small : n < 16)
    : isUnreserved (upperHexDigit n) = true := by
  have all : ∀ n < 16, isUnreserved (upperHexDigit n) = true := by decide
  exact all n small

/-- The digits of a dot. -/
theorem eq_dot_of_digits {byte : Nat} (small : byte < 256) (high : upperHexDigit (byte / 16) = '2')
    (low : upperHexDigit (byte % 16) = 'e' ∨ upperHexDigit (byte % 16) = 'E')
    : byte = '.'.toNat := by
  have highs : ∀ n < 16, upperHexDigit n = '2' → n = 2 := by decide
  have lows : ∀ n < 16, upperHexDigit n = 'e' ∨ upperHexDigit n = 'E' → n = 14 := by decide
  have two : byte / 16 = 2 := highs _ (by omega) high
  have fourteen : byte % 16 = 14 := lows _ (by omega) low
  have dot : '.'.toNat = 46 := rfl
  omega

/-- An escaped byte is read back. -/
theorem percentDecode_percentByte {byte : Nat} (small : byte < 256) (rest : List Char)
    : percentDecode (percentByte byte ++ rest) = byte :: percentDecode rest := by
  have whole : 16 * (byte / 16) + byte % 16 = byte := Nat.div_add_mod byte 16
  simp only [percentByte, List.cons_append, List.nil_append, percentDecode,
    digitIn?_upperHexDigit (show byte / 16 < 16 by omega),
    digitIn?_upperHexDigit (show byte % 16 < 16 by omega), whole]

/-- An escaped character is read back as its bytes. -/
theorem percentDecode_percentChar (c : Char) (rest : List Char)
    : percentDecode (percentChar c ++ rest) = Text.utf8Bytes c ++ percentDecode rest := by
  have small : ∀ byte ∈ Text.utf8Bytes c, byte < 256 := fun _ => Text.lt_of_mem_utf8Bytes
  unfold percentChar
  generalize Text.utf8Bytes c = bytes at small ⊢
  induction bytes with
  | nil => rfl
  | cons byte others ih =>
      rw [List.flatMap_cons, List.append_assoc,
        percentDecode_percentByte (small byte List.mem_cons_self),
        ih (fun other member => small other (List.mem_cons_of_mem _ member))]
      rfl

/-- A character that starts no escape stands for itself. -/
theorem percentDecode_cons {c : Char} (plain : c ≠ '%') (rest : List Char)
    : percentDecode (c :: rest) = Text.utf8Bytes c ++ percentDecode rest := by
  rw [percentDecode]
  intro a b others same
  exact absurd same plain

/-- Whatever is escaped besides percent signs, reading back gives the bytes of the text. -/
theorem percentDecode_percentEncode {keeps : Char → Bool} (escapes : keeps '%' = false)
    (cs : List Char)
    : percentDecode (percentEncode keeps cs) = Text.bytes cs := by
  induction cs with
  | nil => rfl
  | cons c rest ih =>
      unfold percentEncode Text.bytes at ih ⊢
      rw [List.flatMap_cons, List.flatMap_cons, ← ih]
      split
      · rename_i kept
        have plain : c ≠ '%' := by
          rintro rfl
          rw [escapes] at kept
          cases kept
        exact percentDecode_cons plain _
      · exact percentDecode_percentChar c _

/-- A text whose characters may all stand for themselves is not changed. -/
theorem percentEncode_of_kept {keeps : Char → Bool} {cs : List Char}
    (kept : ∀ c ∈ cs, keeps c = true)
    : percentEncode keeps cs = cs := by
  unfold percentEncode
  induction cs with
  | nil => rfl
  | cons c rest ih =>
      rw [List.flatMap_cons, if_pos (kept c List.mem_cons_self),
        ih (fun other member => kept other (List.mem_cons_of_mem _ member))]
      rfl

-----------------------------------------------------------------------------------------
-- The characters of an escaped text
-----------------------------------------------------------------------------------------

/-- The text that stands for an identity in the path of a URL. -/
def escaped (cs : List Char) : List Char :=
  percentEncode isUnreserved cs

/-- An escaped text has characters that mean nothing in a URL, and percent signs. -/
theorem of_mem_escaped {cs : List Char} {c : Char} (member : c ∈ escaped cs)
    : isUnreserved c = true ∨ c = '%' := by
  obtain ⟨original, _, inside⟩ := List.mem_flatMap.mp member
  split at inside
  · rename_i kept
    rw [List.mem_singleton] at inside
    exact .inl (inside ▸ kept)
  · obtain ⟨byte, written, inside⟩ := List.mem_flatMap.mp inside
    have small : byte < 256 := Text.lt_of_mem_utf8Bytes written
    simp only [percentByte, List.mem_cons, List.not_mem_nil, or_false] at inside
    rcases inside with rfl | rfl | rfl
    · exact .inr rfl
    · exact .inl (isUnreserved_upperHexDigit (by omega))
    · exact .inl (isUnreserved_upperHexDigit (by omega))

/-- The escape of a character starts with a percent sign. -/
theorem percentChar_starts (c : Char)
    : ∃ byte rest,
        byte ∈ Text.utf8Bytes c ∧ percentChar c
          = '%' :: upperHexDigit (byte / 16) :: upperHexDigit (byte % 16) :: rest := by
  obtain ⟨first, rest, written, _⟩ := Text.utf8Bytes_starts c
  refine ⟨first, rest.flatMap percentByte, by rw [written]; exact List.mem_cons_self, ?_⟩
  rw [percentChar, written]
  rfl

theorem escaped_ne_nil {cs : List Char} (some : cs ≠ []) : escaped cs ≠ [] := by
  cases cs with
  | nil => exact absurd rfl some
  | cons c rest =>
      unfold escaped percentEncode
      rw [List.flatMap_cons]
      split
      · exact List.cons_ne_nil _ _
      · obtain ⟨_, _, _, starts⟩ := percentChar_starts c
        rw [starts]
        exact List.cons_ne_nil _ _

-----------------------------------------------------------------------------------------
-- Dot segments
-----------------------------------------------------------------------------------------

/-- Only a dot is escaped as a dot: the percent sign of any other character stays in place. -/
theorem unescapeDots_percentChar {c : Char} (noDot : c ≠ '.') (rest : List Char)
    : ∃ others, unescapeDots (percentChar c ++ rest) = '%' :: others := by
  obtain ⟨byte, others, member, starts⟩ := percentChar_starts c
  have small : byte < 256 := Text.lt_of_mem_utf8Bytes member
  rw [starts]
  simp only [List.cons_append]
  by_cases high : upperHexDigit (byte / 16) = '2'
  · have low : ¬ (upperHexDigit (byte % 16) = 'e' ∨ upperHexDigit (byte % 16) = 'E') := by
      intro low
      have dot : byte = '.'.toNat := eq_dot_of_digits small high low
      have same : c.toNat = byte := Text.eq_of_mem_utf8Bytes member (by rw [dot]; decide)
      exact noDot (Char.toNat_inj.mp (same.trans dot))
    rw [high, unescapeDots, if_neg low]
    exact ⟨_, rfl⟩
  · rw [unescapeDots]
    · exact ⟨_, rfl⟩
    · intro _ _ _ same
      exact absurd (List.cons.inj same).1 high

/-- An escaped text is taken for dots only if it is these dots. Witness: induction on the text. -/
theorem eq_dots_of_unescapeDots {cs : List Char} {n : Nat}
    (dots : unescapeDots (escaped cs) = List.replicate n '.')
    : cs = List.replicate n '.' := by
  induction cs generalizing n with
  | nil => exact dots
  | cons c rest ih =>
      rw [escaped, percentEncode, List.flatMap_cons] at dots
      split at dots
      · rename_i kept
        have plain : c ≠ '%' := by
          rintro rfl
          cases kept
        rw [List.singleton_append, unescapeDots] at dots
        · cases n with
          | zero => cases dots
          | succ n =>
              rw [List.replicate_succ] at dots ⊢
              obtain ⟨dot, others⟩ := List.cons.inj dots
              rw [dot, ih others]
        · intro _ _ same
          exact absurd same plain
      · rename_i escapes
        have noDot : c ≠ '.' := by
          rintro rfl
          exact escapes rfl
        obtain ⟨others, starts⟩ := unescapeDots_percentChar noDot
          (List.flatMap (fun c => if isUnreserved c = true then [c] else percentChar c) rest)
        rw [starts] at dots
        cases n with
        | zero => cases dots
        | succ n =>
            rw [List.replicate_succ] at dots
            cases dots

theorem isSingleDot_escaped {cs : List Char} (noDot : cs ≠ ['.'])
    : isSingleDot (escaped cs) = false := by
  rw [isSingleDot, beq_eq_false_iff_ne]
  exact fun dots => noDot (eq_dots_of_unescapeDots (n := 1) dots)

theorem isDoubleDot_escaped {cs : List Char} (noDots : cs ≠ ['.', '.'])
    : isDoubleDot (escaped cs) = false := by
  rw [isDoubleDot, beq_eq_false_iff_ne]
  exact fun dots => noDots (eq_dots_of_unescapeDots (n := 2) dots)

end Remediation.Url
