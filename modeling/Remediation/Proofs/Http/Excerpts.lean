import Remediation.Http.Excerpt
import Remediation.Proofs.Text.Numerals
import Remediation.Proofs.Text.Boundaries

/-! Excerpts of texts. They have printable characters of ASCII only, and of a text that is too long
they show what there is of them in its longest front that fits, and how long the text is.
-/

namespace Remediation.Http

open Text

-----------------------------------------------------------------------------------------
-- What is printable
-----------------------------------------------------------------------------------------

/-- The characters of ASCII that leave a mark, and the blank. -/
def isPrintable (c : Char) : Bool :=
  ' ' ≤ c ∧ c ≤ '~'

theorem isPrintableAscii_eq : isPrintableAscii = isPrintable := by
  funext c
  have blank : ' ' ≤ c ↔ 32 ≤ c.toNat := Iff.rfl
  have tilde : c ≤ '~' ↔ c.toNat ≤ 126 := Iff.rfl
  rw [isPrintable, isPrintableAscii, Bool.eq_iff_iff, Bool.and_eq_true, decide_eq_true_eq,
    decide_eq_true_eq, decide_eq_true_eq, blank, tilde, Nat.lt_succ_iff]

theorem isPrintable_of_isDigit {c : Char} (digit : c.isDigit = true) : isPrintable c = true := by
  simp only [Char.isDigit, Bool.and_eq_true, decide_eq_true_eq] at digit
  have zero : 48 ≤ c.toNat := digit.1
  have nine : c.toNat ≤ 57 := digit.2
  rw [← isPrintableAscii_eq, isPrintableAscii, Bool.and_eq_true, decide_eq_true_eq,
    decide_eq_true_eq]
  omega

/-- What an excerpt says of a text that is cut. -/
def note (total : Nat) : String :=
  s!"... [truncated, {total} bytes total]"

/-- All of a note is printable. -/
theorem filter_note (total : Nat)
    : (note total).toList.filter isPrintable = (note total).toList := by
  have shown
      : (note total).toList
        = "... [truncated, ".toList ++ (toString total).toList ++ " bytes total]".toList := by
    rw [← String.toList_append, ← String.toList_append]
    rfl
  have digits : (toString total).toList.filter isPrintable = (toString total).toList :=
    List.filter_eq_self.mpr fun c member =>
      isPrintable_of_isDigit (isDigit_of_mem_toString member)
  rw [shown, List.filter_append, List.filter_append, digits]
  rfl

-----------------------------------------------------------------------------------------
-- Short and long texts
-----------------------------------------------------------------------------------------

/-- Of a text that fits, all is shown that is printable. -/
theorem excerpt_short {body : String} (short : (bytes body.toList).length ≤ 200)
    : excerpt body = String.ofList (body.toList.filter isPrintable) := by
  have fits : (bytes body.toList).length ≤ excerptBytes := short
  simp only [excerpt, if_pos fits, isPrintableAscii_eq]

/-- The characters up to the boundary that a search backwards meets are the longest front. -/
theorem front?_eq {cs front : List Char} {place : Nat} (within : place ≤ (bytes cs).length)
    (isLongest : IsLongestFront cs place front)
    : front? (bytes cs) place = some front := by
  obtain ⟨other, isLongestToo, found, _⟩ := exists_boundaryUpTo? within
  obtain rfl := isLongest.unique isLongestToo
  obtain ⟨rest, rfl⟩ := isLongest.starts
  have cut : (bytes (front ++ rest)).take (bytes front).length = bytes front := by
    rw [bytes_append, List.take_left]
  simp only [front?, found, Option.bind_eq_bind, Option.bind_some, cut, ofUtf8?_bytes]

/-- Of a text that does not fit, all is shown that is printable in its longest front, and the note.
-/
theorem excerpt_long {body : String} {front : List Char}
    (long : 200 < (bytes body.toList).length)
    (isLongest : IsLongestFront body.toList 200 front)
    : excerpt body
      = String.ofList (front.filter isPrintable) ++ note (bytes body.toList).length := by
  have exceeds : ¬(bytes body.toList).length ≤ excerptBytes := Nat.not_le.mpr long
  have shown : front? (bytes body.toList) excerptBytes = some front :=
    front?_eq (Nat.le_of_lt long) isLongest
  have kept := filter_note (bytes body.toList).length
  unfold note at kept ⊢
  simp only [excerpt, if_neg exceeds, shown, Option.getD_some, isPrintableAscii_eq,
    List.filter_append, String.ofList_append, kept, String.ofList_toList]

/-- An excerpt has printable characters only. A text of up to 200 bytes is shown without its other
characters. Of a longer one this is done with the longest front of up to 200 bytes, and a note on
the length follows; the search for the end of the front always comes to an end, after three steps at
most, and the bytes in front of it are read as characters. What is behind the first 200 bytes makes
no difference but through the length.
-/
theorem excerpt_front (body : String)
    : (∀ c ∈ (excerpt body).toList, ' ' ≤ c ∧ c ≤ '~')
      ∧ ((bytes body.toList).length ≤ 200
        → excerpt body = String.ofList (body.toList.filter isPrintable))
      ∧ (200 < (bytes body.toList).length
        → ∃ front,
            IsLongestFront body.toList 200 front
            ∧ (∃ stop,
                boundaryUpTo? (bytes body.toList) 200 = some stop
                ∧ stop ≤ 200
                ∧ 200 ≤ stop + 3
                ∧ ofUtf8? ((bytes body.toList).take stop) = some front)
            ∧ excerpt body
              = String.ofList (front.filter isPrintable)
                ++ s!"... [truncated, {(bytes body.toList).length} bytes total]")
      ∧ ∀ other : String,
          (bytes other.toList).take 200 = (bytes body.toList).take 200
          → (bytes other.toList).length = (bytes body.toList).length
          → excerpt other = excerpt body := by
  refine ⟨fun c member => ?_, excerpt_short, fun long => ?_, fun other same lengths => ?_⟩
  · have printable : isPrintable c = true := by
      rw [← isPrintableAscii_eq]
      unfold excerpt at member
      rw [String.toList_ofList] at member
      exact (List.mem_filter.mp member).2
    exact of_decide_eq_true printable
  · obtain ⟨front, isLongest, found, near⟩ := exists_boundaryUpTo? (Nat.le_of_lt long)
    have read := front?_eq (Nat.le_of_lt long) isLongest
    simp only [front?, found, Option.bind_eq_bind, Option.bind_some] at read
    exact
      ⟨front, isLongest, ⟨_, found, isLongest.fits, near, read⟩, excerpt_long long isLongest⟩
  · rcases Nat.lt_or_ge 200 (bytes body.toList).length with long | short
    · obtain ⟨front, isLongest, _⟩ := exists_boundaryUpTo? (Nat.le_of_lt long)
      rw [excerpt_long long isLongest, ← lengths,
        excerpt_long (lengths ▸ long) (isLongest.of_take same.symm)]
    · rw [List.take_of_length_le (lengths ▸ short), List.take_of_length_le short] at same
      have texts : other.toList = body.toList := by
        have back := ofUtf8?_bytes other.toList
        rw [same, ofUtf8?_bytes] at back
        exact (Option.some.inj back).symm
      rw [String.toList_inj.mp texts]

namespace Sample

/-- 197 characters of one byte and one of four. -/
def cutInside (last : Char) : List Char :=
  List.replicate 197 'x' ++ [last]

end Sample

/-- A search that takes three steps, and two texts that differ in their last byte only. -/
theorem excerpt_front_cutInside
    : boundaryUpTo? (bytes (Sample.cutInside '😀')) 200 = some 197
      ∧ excerpt (String.ofList (Sample.cutInside '😀'))
        = String.ofList (List.replicate 197 'x') ++ "... [truncated, 201 bytes total]"
      ∧ excerpt (String.ofList (Sample.cutInside '😁'))
        = excerpt (String.ofList (Sample.cutInside '😀')) := by
  have total : (bytes (Sample.cutInside '😀')).length = 201 := by decide +kernel
  have stops : boundaryUpTo? (bytes (Sample.cutInside '😀')) 200 = some 197 := by decide +kernel
  have front
      : ofUtf8? ((bytes (Sample.cutInside '😀')).take 197) = some (List.replicate 197 'x') := by
    decide +kernel
  have printable
      : (List.replicate 197 'x').filter isPrintable = List.replicate 197 'x' := by
    decide +kernel
  obtain ⟨_, _, cut, bounded⟩ := excerpt_front (String.ofList (Sample.cutInside '😀'))
  rw [String.toList_ofList, total] at cut bounded
  obtain ⟨_, _, ⟨_, found, _, _, read⟩, shown⟩ := cut (by decide)
  cases stops.symm.trans found
  cases front.symm.trans read
  refine ⟨stops, ?_, bounded _ ?_ ?_⟩
  · rw [shown, printable]
    rfl
  · rw [String.toList_ofList]
    decide +kernel
  · rw [String.toList_ofList]
    decide +kernel

end Remediation.Http
