import Remediation.Proofs.Text.Utf8

/-! Places between the characters of a text, among its bytes. The front of a text ends at each of
them, no four bytes in a row are without one, and a search backwards meets the last one. Bytes that
start with those of a text belong to a text that starts with it.
-/

namespace Remediation.Text

-----------------------------------------------------------------------------------------
-- The bytes of a character
-----------------------------------------------------------------------------------------

theorem bytes_cons (c : Char) (rest : List Char) : bytes (c :: rest) = utf8Bytes c ++ bytes rest :=
  List.flatMap_cons

theorem bytes_append (front back : List Char) : bytes (front ++ back) = bytes front ++ bytes back :=
  List.flatMap_append

/-- A character has a first byte and no more than three others, and only the others go on with it.
-/
theorem utf8Bytes_goesOn (c : Char)
    : ∃ first others,
        utf8Bytes c = first :: others
        ∧ isContinuation first = false
        ∧ (∀ byte ∈ others, isContinuation byte = true)
        ∧ others.length ≤ 3 := by
  have bound := toNat_lt c
  simp only [isContinuation, Bool.and_eq_true, Bool.and_eq_false_iff, decide_eq_true_eq,
    decide_eq_false_iff_not]
  unfold utf8Bytes
  simp only
  split
  · exact ⟨_, _, rfl, by omega, nofun, by decide⟩
  · split
    · refine ⟨_, _, rfl, by omega, ?_, by simp⟩
      simp only [List.forall_mem_cons, List.not_mem_nil, false_imp_iff, implies_true, and_true]
      omega
    · split
      · refine ⟨_, _, rfl, by omega, ?_, by simp⟩
        simp only [List.forall_mem_cons, List.not_mem_nil, false_imp_iff, implies_true, and_true]
        omega
      · refine ⟨_, _, rfl, by omega, ?_, by simp⟩
        simp only [List.forall_mem_cons, List.not_mem_nil, false_imp_iff, implies_true, and_true]
        omega

theorem length_utf8Bytes_pos (c : Char) : 0 < (utf8Bytes c).length := by
  obtain ⟨first, others, written, _⟩ := utf8Bytes_goesOn c
  rw [written]
  exact Nat.succ_pos _

theorem length_utf8Bytes_le (c : Char) : (utf8Bytes c).length ≤ 4 := by
  obtain ⟨first, others, written, _, _, few⟩ := utf8Bytes_goesOn c
  rw [written]
  exact Nat.succ_le_succ few

/-- Only an empty text has no bytes. -/
theorem eq_nil_of_length_bytes {cs : List Char} (none : (bytes cs).length = 0) : cs = [] := by
  cases cs with
  | nil => rfl
  | cons c rest =>
      have some := length_utf8Bytes_pos c
      rw [bytes_cons, List.length_append] at none
      omega

/-- Different characters have different bytes. -/
theorem utf8Bytes_inj {c d : Char} (same : utf8Bytes c = utf8Bytes d) : c = d := by
  have read := ofSequence?_utf8Bytes c
  rw [same, ofSequence?_utf8Bytes] at read
  exact (Option.some.inj read).symm

/-- Where texts have a byte in common, it starts a character in both, and the same one. Witness: the
first byte of a character tells how many there are. -/
theorem head_eq_of_bytes {c d : Char} {more others : List Nat}
    (same : utf8Bytes c ++ more = utf8Bytes d ++ others)
    : c = d ∧ more = others := by
  obtain ⟨first, rest, written, length⟩ := utf8Bytes_starts c
  obtain ⟨second, tail, writtenToo, lengthToo⟩ := utf8Bytes_starts d
  have heads : first = second := by
    rw [written, writtenToo] at same
    exact (List.cons.inj same).1
  have lengths : (utf8Bytes c).length = (utf8Bytes d).length := by
    rw [heads, lengthToo] at length
    rw [written, writtenToo]
    exact (Option.some.inj length).symm
  obtain ⟨character, behind⟩ := List.append_inj same lengths
  exact ⟨utf8Bytes_inj character, behind⟩

/-- Bytes that start with those of a text are those of a text that starts with it. Witness:
induction on the text; the two have their first character in common. -/
theorem isPrefix_of_bytes {front cs : List Char} (starts : bytes front <+: bytes cs)
    : front <+: cs := by
  induction front generalizing cs with
  | nil => exact List.nil_prefix
  | cons c rest ih =>
      obtain ⟨behind, same⟩ := starts
      cases cs with
      | nil =>
          have lengths := congrArg List.length same
          have some := length_utf8Bytes_pos c
          rw [bytes_cons, List.length_append, List.length_append] at lengths
          have none : (bytes []).length = 0 := rfl
          omega
      | cons d others =>
          rw [bytes_cons, bytes_cons, List.append_assoc] at same
          obtain ⟨rfl, further⟩ := head_eq_of_bytes same
          obtain ⟨tail, rfl⟩ := ih ⟨behind, further⟩
          exact ⟨tail, rfl⟩

-----------------------------------------------------------------------------------------
-- The front of a text that fits into some bytes
-----------------------------------------------------------------------------------------

/-- The longest front of a text that takes no more than a number of bytes. -/
structure IsLongestFront (cs : List Char) (room : Nat) (front : List Char) : Prop where
  starts : front <+: cs
  fits : (bytes front).length ≤ room
  longest : ∀ other, other <+: cs → (bytes other).length ≤ room → other <+: front

/-- A front that fits into some bytes is one of every text with the same bytes there. -/
theorem isPrefix_of_take {cs ds front : List Char} {room : Nat}
    (same : (bytes cs).take room = (bytes ds).take room) (starts : front <+: cs)
    (fits : (bytes front).length ≤ room)
    : front <+: ds := by
  obtain ⟨rest, rfl⟩ := starts
  have early : bytes front <+: (bytes (front ++ rest)).take room := by
    rw [bytes_append]
    exact List.prefix_take_iff.mpr ⟨List.prefix_append _ _, fits⟩
  rw [same] at early
  exact isPrefix_of_bytes (early.trans (List.take_prefix _ _))

namespace IsLongestFront

variable {cs ds front other : List Char} {room : Nat}

/-- No byte behind the room makes a difference to the longest front. -/
theorem of_take (isLongest : IsLongestFront cs room front)
    (same : (bytes cs).take room = (bytes ds).take room)
    : IsLongestFront ds room front where
  starts := isPrefix_of_take same isLongest.starts isLongest.fits
  fits := isLongest.fits
  longest other starts fits :=
    isLongest.longest other (isPrefix_of_take same.symm starts fits) fits

theorem unique (isLongest : IsLongestFront cs room front)
    (isLongestToo : IsLongestFront cs room other)
    : front = other := by
  have inside := isLongestToo.longest front isLongest.starts isLongest.fits
  have around := isLongest.longest other isLongestToo.starts isLongestToo.fits
  exact inside.eq_of_length_le around.length_le

end IsLongestFront

-----------------------------------------------------------------------------------------
-- Boundaries
-----------------------------------------------------------------------------------------

/-- There is no boundary inside of a character. -/
theorem isBoundary_inside {c : Char} {place : Nat} (after : 0 < place)
    (inside : place < (utf8Bytes c).length) (rest : List Char)
    : isBoundary (bytes (c :: rest)) place = false := by
  obtain ⟨first, others, written, _, goOn, _⟩ := utf8Bytes_goesOn c
  obtain ⟨place, rfl⟩ := Nat.exists_eq_succ_of_ne_zero (Nat.ne_of_gt after)
  rw [written, List.length_cons] at inside
  have within : place < others.length := Nat.lt_of_succ_lt_succ inside
  have found : (bytes (c :: rest))[place + 1]? = some others[place] := by
    rw [bytes_cons, written, List.cons_append, List.getElem?_cons_succ,
      List.getElem?_append_left within, List.getElem?_eq_getElem within]
  have continues := goOn _ (List.getElem_mem within)
  simp only [isBoundary, found, continues]
  rfl

/-- A character starts behind another one, or the text ends there. -/
theorem isBoundary_next (c : Char) (rest : List Char)
    : isBoundary (bytes (c :: rest)) (utf8Bytes c).length = true := by
  rw [bytes_cons]
  cases rest with
  | nil =>
      have whole : utf8Bytes c ++ bytes [] = utf8Bytes c := List.append_nil _
      have ended : (utf8Bytes c)[(utf8Bytes c).length]? = none :=
        List.getElem?_eq_none (Nat.le_refl _)
      simp only [whole, isBoundary, ended, beq_self_eq_true, Bool.or_true]
  | cons d others =>
      obtain ⟨first, more, written, starts, _⟩ := utf8Bytes_goesOn d
      have found : (utf8Bytes c ++ bytes (d :: others))[(utf8Bytes c).length]? = some first := by
        rw [List.getElem?_append_right (Nat.le_refl _), Nat.sub_self, bytes_cons, written]
        rfl
      simp only [isBoundary, found, starts, Bool.not_false, Bool.or_true]

/-- The boundaries behind a character are those of the rest of the text. -/
theorem isBoundary_behind (c : Char) (rest : List Char) (place : Nat)
    : isBoundary (bytes (c :: rest)) ((utf8Bytes c).length + place)
      = isBoundary (bytes rest) place := by
  cases place with
  | zero => exact isBoundary_next c rest
  | succ place =>
      have found
          : (bytes (c :: rest))[(utf8Bytes c).length + (place + 1)]?
            = (bytes rest)[place + 1]? := by
        rw [bytes_cons, List.getElem?_append_right (Nat.le_add_right _ _), Nat.add_sub_cancel_left]
      have notFirst : ((utf8Bytes c).length + (place + 1) == 0) = (place + 1 == 0) := rfl
      have ends
          : ((utf8Bytes c).length + (place + 1) == (bytes (c :: rest)).length)
            = (place + 1 == (bytes rest).length) := by
        rw [bytes_cons, List.length_append, Bool.eq_iff_iff, beq_iff_eq, beq_iff_eq,
          Nat.add_left_cancel_iff]
      simp only [isBoundary, found, notFirst, ends]

/-- The front of a text ends at every boundary, and nowhere else. Witness: induction on the text,
whose first character has no boundary inside. -/
theorem isBoundary_iff {cs : List Char} {place : Nat}
    : isBoundary (bytes cs) place = true
      ↔ ∃ front, front <+: cs ∧ (bytes front).length = place := by
  induction cs generalizing place with
  | nil =>
      constructor
      · intro boundary
        cases place with
        | zero => exact ⟨[], List.nil_prefix, rfl⟩
        | succ place => cases boundary
      · rintro ⟨front, starts, rfl⟩
        rw [List.prefix_nil.mp starts]
        rfl
  | cons c rest ih =>
      rcases Nat.lt_or_ge place (utf8Bytes c).length with inside | behind
      · rcases Nat.eq_zero_or_pos place with rfl | after
        · exact ⟨fun _ => ⟨[], List.nil_prefix, rfl⟩, fun _ => rfl⟩
        · rw [isBoundary_inside after inside]
          constructor
          · nofun
          · rintro ⟨front, starts, same⟩
            cases front with
            | nil => exact absurd same (Nat.ne_of_lt after)
            | cons d others =>
                obtain ⟨rfl, _⟩ := List.cons_prefix_cons.mp starts
                rw [bytes_cons, List.length_append] at same
                omega
      · obtain ⟨place, rfl⟩ := Nat.exists_eq_add_of_le behind
        rw [isBoundary_behind, ih]
        constructor
        · rintro ⟨front, starts, rfl⟩
          refine ⟨c :: front, List.cons_prefix_cons.mpr ⟨rfl, starts⟩, ?_⟩
          rw [bytes_cons, List.length_append]
        · rintro ⟨front, starts, same⟩
          cases front with
          | nil =>
              have some := length_utf8Bytes_pos c
              have none : (bytes []).length = 0 := rfl
              omega
          | cons d others =>
              obtain ⟨rfl, further⟩ := List.cons_prefix_cons.mp starts
              rw [bytes_cons, List.length_append] at same
              exact ⟨others, further, Nat.add_left_cancel same⟩

/-- No four places in a row are without a boundary. Witness: induction on the text, whose first
character has no more than four bytes. -/
theorem exists_boundary {cs : List Char} {place : Nat} (within : place ≤ (bytes cs).length)
    : ∃ boundary ≤ place, isBoundary (bytes cs) boundary = true ∧ place ≤ boundary + 3 := by
  induction cs generalizing place with
  | nil => exact ⟨0, Nat.zero_le place, rfl, Nat.le_trans within (Nat.zero_le 3)⟩
  | cons c rest ih =>
      have few := length_utf8Bytes_le c
      rcases Nat.lt_or_ge place (utf8Bytes c).length with inside | behind
      · exact ⟨0, Nat.zero_le place, rfl, by omega⟩
      · obtain ⟨place, rfl⟩ := Nat.exists_eq_add_of_le behind
        rw [bytes_cons, List.length_append] at within
        obtain ⟨boundary, before, found, near⟩ := ih (Nat.add_le_add_iff_left.mp within)
        refine ⟨(utf8Bytes c).length + boundary, by omega, ?_, by omega⟩
        rw [isBoundary_behind, found]

-----------------------------------------------------------------------------------------
-- Searching backwards
-----------------------------------------------------------------------------------------

/-- A search backwards ends at the first boundary that it meets. Witness: induction on the place,
one step of the search at a time. -/
theorem boundaryUpTo?_eq_some_iff {bytes : List Nat} {place stop : Nat}
    : boundaryUpTo? bytes place = some stop
      ↔ isBoundary bytes stop = true
        ∧ stop ≤ place
        ∧ ∀ passed, stop < passed → passed ≤ place → isBoundary bytes passed = false := by
  induction place with
  | zero =>
      have start : boundaryUpTo? bytes 0 = some 0 := rfl
      rw [start]
      constructor
      · intro same
        cases same
        exact ⟨rfl, Nat.le_refl 0, fun passed after before => absurd before (Nat.not_le.mpr after)⟩
      · rintro ⟨_, first, _⟩
        rw [Nat.le_zero.mp first]
  | succ place ih =>
      rw [boundaryUpTo?]
      cases here : isBoundary bytes (place + 1) with
      | true =>
          rw [if_pos rfl]
          constructor
          · intro same
            cases same
            exact
              ⟨here, Nat.le_refl _, fun passed after before => absurd before (Nat.not_le.mpr after)⟩
          · rintro ⟨_, before, passed⟩
            rcases Nat.lt_or_eq_of_le before with less | rfl
            · rw [passed _ less (Nat.le_refl _)] at here
              cases here
            · rfl
      | false =>
          rw [if_neg Bool.false_ne_true, ih]
          constructor
          · rintro ⟨found, before, passed⟩
            refine ⟨found, Nat.le_succ_of_le before, fun other after within => ?_⟩
            rcases Nat.lt_or_eq_of_le within with less | rfl
            · exact passed other after (Nat.le_of_lt_succ less)
            · exact here
          · rintro ⟨found, before, passed⟩
            refine ⟨found, ?_, fun other after within =>
              passed other after (Nat.le_succ_of_le within)⟩
            rcases Nat.lt_or_eq_of_le before with less | rfl
            · exact Nat.le_of_lt_succ less
            · rw [here] at found
              cases found

/-- Every search backwards meets a boundary, the start if there is no other one. -/
theorem exists_stop (bytes : List Nat) (place : Nat)
    : ∃ stop, boundaryUpTo? bytes place = some stop := by
  induction place with
  | zero => exact ⟨0, rfl⟩
  | succ place ih =>
      rw [boundaryUpTo?]
      split
      · exact ⟨_, rfl⟩
      · exact ih

/-- A search backwards from a place within a text ends after three steps at most, and there the
longest front ends that takes no more bytes than there are up to the place. -/
theorem exists_boundaryUpTo? {cs : List Char} {place : Nat} (within : place ≤ (bytes cs).length)
    : ∃ front,
        IsLongestFront cs place front
        ∧ boundaryUpTo? (bytes cs) place = some (bytes front).length
        ∧ place ≤ (bytes front).length + 3 := by
  obtain ⟨stop, found⟩ := exists_stop (bytes cs) place
  obtain ⟨boundary, before, passed⟩ := boundaryUpTo?_eq_some_iff.mp found
  have last {other : Nat} (isOne : isBoundary (bytes cs) other = true) (early : other ≤ place)
      : other ≤ stop := by
    refine Nat.le_of_not_lt fun after => ?_
    rw [passed other after early] at isOne
    cases isOne
  obtain ⟨front, starts, rfl⟩ := isBoundary_iff.mp boundary
  obtain ⟨other, early, otherBoundary, near⟩ := exists_boundary within
  have close := last otherBoundary early
  refine ⟨front, ⟨starts, before, fun longer startsToo fits => ?_⟩, found, by omega⟩
  have short := last (isBoundary_iff.mpr ⟨longer, startsToo, rfl⟩) fits
  rcases List.prefix_or_prefix_of_prefix startsToo starts with inside | ⟨more, rfl⟩
  · exact inside
  · rw [bytes_append, List.length_append] at short
    have nothing : more = [] := eq_nil_of_length_bytes (by omega)
    have same : front ++ more = front := by rw [nothing, List.append_nil]
    exact ⟨[], (List.append_nil _).trans same⟩

end Remediation.Text
