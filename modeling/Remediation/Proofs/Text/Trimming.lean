import Mathlib.Data.List.DropRight
import Remediation.Text.Blank

/-! Texts without the white space at their ends: when a text is one already, and what is left of a
text whose inner characters are none.
-/

namespace Remediation.Text

/-- A text that starts with no white space keeps its start. -/
theorem trimLeft_cons {c : Char} (visible : isBlank c = false) (rest : List Char)
    : trimLeft (c :: rest) = c :: rest := by
  simp [trimLeft, visible]

@[simp]
theorem trimRight_nil : trimRight [] = [] := rfl

/-- White space behind a visible character leaves it as the last one. -/
theorem trimRight_append {c : Char} (visible : isBlank c = false) (front back : List Char)
    : trimRight (front ++ c :: back) = front ++ c :: trimRight back := by
  have kept (cs : List Char)
      : (cs ++ c :: front.reverse).dropWhile isBlank
        = cs.dropWhile isBlank ++ c :: front.reverse := by
    induction cs with
    | nil => simp [visible]
    | cons d others ih =>
        cases blank : isBlank d with
        | true => simpa [blank] using ih
        | false => simp [blank]
  simp only [trimRight, List.reverse_append, List.reverse_cons, List.append_assoc,
    List.singleton_append, kept, List.reverse_reverse]

theorem isPrefix_trimRight (cs : List Char) : trimRight cs <+: cs :=
  List.rdropWhile_prefix isBlank cs

/-- A text whose last character is visible. -/
def EndsVisibly (cs : List Char) : Prop :=
  ∃ front last, cs = front ++ [last] ∧ isBlank last = false

theorem EndsVisibly.concat {last : Char} (visible : isBlank last = false) (front : List Char)
    : EndsVisibly (front ++ [last]) :=
  ⟨front, last, rfl, visible⟩

theorem EndsVisibly.behind {back : List Char} (ends : EndsVisibly back) (front : List Char)
    : EndsVisibly (front ++ back) := by
  obtain ⟨inner, last, rfl, visible⟩ := ends
  exact ⟨front ++ inner, last, (List.append_assoc ..).symm, visible⟩

/-- White space behind a text is trimmed, up to its last character. -/
theorem EndsVisibly.trimRight_append {cs : List Char} (ends : EndsVisibly cs) (back : List Char)
    : trimRight (cs ++ back) = cs ++ trimRight back := by
  obtain ⟨front, last, rfl, visible⟩ := ends
  rw [List.append_assoc, List.singleton_append, Text.trimRight_append visible, List.append_assoc,
    List.singleton_append]

/-- A text that has visible characters at both ends is trimmed. -/
theorem EndsVisibly.trim_eq {first : Char} {rest : List Char} (ends : EndsVisibly (first :: rest))
    (starts : isBlank first = false)
    : trim (first :: rest) = first :: rest := by
  have kept := ends.trimRight_append []
  rw [List.append_nil, trimRight_nil, List.append_nil] at kept
  rw [trim, trimLeft_cons starts, kept]

/-- A text without white space is trimmed. -/
theorem trim_of_visible {cs : List Char} (visible : ∀ c ∈ cs, isBlank c = false)
    : trim cs = cs := by
  cases cs with
  | nil => rfl
  | cons first rest =>
      refine EndsVisibly.trim_eq ?_ (visible first List.mem_cons_self)
      rcases List.eq_nil_or_concat (first :: rest) with none | ⟨front, last, shape⟩
      · cases none
      · rw [List.concat_eq_append] at shape
        rw [shape] at visible ⊢
        exact .concat (visible last (by simp)) front

theorem trim_length_le (cs : List Char) : (trim cs).length ≤ cs.length := by
  have right := (isPrefix_trimRight (trimLeft cs)).length_le
  have left := (List.dropWhile_suffix isBlank (l := cs)).length_le
  exact Nat.le_trans right left

/-- The characters of a trimmed text start with a visible one. -/
theorem visible_of_trim {cs rest : List Char} {c : Char} (starts : trim cs = c :: rest)
    : isBlank c = false := by
  obtain ⟨back, shape⟩ := isPrefix_trimRight (trimLeft cs)
  rw [trim] at starts
  rw [starts, List.cons_append] at shape
  have first := List.head?_dropWhile_not isBlank cs
  rw [← trimLeft, ← shape] at first
  simpa using first

theorem trimRight_cons (c : Char) (rest : List Char)
    : trimRight (c :: rest)
      = if trimRight rest = [] ∧ isBlank c = true then [] else c :: trimRight rest := by
  simp only [trimRight, List.reverse_cons, List.dropWhile_append, List.reverse_eq_nil_iff]
  cases rest.reverse.dropWhile isBlank with
  | nil => cases blank : isBlank c <;> simp [blank]
  | cons d others => simp

/-- The two ends can be trimmed in either order. -/
theorem trimLeft_trimRight (cs : List Char)
    : trimLeft (trimRight cs) = trimRight (trimLeft cs) := by
  induction cs with
  | nil => rfl
  | cons c rest ih =>
      cases blank : isBlank c with
      | false =>
          rw [trimLeft_cons blank, ← List.nil_append (c :: rest), trimRight_append blank,
            List.nil_append, trimLeft_cons blank]
      | true =>
          have dropped (cs : List Char) : trimLeft (c :: cs) = trimLeft cs := by
            simp [trimLeft, blank]
          rw [dropped, ← ih, trimRight_cons]
          split
          · rename_i empty
            rw [empty.1]
          · exact dropped _

theorem trim_trimRight (cs : List Char) : trim (trimRight cs) = trim cs := by
  have again : trimRight (trimRight (trimLeft cs)) = trimRight (trimLeft cs) :=
    List.rdropWhile_idempotent isBlank (trimLeft cs)
  rw [trim, trimLeft_trimRight, again, trim]

/-- What was trimmed is trimmed. -/
theorem trim_trim (cs : List Char) : trim (trim cs) = trim cs := by
  have again : trimLeft (trimLeft cs) = trimLeft cs := List.dropWhile_idempotent isBlank cs
  calc
    trim (trimRight (trimLeft cs)) = trim (trimLeft cs) := trim_trimRight _
    _ = trim cs := by rw [trim, again, trim]

/-- A trimmed text ends with a visible character. -/
theorem endsVisibly_of_trim {cs : List Char} (trimmed : trim cs = cs) (filled : cs ≠ [])
    : EndsVisibly cs := by
  rcases List.eq_nil_or_concat cs with empty | ⟨front, last, shape⟩
  · contradiction
  · rw [List.concat_eq_append] at shape
    refine ⟨front, last, shape, ?_⟩
    by_contra blank
    have dropped : trimRight cs = trimRight front := by
      rw [shape]
      exact List.rdropWhile_concat_pos isBlank front last (by simpa using blank)
    have same : trim (trimRight front) = cs := by rw [← dropped, trim_trimRight, trimmed]
    have lengths := congrArg List.length same
    have inner := trim_length_le (trimRight front)
    have outer := (isPrefix_trimRight front).length_le
    rw [shape, List.length_append, List.length_singleton] at lengths
    omega

/-- What is trimmed away at the end is white space. -/
theorem exists_trimRight (cs : List Char)
    : ∃ back, cs = trimRight cs ++ back ∧ ∀ c ∈ back, isBlank c = true := by
  refine ⟨cs.rtakeWhile isBlank, ?_, fun c member => List.mem_rtakeWhile_imp member⟩
  rw [trimRight, List.rtakeWhile, ← List.reverse_append, List.takeWhile_append_dropWhile,
    List.reverse_reverse]

/-- What is trimmed away is white space. -/
theorem exists_trim (cs : List Char)
    : ∃ front back,
        cs = front ++ (trim cs ++ back) ∧ (∀ c ∈ front, isBlank c = true)
        ∧ ∀ c ∈ back, isBlank c = true := by
  have left : cs = cs.takeWhile isBlank ++ trimLeft cs := List.takeWhile_append_dropWhile.symm
  obtain ⟨back, right, blank⟩ := exists_trimRight (trimLeft cs)
  refine ⟨cs.takeWhile isBlank, back, ?_, fun c member => List.mem_takeWhile_imp member, blank⟩
  rw [trim, ← right, ← left]

end Remediation.Text
