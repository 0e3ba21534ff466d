/-!
Texts cut at separators. The parts joined by a separator are the text again, so a text without a
separator is its only part.
-/

namespace Remediation.Text

/-- The parts of a text between its separators. -/
def splitOn (isSeparator : Char → Bool) : List Char → List (List Char)
  | [] => [[]]
  | c :: rest =>
      if isSeparator c then [] :: splitOn isSeparator rest
      else
        match splitOn isSeparator rest with
        | [] => [[c]]
        | part :: parts => (c :: part) :: parts

/-- There is always a part. -/
theorem splitOn_ne_nil (isSeparator : Char → Bool) (cs : List Char) :
    splitOn isSeparator cs ≠ [] := by
  cases cs with
  | nil => simp [splitOn]
  | cons c rest =>
    unfold splitOn
    split
    · simp
    · split <;> simp

/-- A text without a separator is its only part. -/
theorem splitOn_eq_singleton {isSeparator : Char → Bool} {cs : List Char}
    (h : ∀ c ∈ cs, isSeparator c = false) : splitOn isSeparator cs = [cs] := by
  induction cs with
  | nil => rfl
  | cons c rest ih =>
    have hc := h c (by simp)
    have hrest := ih (fun x hx => h x (by simp [hx]))
    simp [splitOn, hc, hrest]

end Remediation.Text
