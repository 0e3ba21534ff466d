import Remediation.Proofs.Text.Numerals
import Remediation.Text.Split

/-! Texts cut at separators, and the lines of texts as what line breaks part. A text whose last line
is ended by a break has an empty part behind it.
-/

namespace Remediation.Text

/-- Cutting at a separator. -/
theorem splitOn_append {isSeparator : Char → Bool} {c : Char}
    (separates : isSeparator c = true) (front back : List Char)
    : splitOn isSeparator (front ++ c :: back)
      = splitOn isSeparator front ++ splitOn isSeparator back := by
  induction front with
  | nil => simp only [List.nil_append, splitOn, if_pos separates, List.cons_append]
  | cons first rest ih =>
      rw [List.cons_append, splitOn, splitOn, ih]
      split
      · rfl
      · cases parts : splitOn isSeparator rest with
        | nil => exact absurd parts (splitOn_ne_nil _ _)
        | cons part parts => rfl

/-- The parts of a text that line breaks part. -/
def lines (text : String) : List (List Char) :=
  splitOn (· == '\n') text.toList

end Remediation.Text
