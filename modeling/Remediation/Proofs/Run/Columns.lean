import Mathlib.Data.List.Forall2
import Remediation.Proofs.Text.Lines
import Remediation.Proofs.Text.Trimming
import Remediation.Run.Table

/-! Rows of cells. The columns are as wide as their widest cell, so each cell fits into its column
and all rows have their cells at the same places.
-/

namespace Remediation

namespace ReportTable

-----------------------------------------------------------------------------------------
-- Lines with cells at columns
-----------------------------------------------------------------------------------------

/-- A text that starts at some place of a line is made of cells, each of which starts at its column,
and of blanks: two at least in front of every cell, and any number behind the last one. -/
inductive Laid : Nat → List Nat → List String → List Char → Prop where
  | ended (place width : Nat) : Laid place [] [] (List.replicate width ' ')
  | cell {place gap : Nat} {starts : List Nat} {cell : String} {cells : List String}
    {rest : List Char} (apart : 2 ≤ gap)
    (behind : Laid (place + gap + cell.length) starts cells rest)
    : Laid place ((place + gap) :: starts) (cell :: cells)
        (List.replicate gap ' ' ++ (cell.toList ++ rest))

/-- Every cell stands whole at its column. Witness: induction on the cells; a later cell stands
behind the first one. -/
theorem Laid.stands {place : Nat} {starts : List Nat} {cells : List String} {text : List Char}
    (laid : Laid place starts cells text)
    : List.Forall₂
        (fun start cell => place ≤ start ∧ cell.toList <+: text.drop (start - place))
        starts cells := by
  induction laid with
  | ended place width => exact .nil
  | @cell place gap starts cell cells rest _ _ ih =>
      refine .cons ⟨Nat.le_add_right _ _, ?_⟩ (ih.imp ?_)
      · rw [Nat.add_sub_cancel_left, List.drop_left' List.length_replicate]
        exact List.prefix_append _ _
      · rintro start other ⟨after, whole⟩
        refine ⟨by omega, ?_⟩
        have front : (List.replicate gap ' ' ++ cell.toList).length = gap + cell.length := by
          rw [List.length_append, List.length_replicate, String.length_toList]
        have further
            : start - place = gap + cell.length + (start - (place + gap + cell.length)) := by
          omega
        rw [← List.append_assoc, further, ← List.drop_drop, List.drop_left' front]
        exact whole

/-- Where columns of some widths start behind a place, two blanks in front of each of them. -/
def columns : Nat → List Nat → List Nat
  | _, [] => []
  | place, width :: rest => (place + 2) :: columns (place + 2 + width) rest

end ReportTable

end Remediation
