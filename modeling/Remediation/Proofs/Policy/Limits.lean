import Remediation.Policy.Limits
import Remediation.Proofs.Number.Rounding

/-! Limits on how much may be selected. What is not refused of a population is not refused of a
larger one either, since the percentage of a larger population is never rounded to less.
-/

namespace Remediation

/-- A number above zero is infinite, or it is finite and has no sign. -/
theorem Binary64.cases_of_above_zero {number : Binary64}
    (above : number.compare (.ofInt 0) = some .gt)
    : number = .infinite false
      ∨ ∃ significand exponent, significand ≠ 0 ∧ number = .finite false significand exponent := by
  have zero : ofInt 0 = .finite false 0 leastExponent := rfl
  rw [zero] at above
  cases number with
  | nan => cases above
  | infinite negative =>
      cases negative with
      | false => exact .inl rfl
      | true => cases above
  | finite negative significand exponent =>
      refine .inr ⟨significand, exponent, ?_⟩
      simp only [compare, Option.some_inj, compare_gt_iff_gt] at above
      cases negative with
      | false =>
          refine ⟨?_, rfl⟩
          rintro rfl
          simp [atBase, signed] at above
      | true =>
          simp only [atBase, signed, if_true, Bool.false_eq_true, if_false,
            Nat.zero_shiftLeft] at above
          generalize significand <<< _ = shifted at above
          omega

namespace ResourceLimits

/-- Limits with a percentage above zero, if they have one. -/
def InForce (limits : ResourceLimits) : Prop :=
  ∀ percent, limits.percent = some percent → percent.compare (.ofInt 0) = some .gt

/-- What a percentage of a population comes to. -/
def share (percent : Binary64) (population : Nat) : Binary64 :=
  ((Binary64.ofInt population).mul percent).div (.ofInt 100)

/-- The percentage of a larger population is not less. -/
theorem share_mono {percent : Binary64} (above : percent.compare (.ofInt 0) = some .gt)
    {smaller larger : Nat} (some : 0 < smaller) (le : smaller ≤ larger)
    : (share percent smaller).IsUnsigned
      ∧ (share percent larger).IsUnsigned
      ∧ (share percent smaller).magnitude ≤ (share percent larger).magnitude := by
  have hundred : Binary64.ofInt 100 = .finite false 0x19000000000000 (-46) := rfl
  unfold share
  rw [hundred]
  have quotient := Binary64.div_scales (by decide : 0x19000000000000 ≠ 0) (-46)
  rcases Binary64.cases_of_above_zero above with rfl | ⟨significand, exponent, positive, rfl⟩
  · rw [Binary64.ofInt_mul_infinite some, Binary64.ofInt_mul_infinite (some.trans_le le)]
    exact ⟨rfl, rfl, le_rfl⟩
  · have product := Binary64.mul_scales positive exponent
    have unsigned := product.isUnsigned (Binary64.isUnsigned_ofInt smaller)
    have unsigned' := product.isUnsigned (Binary64.isUnsigned_ofInt larger)
    refine ⟨quotient.isUnsigned unsigned, quotient.isUnsigned unsigned',
      quotient.mono unsigned unsigned' ?_⟩
    exact product.mono (Binary64.isUnsigned_ofInt smaller) (Binary64.isUnsigned_ofInt larger)
      (Binary64.magnitude_ofInt_mono le)

/-- A percentage is exceeded if the selection is above its share of a population that is not empty.
-/
theorem percentExceeded_iff {limits : ResourceLimits} {selected population : Nat}
    : (limits.percentExceeded selected population).getD false = true
      ↔ ∃ percent,
          limits.percent = some percent
          ∧ 0 < population
          ∧ (Binary64.ofInt selected).compare (share percent population) = some .gt := by
  change ((limits.percent.filter (fun _ => decide (0 < population))).map (fun percent =>
    (Binary64.ofInt selected).compare (share percent population) == some .gt)).getD false = true ↔ _
  cases limits.percent with
  | none => simp
  | some percent => by_cases any : 0 < population <;> simp [any, Option.filter]

/-- Nothing is above no share of a population. -/
theorem percentExceeded_zero {limits : ResourceLimits} (inForce : limits.InForce)
    (population : Nat)
    : (limits.percentExceeded 0 population).getD false = false := by
  refine Bool.eq_false_iff.mpr (fun exceeds => ?_)
  obtain ⟨percent, given, any, greater⟩ := percentExceeded_iff.mp exceeds
  obtain ⟨unsigned, _⟩ := share_mono (inForce percent given) any le_rfl
  rw [Binary64.compare_eq_gt_iff (Binary64.isUnsigned_ofInt 0) unsigned,
    Binary64.magnitude_ofInt_zero] at greater
  exact absurd (Binary64.magnitude_nonneg _) (not_le.mpr greater)

/-- What exceeds the percentage of a population exceeds that of a smaller one, unless more is
selected than there is. -/
theorem percentExceeded_of_larger {limits : ResourceLimits}
    (inForce : limits.InForce)
    {selected smaller larger : Nat} (within : selected ≤ smaller) (le : smaller ≤ larger)
    (exceeds : (limits.percentExceeded selected larger).getD false = true)
    : (limits.percentExceeded selected smaller).getD false = true := by
  -- Something was selected, of the smaller population too.
  have some : 0 < smaller := by
    by_contra none
    have nothing : selected = 0 := by omega
    rw [nothing, percentExceeded_zero inForce] at exceeds
    cases exceeds
  obtain ⟨percent, given, any, greater⟩ := percentExceeded_iff.mp exceeds
  have unsigned := Binary64.isUnsigned_ofInt selected
  obtain ⟨unsignedSmaller, unsignedLarger, order⟩ := share_mono (inForce percent given) some le
  rw [Binary64.compare_eq_gt_iff unsigned unsignedLarger] at greater
  refine percentExceeded_iff.mpr ⟨percent, given, some, ?_⟩
  rw [Binary64.compare_eq_gt_iff unsigned unsignedSmaller]
  exact order.trans_lt greater

/-- A limit that is not there is not exceeded, whether one of them or both have to be. -/
theorem exceeded_eq (limits : ResourceLimits) (selected population : Nat)
    : limits.exceeded selected population
      = match limits.mode with
        | .both =>
            (limits.amountExceeded selected).getD false
            && (limits.percentExceeded selected population).getD false
        | .either =>
            (limits.amountExceeded selected).getD false
            || (limits.percentExceeded selected population).getD false := by
  unfold exceeded
  cases limits.mode with
  | either => rfl
  | both =>
      cases limits.amountExceeded selected with
      | none => rfl
      | some amount =>
          cases limits.percentExceeded selected population with
          | none => exact (Bool.and_false amount).symm
          | some percent => rfl

/-- What is refused of a population is refused of a smaller one. -/
theorem exceeded_of_larger {limits : ResourceLimits}
    (inForce : limits.InForce)
    {selected smaller larger : Nat} (within : selected ≤ smaller) (le : smaller ≤ larger)
    (exceeds : limits.exceeded selected larger = true)
    : limits.exceeded selected smaller = true := by
  have percentage := percentExceeded_of_larger inForce within le
  rw [exceeded_eq] at exceeds ⊢
  cases mode : limits.mode with
  | both =>
      simp only [mode, Bool.and_eq_true] at exceeds ⊢
      exact ⟨exceeds.1, percentage exceeds.2⟩
  | either =>
      simp only [mode, Bool.or_eq_true] at exceeds ⊢
      exact exceeds.imp_right percentage

/-- No limits refuse to select nothing. -/
theorem exceeded_zero {limits : ResourceLimits} (inForce : limits.InForce) (population : Nat)
    : limits.exceeded 0 population = false := by
  have amount : (limits.amountExceeded 0).getD false = false := by
    unfold amountExceeded
    cases limits.amount <;> rfl
  rw [exceeded_eq, amount, percentExceeded_zero inForce]
  cases limits.mode <;> rfl

end ResourceLimits

theorem Policy.limits_inForce (policy : Policy) : policy.limits.InForce := by
  intro percent given
  have kept := (Option.filter_eq_some_iff.mp given).2
  simpa using kept

/-- A policy that selects nothing is not refused. -/
theorem Policy.checkLimits_zero (policy : Policy) (population : Nat)
    : policy.checkLimits 0 population = .ok () := by
  rw [checkLimits, ResourceLimits.exceeded_zero policy.limits_inForce]
  rfl

/-- A selection that is not refused of a population is not refused of a larger one. -/
theorem Policy.checkLimits_of_larger {policy : Policy} {selected smaller larger : Nat}
    (within : selected ≤ smaller) (le : smaller ≤ larger)
    (passes : policy.checkLimits selected smaller = .ok ())
    : policy.checkLimits selected larger = .ok () := by
  have exceeds := ResourceLimits.exceeded_of_larger policy.limits_inForce within le
  unfold Policy.checkLimits at *
  by_cases refused : policy.limits.exceeded selected larger = true
  · rw [if_pos (exceeds refused)] at passes
    cases passes
  · rw [if_neg refused]

end Remediation
