import Remediation.Proofs.Policy.Limits

/-! Limits of zero. None of them is in force, and a policy that gives one decides as if it did not,
with one exception: a percentage of the policy's own takes the place of the one in a pair before
zeros are passed over, so that a zero there puts the other one out of force.
-/

namespace Remediation

-----------------------------------------------------------------------------------------
-- Taking a limit out of a policy
-----------------------------------------------------------------------------------------

/-- A double that is zero, with a sign or without. -/
def Binary64.IsZero (number : Binary64) : Prop :=
  number.compare (.ofInt 0) = some .eq

/-- Where a policy may give a limit. -/
inductive LimitPlace where
  /-- An amount, alone or in a pair. -/
  | amount
  /-- The percentage in a pair. -/
  | pairedPercent
  /-- The percentage of a policy's own. -/
  | ownPercent
  deriving DecidableEq, Repr

namespace MaxResources

def amount? : MaxResources → Option Nat
  | .amount most => some most
  | .limits most _ _ => most

def percent? : MaxResources → Option Binary64
  | .amount _ => none
  | .limits _ percent _ => percent

/-- Which of the limits have to be exceeded; of an amount alone, any. -/
def mode : MaxResources → LimitMode
  | .amount _ => .either
  | .limits _ _ mode => mode

/-- What is left without the amount: nothing of an amount alone. -/
def withoutAmount : MaxResources → Option MaxResources
  | .amount _ => none
  | .limits _ percent mode => some (.limits none percent mode)

def withoutPercent : MaxResources → MaxResources
  | .amount most => .amount most
  | .limits most _ mode => .limits most none mode

theorem parts_withoutAmount (given : Option MaxResources)
    : (given.bind withoutAmount).bind amount? = none
      ∧ (given.bind withoutAmount).bind percent? = given.bind percent?
      ∧ ((given.bind withoutAmount).map mode).getD .either = (given.map mode).getD .either := by
  cases given with
  | none => exact ⟨rfl, rfl, rfl⟩
  | some given => cases given <;> exact ⟨rfl, rfl, rfl⟩

theorem parts_withoutPercent (given : Option MaxResources)
    : (given.map withoutPercent).bind amount? = given.bind amount?
      ∧ (given.map withoutPercent).bind percent? = none
      ∧ ((given.map withoutPercent).map mode).getD .either = (given.map mode).getD .either := by
  cases given with
  | none => exact ⟨rfl, rfl, rfl⟩
  | some given => cases given <;> exact ⟨rfl, rfl, rfl⟩

end MaxResources

namespace Policy

/-- The percentage that a policy gives in a pair. -/
def pairedPercent? (policy : Policy) : Option Binary64 :=
  policy.maxResources.bind MaxResources.percent?

/-- A policy gives a limit of zero at a place. -/
def HasZero (policy : Policy) : LimitPlace → Prop
  | .amount => policy.maxResources.bind MaxResources.amount? = some 0
  | .pairedPercent => ∃ percent, policy.pairedPercent? = some percent ∧ percent.IsZero
  | .ownPercent => ∃ percent, policy.maxPercent = some percent ∧ percent.IsZero

/-- A policy without its limit at a place. -/
def without (policy : Policy) : LimitPlace → Policy
  | .amount =>
      { policy with maxResources := policy.maxResources.bind MaxResources.withoutAmount }
  | .pairedPercent =>
      { policy with maxResources := policy.maxResources.map MaxResources.withoutPercent }
  | .ownPercent => { policy with maxPercent := none }

/-- A limit at a place stands in the way of a percentage that would be in force without it. -/
structure Hides (policy : Policy) (place : LimitPlace) (percent : Binary64) : Prop where
  own : place = .ownPercent
  paired : policy.pairedPercent? = some percent
  above : percent.compare (.ofInt 0) = some .gt

end Policy

-----------------------------------------------------------------------------------------
-- The limits in force
-----------------------------------------------------------------------------------------

/-- The percentage if it is above zero. -/
def Binary64.inForce? (percent : Option Binary64) : Option Binary64 :=
  percent.filter (fun percent => percent.compare (.ofInt 0) == some .gt)

theorem Binary64.inForce?_of_isZero {percent : Binary64} (zero : percent.IsZero)
    : inForce? (some percent) = none := by
  unfold IsZero at zero
  simp [inForce?, zero]

theorem Binary64.inForce?_of_above {percent : Binary64}
    (above : percent.compare (.ofInt 0) = some .gt)
    : inForce? (some percent) = some percent := by
  simp [inForce?, above]

/-- The limits in force are those above zero; a percentage of the policy's own takes the place of
the one in a pair, whether it is above zero or not. -/
theorem Policy.limits_eq (policy : Policy)
    : policy.limits
      = {
          amount := (policy.maxResources.bind MaxResources.amount?).filter (0 < ·),
          percent := Binary64.inForce? (policy.maxPercent.or policy.pairedPercent?),
          mode := (policy.maxResources.map MaxResources.mode).getD .either
        } := by
  unfold limits givenLimits pairedPercent?
  cases policy.maxResources with
  | none => rfl
  | some given => cases given <;> rfl

/-- A zero that hides nothing leaves all limits in force as they are. -/
theorem Policy.limits_without {policy : Policy} {place : LimitPlace} (zero : policy.HasZero place)
    (plain : ∀ percent, ¬policy.Hides place percent)
    : (policy.without place).limits = policy.limits := by
  rw [limits_eq, limits_eq]
  cases place with
  | amount =>
      obtain ⟨amount, percent, mode⟩ := MaxResources.parts_withoutAmount policy.maxResources
      simp only [without, pairedPercent?, amount, percent, mode]
      rw [show policy.maxResources.bind MaxResources.amount? = some 0 from zero]
      rfl
  | pairedPercent =>
      obtain ⟨amount, percent, mode⟩ := MaxResources.parts_withoutPercent policy.maxResources
      obtain ⟨paired, given, isZero⟩ := zero
      simp only [pairedPercent?] at given
      simp only [without, pairedPercent?, amount, percent, mode, given]
      cases policy.maxPercent with
      | none => rw [Option.none_or, Option.none_or, Binary64.inForce?_of_isZero isZero]; rfl
      | some own => rfl
  | ownPercent =>
      obtain ⟨own, given, isZero⟩ := zero
      have hidden : Binary64.inForce? policy.pairedPercent? = none := by
        refine Option.filter_eq_none_iff.mpr (fun paired found above => ?_)
        exact plain paired ⟨rfl, found, by simpa using above⟩
      rw [given, Option.some_or, Binary64.inForce?_of_isZero isZero, ← hidden]
      rfl

/-- A zero that hides a percentage keeps it out of force. -/
theorem Policy.limits_of_hides {policy : Policy} {place : LimitPlace} {percent : Binary64}
    (zero : policy.HasZero place) (hides : policy.Hides place percent)
    : policy.limits.percent = none
      ∧ (policy.without place).limits = { policy.limits with percent := some percent } := by
  obtain ⟨rfl, paired, above⟩ := hides
  obtain ⟨own, given, isZero⟩ := zero
  have shown : Binary64.inForce? policy.pairedPercent? = some percent := by
    rw [paired, Binary64.inForce?_of_above above]
  rw [limits_eq, limits_eq, given, Option.some_or, Binary64.inForce?_of_isZero isZero, ← shown]
  exact ⟨rfl, rfl⟩

-----------------------------------------------------------------------------------------
-- The verdict
-----------------------------------------------------------------------------------------

/-- What the amount says leaves the verdict to the percentage: where both have to be exceeded, the
amount is, and where one is enough, it is not. -/
def ResourceLimits.HangsOnPercent (limits : ResourceLimits) (selected : Nat) : Prop :=
  (limits.amountExceeded selected).getD false = true ↔ limits.mode = .both

instance (limits : ResourceLimits) (selected : Nat) : Decidable (limits.HangsOnPercent selected) :=
  inferInstanceAs (Decidable (_ ↔ _))

theorem Policy.isOk_checkLimits (policy : Policy) (selected population : Nat)
    : (policy.checkLimits selected population).isOk
      = !policy.limits.exceeded selected population := by
  unfold checkLimits
  cases policy.limits.exceeded selected population <;> rfl

/-- A percentage that comes into force turns a verdict exactly if it is exceeded and the amount
leaves the verdict to it; it never turns a refusal. -/
theorem ResourceLimits.exceeded_withPercent {limits : ResourceLimits}
    (without : limits.percent = none) (percent : Binary64) (selected population : Nat)
    : let guarded := { limits with percent := some percent }
      (guarded.exceeded selected population ≠ limits.exceeded selected population
        ↔ 0 < population
          ∧ (Binary64.ofInt selected).compare (share percent population) = some .gt
          ∧ limits.HangsOnPercent selected)
      ∧ (limits.exceeded selected population = true
          → guarded.exceeded selected population = true) := by
  intro guarded
  have none : (limits.percentExceeded selected population).getD false = false := by
    simp [percentExceeded, without]
  have share
      : (guarded.percentExceeded selected population).getD false = true
        ↔ 0 < population
          ∧ (Binary64.ofInt selected).compare (share percent population) = some .gt := by
    rw [percentExceeded_iff]
    simp [guarded]
  -- The amount says the same with the percentage and without it.
  have amount : guarded.amountExceeded selected = limits.amountExceeded selected := rfl
  have mode : guarded.mode = limits.mode := rfl
  rw [exceeded_eq, exceeded_eq, none, amount, mode, HangsOnPercent, ← and_assoc, ← share]
  cases limits.mode <;>
    cases (limits.amountExceeded selected).getD false <;>
    cases (guarded.percentExceeded selected population).getD false <;>
    simp

-----------------------------------------------------------------------------------------
-- Policies with a zero and without it
-----------------------------------------------------------------------------------------

/-- A policy without one of its zeros has the same limits in force and decides every selection in
the same way, message included, if the zero hides no other percentage. A zero that does keeps that
percentage out of force and changes nothing else, so that it lets pass what would be refused:
exactly the selections that exceed the hidden percentage and whose amount leaves the verdict to it.
-/
theorem Policy.checkLimits_without {policy : Policy} {place : LimitPlace}
    (zero : policy.HasZero place)
    : ((∀ percent, ¬policy.Hides place percent)
        → (policy.without place).limits = policy.limits
          ∧ ∀ selected population,
              (policy.without place).checkLimits selected population
              = policy.checkLimits selected population)
      ∧ ∀ percent,
          policy.Hides place percent
          → policy.limits.percent = none
            ∧ (policy.without place).limits = { policy.limits with percent := some percent }
            ∧ ∀ selected population,
                (((policy.without place).checkLimits selected population).isOk
                    ≠ (policy.checkLimits selected population).isOk
                  ↔ 0 < population
                    ∧ (Binary64.ofInt selected).compare (ResourceLimits.share percent population)
                      = some .gt
                    ∧ policy.limits.HangsOnPercent selected)
                ∧ ((policy.without place).checkLimits selected population = .ok ()
                    → policy.checkLimits selected population = .ok ()) := by
  refine ⟨fun plain => ?_, fun percent hides => ?_⟩
  · have same := limits_without zero plain
    refine ⟨same, fun selected population => ?_⟩
    have named : (policy.without place).name = policy.name := by cases place <;> rfl
    unfold checkLimits
    rw [same, named]
  · obtain ⟨none, shown⟩ := limits_of_hides zero hides
    refine ⟨none, shown, fun selected population => ?_⟩
    obtain ⟨turned, kept⟩ :=
      ResourceLimits.exceeded_withPercent none percent selected population
    refine ⟨?_, fun passes => ?_⟩
    · rw [isOk_checkLimits, isOk_checkLimits, shown, ne_eq, Bool.not_inj_iff]
      exact turned
    · unfold checkLimits at passes ⊢
      rw [shown] at passes
      split at passes
      · cases passes
      · rename_i within
        exact if_neg (fun exceeds => within (kept exceeds))

namespace Sample

/-- At most half of the alarms, an amount of zero in the pair and a percentage of zero beside it. -/
def halfAndZeros : Policy where
  name := "half"
  resource := "alarm"
  description := none
  filters := []
  actions := []
  maxResources := some (.limits (some 0) (some (.ofInt 50)) .either)
  maxPercent := some (.ofInt 0)

end Sample

/-- The amount of zero makes no difference. The percentage of zero does: two of two alarms are too
many for half of them, and pass because of it. -/
theorem Policy.checkLimits_without_half
    : Sample.halfAndZeros.HasZero .amount
      ∧ (∀ selected population,
          (Sample.halfAndZeros.without .amount).checkLimits selected population
          = Sample.halfAndZeros.checkLimits selected population)
      ∧ Sample.halfAndZeros.HasZero .ownPercent
      ∧ Sample.halfAndZeros.checkLimits 2 2 = .ok ()
      ∧ (Sample.halfAndZeros.without .ownPercent).checkLimits 2 2 ≠ .ok () := by
  have zeroAmount : Sample.halfAndZeros.HasZero .amount := rfl
  have zeroPercent : Sample.halfAndZeros.HasZero .ownPercent := ⟨_, rfl, rfl⟩
  have passes : Sample.halfAndZeros.checkLimits 2 2 = .ok () := rfl
  have plain : ∀ percent, ¬Sample.halfAndZeros.Hides .amount percent :=
    fun _ hides => nomatch hides.own
  have hides : Sample.halfAndZeros.Hides .ownPercent (.ofInt 50) := ⟨rfl, rfl, rfl⟩
  obtain ⟨_, _, decided⟩ := (checkLimits_without zeroPercent).2 _ hides
  have differ := (decided 2 2).1.mpr ⟨by decide, rfl, by decide⟩
  refine ⟨zeroAmount, ((checkLimits_without zeroAmount).1 plain).2, zeroPercent, passes, ?_⟩
  intro passesToo
  rw [passes, passesToo] at differ
  exact differ rfl

end Remediation
