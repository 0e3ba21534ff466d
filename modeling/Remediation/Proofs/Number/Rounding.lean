import Mathlib.Algebra.Order.Field.Power
import Mathlib.Data.Rat.Cast.Order
import Mathlib.Tactic.FieldSimp
import Mathlib.Tactic.Linarith
import Mathlib.Tactic.NormNum
import Mathlib.Tactic.Positivity
import Mathlib.Tactic.Ring
import Remediation.Number.Binary64

/-! Rounding keeps the order of ratios. A ratio is counted in units of a power of two that grows
with it, so that of two ratios the larger one has the larger unit, or they have the same one and are
rounded to integers.
-/

namespace Remediation.Binary64

-----------------------------------------------------------------------------------------
-- Rounding to integers
-----------------------------------------------------------------------------------------

/-- A ratio is rounded to at most an integer if it is below the middle between this integer and the
next one, or right in the middle and the integer is even. -/
theorem roundHalfEven_le_iff {numerator denominator most : Nat} (positive : 0 < denominator)
    : roundHalfEven numerator denominator ≤ most
      ↔ 2 * numerator < (2 * most + 1) * denominator
        ∨ 2 * numerator = (2 * most + 1) * denominator ∧ most % 2 = 0 := by
  have parts := Nat.div_add_mod numerator denominator
  have below := Nat.mod_lt numerator positive
  have middle : (2 * most + 1) * denominator = 2 * (denominator * most) + denominator := by ring
  rw [middle]
  unfold roundHalfEven
  generalize numerator / denominator = quotient at *
  generalize numerator % denominator = remainder at *
  dsimp only
  rcases Nat.lt_trichotomy quotient most with less | rfl | more
  · have apart := Nat.mul_le_mul_left denominator (Nat.succ_le_of_lt less)
    rw [Nat.mul_succ] at apart
    split_ifs <;> omega
  · split_ifs <;> omega
  · have apart := Nat.mul_le_mul_left denominator (Nat.succ_le_of_lt more)
    rw [Nat.mul_succ] at apart
    split_ifs <;> omega

/-- Of two ratios, the larger one is not rounded to less. -/
theorem roundHalfEven_mono {numerator denominator numerator' denominator' : Nat}
    (positive : 0 < denominator) (positive' : 0 < denominator')
    (le : numerator * denominator' ≤ numerator' * denominator)
    : roundHalfEven numerator denominator ≤ roundHalfEven numerator' denominator' := by
  rw [roundHalfEven_le_iff positive]
  have largest :=
    (roundHalfEven_le_iff positive').mp (le_refl (roundHalfEven numerator' denominator'))
  generalize roundHalfEven numerator' denominator' = most at *
  rcases largest with below | ⟨middle, even⟩
  · refine .inl (lt_of_mul_lt_mul_right ?_ (Nat.zero_le denominator'))
    calc
      2 * numerator * denominator' ≤ 2 * numerator' * denominator := by
        rw [Nat.mul_assoc, Nat.mul_assoc]
        exact Nat.mul_le_mul_left 2 le
      _ < (2 * most + 1) * denominator' * denominator := Nat.mul_lt_mul_of_pos_right below positive
      _ = (2 * most + 1) * denominator * denominator' := Nat.mul_right_comm _ _ _
  · have atMost : 2 * numerator ≤ (2 * most + 1) * denominator := by
      refine Nat.le_of_mul_le_mul_right ?_ positive'
      calc
        2 * numerator * denominator' ≤ 2 * numerator' * denominator := by
          rw [Nat.mul_assoc, Nat.mul_assoc]
          exact Nat.mul_le_mul_left 2 le
        _ = (2 * most + 1) * denominator * denominator' := by
          rw [middle]
          exact Nat.mul_right_comm _ _ _
    rcases Nat.lt_or_eq_of_le atMost with less | same
    · exact .inl less
    · exact .inr ⟨same, even⟩

/-- A ratio that is at most an integer is rounded to at most that integer. -/
theorem roundHalfEven_le {numerator denominator most : Nat} (positive : 0 < denominator)
    (le : numerator ≤ most * denominator)
    : roundHalfEven numerator denominator ≤ most := by
  refine (roundHalfEven_le_iff positive).mpr (.inl ?_)
  rw [Nat.add_mul, Nat.one_mul, Nat.mul_assoc]
  omega

/-- A ratio that is at least an integer is rounded to at least that integer. -/
theorem le_roundHalfEven {numerator denominator least : Nat} (positive : 0 < denominator)
    (le : least * denominator ≤ numerator)
    : least ≤ roundHalfEven numerator denominator := by
  have floor : least ≤ numerator / denominator := (Nat.le_div_iff_mul_le positive).mpr le
  unfold roundHalfEven
  dsimp only
  split_ifs <;> omega

-----------------------------------------------------------------------------------------
-- Units of a ratio
-----------------------------------------------------------------------------------------

theorem inUnits_pos {numerator denominator : Nat} (positive : 0 < denominator) (exponent : Int)
    : 0 < (inUnits numerator denominator exponent).2 := by
  unfold inUnits
  split
  · rw [Nat.shiftLeft_eq]
    positivity
  · exact positive

/-- A ratio in units of a power of two is the ratio divided by this power. -/
theorem inUnits_ratio (numerator denominator : Nat) (exponent : Int)
    : ((inUnits numerator denominator exponent).1 : ℚ)
        / (inUnits numerator denominator exponent).2
      = numerator / denominator / 2 ^ exponent := by
  unfold inUnits
  split
  · rename_i nonnegative
    obtain ⟨power, rfl⟩ := Int.eq_ofNat_of_zero_le nonnegative
    simp only [Int.toNat_natCast, Nat.shiftLeft_eq, Nat.cast_mul, Nat.cast_pow, Nat.cast_ofNat,
      zpow_natCast]
    rw [div_div]
  · rename_i negative
    obtain ⟨power, rfl⟩ := Int.exists_eq_neg_ofNat (by omega : exponent ≤ 0)
    simp only [neg_neg, Int.toNat_natCast, Nat.shiftLeft_eq, Nat.cast_mul, Nat.cast_pow,
      Nat.cast_ofNat, zpow_neg, zpow_natCast]
    field_simp

/-- Whether a ratio has fewer whole units than some number. -/
theorem inUnits_lt_iff (numerator : Nat) {denominator : Nat} (positive : 0 < denominator)
    (exponent : Int) (bound : Nat)
    : (inUnits numerator denominator exponent).1 / (inUnits numerator denominator exponent).2
        < bound
      ↔ (numerator : ℚ) / denominator < bound * 2 ^ exponent := by
  have unit : (0 : ℚ) < (inUnits numerator denominator exponent).2 := by
    exact_mod_cast inUnits_pos positive exponent
  rw [Nat.div_lt_iff_lt_mul (inUnits_pos positive exponent),
    ← div_lt_iff₀ (zpow_pos two_pos exponent), ← inUnits_ratio, div_lt_iff₀ unit]
  exact_mod_cast Iff.rfl

theorem full_zpow (exponent : Int) : (leastFull : ℚ) * 2 ^ exponent = 2 ^ (exponent + 52) := by
  rw [zpow_add₀ two_ne_zero, mul_comm]
  congr 1

theorem overfull_zpow (exponent : Int)
    : ((2 * leastFull : Nat) : ℚ) * 2 ^ exponent = 2 ^ (exponent + 53) := by
  rw [zpow_add₀ two_ne_zero, mul_comm]
  congr 1

/-- A positive ratio lies between two powers of two. -/
theorem ratio_bounds {numerator denominator : Nat} (some : 0 < numerator)
    (positive : 0 < denominator)
    : (2 : ℚ) ^ ((numerator.log2 : Int) - denominator.log2 - 1) ≤ numerator / denominator
      ∧ (numerator : ℚ) / denominator < 2 ^ ((numerator.log2 : Int) - denominator.log2 + 1) := by
  have low : (2 : ℚ) ^ (numerator.log2 : Int) ≤ numerator := by
    exact_mod_cast Nat.log2_self_le some.ne'
  have high : (numerator : ℚ) < 2 ^ ((numerator.log2 : Int) + 1) := by
    exact_mod_cast Nat.lt_log2_self
  have low' : (2 : ℚ) ^ (denominator.log2 : Int) ≤ denominator := by
    exact_mod_cast Nat.log2_self_le positive.ne'
  have high' : (denominator : ℚ) < 2 ^ ((denominator.log2 : Int) + 1) := by
    exact_mod_cast Nat.lt_log2_self
  have positive' : (0 : ℚ) < denominator := by exact_mod_cast positive
  constructor
  · rw [le_div_iff₀ positive']
    calc
      (2 : ℚ) ^ ((numerator.log2 : Int) - denominator.log2 - 1) * denominator
          ≤ 2 ^ ((numerator.log2 : Int) - denominator.log2 - 1)
            * 2 ^ ((denominator.log2 : Int) + 1) := by gcongr
      _ = 2 ^ (numerator.log2 : Int) := by
          rw [← zpow_add₀ two_ne_zero]
          congr 1
          ring
      _ ≤ numerator := low
  · rw [div_lt_iff₀ positive']
    calc
      (numerator : ℚ) < 2 ^ ((numerator.log2 : Int) + 1) := high
      _ = 2 ^ ((numerator.log2 : Int) - denominator.log2 + 1) * 2 ^ (denominator.log2 : Int) := by
          rw [← zpow_add₀ two_ne_zero]
          congr 1
          ring
      _ ≤ 2 ^ ((numerator.log2 : Int) - denominator.log2 + 1) * denominator := by gcongr

/-- Were there no least exponent, a positive ratio would always have 53 bits. -/
theorem exists_exponentFor {numerator denominator : Nat} (some : 0 < numerator)
    (positive : 0 < denominator)
    : ∃ exponent,
        exponentFor numerator denominator = max leastExponent exponent
        ∧ (2 : ℚ) ^ (exponent + 52) ≤ numerator / denominator
        ∧ (numerator : ℚ) / denominator < 2 ^ (exponent + 53) := by
  obtain ⟨low, high⟩ := ratio_bounds some positive
  have fewer :=
    inUnits_lt_iff numerator positive ((numerator.log2 : Int) - denominator.log2 - 52) leastFull
  rw [full_zpow] at fewer
  unfold exponentFor
  dsimp only
  split
  · rename_i few
    refine ⟨_, rfl, ?_, ?_⟩
    · convert low using 2
      ring
    · convert fewer.mp few using 2
      ring
  · rename_i many
    refine ⟨_, rfl, ?_, ?_⟩
    · exact not_lt.mp (fun less => many (fewer.mpr less))
    · convert high using 2
      ring

/-- A positive ratio has less than `2 ^ 53` of its units, and at least `2 ^ 52` of them unless they
are the least ones. -/
theorem exponentFor_bounds {numerator denominator : Nat} (some : 0 < numerator)
    (positive : 0 < denominator)
    : leastExponent ≤ exponentFor numerator denominator
      ∧ (numerator : ℚ) / denominator < 2 ^ (exponentFor numerator denominator + 53)
      ∧ (exponentFor numerator denominator = leastExponent
        ∨ (2 : ℚ) ^ (exponentFor numerator denominator + 52) ≤ numerator / denominator) := by
  obtain ⟨exponent, same, atLeast, below⟩ := exists_exponentFor some positive
  rw [same]
  refine ⟨le_max_left _ _, ?_, ?_⟩
  · refine below.trans_le (zpow_le_zpow_right₀ one_le_two ?_)
    exact add_le_add_left (le_max_right _ _) 53
  · rcases le_total leastExponent exponent with within | beyond
    · rw [max_eq_right within]
      exact .inr atLeast
    · exact .inl (max_eq_left beyond)

-----------------------------------------------------------------------------------------
-- Rounding to numbers
-----------------------------------------------------------------------------------------

/-- How many of its units a ratio is rounded to. -/
def unitsOf (numerator denominator : Nat) : Nat :=
  roundHalfEven (inUnits numerator denominator (exponentFor numerator denominator)).1
    (inUnits numerator denominator (exponentFor numerator denominator)).2

/-- What a ratio is rounded to where no number is too great. -/
def rounded (numerator denominator : Nat) : ℚ :=
  unitsOf numerator denominator * 2 ^ exponentFor numerator denominator

theorem unitsOf_le {numerator denominator : Nat} (some : 0 < numerator) (positive : 0 < denominator)
    : unitsOf numerator denominator ≤ 2 * leastFull := by
  obtain ⟨_, below, _⟩ := exponentFor_bounds some positive
  refine roundHalfEven_le (inUnits_pos positive _)
    ((Nat.div_lt_iff_lt_mul (inUnits_pos positive _)).mp ?_).le
  rw [inUnits_lt_iff numerator positive, overfull_zpow]
  exact below

theorem le_unitsOf {numerator denominator : Nat} (some : 0 < numerator)
    (positive : 0 < denominator)
    (normal : exponentFor numerator denominator ≠ leastExponent)
    : leastFull ≤ unitsOf numerator denominator := by
  obtain ⟨_, _, least | atLeast⟩ := exponentFor_bounds some positive
  · exact absurd least normal
  · refine le_roundHalfEven (inUnits_pos positive _) ?_
    rw [← Nat.le_div_iff_mul_le (inUnits_pos positive _)]
    by_contra few
    rw [not_le, inUnits_lt_iff numerator positive, full_zpow] at few
    exact absurd few (not_lt.mpr atLeast)

theorem unitsOf_zero {denominator : Nat} (positive : 0 < denominator)
    : unitsOf 0 denominator = 0 := by
  have none (exponent : Int) : (inUnits 0 denominator exponent).1 = 0 := by
    unfold inUnits
    split
    · rfl
    · exact Nat.zero_shiftLeft _
  refine Nat.le_zero.mp (roundHalfEven_le (inUnits_pos positive _) ?_)
  rw [none]
  exact Nat.zero_le _

/-- Of two ratios, the larger one is not rounded to less. -/
theorem rounded_mono {numerator denominator numerator' denominator' : Nat}
    (positive : 0 < denominator) (positive' : 0 < denominator')
    (le : (numerator : ℚ) / denominator ≤ numerator' / denominator')
    : rounded numerator denominator ≤ rounded numerator' denominator' := by
  rcases Nat.eq_zero_or_pos numerator with rfl | some
  · rw [rounded, unitsOf_zero positive, Nat.cast_zero, zero_mul, rounded]
    positivity
  · have some' : 0 < numerator' := by
      have ratio : (0 : ℚ) < numerator / denominator := by positivity
      by_contra none
      rw [Nat.le_zero.mp (not_lt.mp none), Nat.cast_zero, zero_div] at le
      exact absurd le (not_le.mpr ratio)
    obtain ⟨least, _, normal⟩ := exponentFor_bounds some positive
    obtain ⟨least', below', _⟩ := exponentFor_bounds some' positive'
    rcases lt_trichotomy (exponentFor numerator denominator) (exponentFor numerator' denominator')
      with less | same | more
    · calc
        rounded numerator denominator
            ≤ (2 * leastFull : Nat) * 2 ^ exponentFor numerator denominator := by
          unfold rounded
          gcongr
          exact unitsOf_le some positive
        _ = 2 ^ (exponentFor numerator denominator + 53) := overfull_zpow _
        _ ≤ 2 ^ (exponentFor numerator' denominator' + 52) :=
          zpow_le_zpow_right₀ one_le_two (by omega)
        _ = leastFull * 2 ^ exponentFor numerator' denominator' := (full_zpow _).symm
        _ ≤ rounded numerator' denominator' := by
          unfold rounded
          gcongr
          exact le_unitsOf some' positive' (by omega)
    · have units : unitsOf numerator denominator ≤ unitsOf numerator' denominator' := by
        refine roundHalfEven_mono (inUnits_pos positive _) (inUnits_pos positive' _) ?_
        have counted
            : ((inUnits numerator denominator (exponentFor numerator denominator)).1 : ℚ)
                / (inUnits numerator denominator (exponentFor numerator denominator)).2
              ≤ (inUnits numerator' denominator' (exponentFor numerator' denominator')).1
                / (inUnits numerator' denominator' (exponentFor numerator' denominator')).2 := by
          rw [inUnits_ratio, inUnits_ratio, same]
          gcongr
        rw [div_le_div_iff₀ (by exact_mod_cast inUnits_pos positive _)
          (by exact_mod_cast inUnits_pos positive' _)] at counted
        exact_mod_cast counted
      unfold rounded
      rw [same]
      gcongr
    · -- The larger unit would belong to the larger ratio.
      have atLeast := normal.resolve_left (by omega)
      have powers := (atLeast.trans le).trans_lt below'
      rw [zpow_lt_zpow_iff_right₀ one_lt_two] at powers
      omega

-----------------------------------------------------------------------------------------
-- Magnitudes
-----------------------------------------------------------------------------------------

/-- How great a number is, whatever its sign is; what is not finite is above all that is. -/
def magnitude : Binary64 → WithTop ℚ
  | .finite _ significand exponent => ((significand * 2 ^ exponent : ℚ) : WithTop ℚ)
  | .infinite _ | .nan => ⊤

/-- A number that has no negative sign. -/
def IsUnsigned : Binary64 → Prop
  | .finite negative _ _ | .infinite negative => negative = false
  | .nan => False

/-- The number with some units. Units that no longer fit are half as many of twice the size, and
units that are too great are infinity. -/
def ofUnits (negative : Bool) (units : Nat) (exponent : Int) : Binary64 :=
  if units = 2 * leastFull then
    if greatestExponent < exponent + 1 then .infinite negative
    else .finite negative leastFull (exponent + 1)
  else if greatestExponent < exponent then .infinite negative
  else .finite negative units exponent

theorem ofRatio_eq (negative : Bool) {numerator : Nat} (some : 0 < numerator) (denominator : Nat)
    : ofRatio negative numerator denominator
      = ofUnits negative (unitsOf numerator denominator) (exponentFor numerator denominator) := by
  unfold ofRatio ofUnits unitsOf
  rw [if_neg some.ne']
  dsimp only
  split <;> rfl

/-- Units that fit are a number that is as great as they are together, or infinity. -/
theorem magnitude_ofUnits (negative : Bool) {units : Nat} {exponent : Int}
    (atMost : units ≤ 2 * leastFull)
    (normal : exponent ≠ leastExponent → leastFull ≤ units)
    : (ofUnits negative units exponent).magnitude
      = if (units * 2 ^ exponent : ℚ) < 2 ^ (greatestExponent + 53) then
          ((units * 2 ^ exponent : ℚ) : WithTop ℚ)
        else ⊤ := by
  unfold ofUnits
  by_cases full : units = 2 * leastFull
  · have fits
        : (2 : ℚ) ^ (exponent + 53) < 2 ^ (greatestExponent + 53)
          ↔ exponent + 53 < greatestExponent + 53 :=
      zpow_lt_zpow_iff_right₀ one_lt_two
    rw [if_pos full, full, overfull_zpow]
    by_cases great : greatestExponent < exponent + 1
    · rw [if_pos great, if_neg (fun less => by have := fits.mp less; omega)]
      rfl
    · rw [if_neg great, if_pos (fits.mpr (by omega))]
      change ((leastFull * 2 ^ (exponent + 1) : ℚ) : WithTop ℚ) = _
      rw [full_zpow, show exponent + 1 + 52 = exponent + 53 by ring]
  · rw [if_neg full]
    by_cases great : greatestExponent < exponent
    · rw [if_pos great, if_neg]
      · rfl
      · rw [not_lt]
        calc
          (2 : ℚ) ^ (greatestExponent + 53) ≤ 2 ^ (exponent + 52) :=
            zpow_le_zpow_right₀ one_le_two (by omega)
          _ = leastFull * 2 ^ exponent := (full_zpow exponent).symm
          _ ≤ units * 2 ^ exponent := by
            gcongr
            exact normal (fun least => by rw [least] at great; exact absurd great (by decide))
    · rw [if_neg great, if_pos]
      · rfl
      · calc
          (units * 2 ^ exponent : ℚ) < (2 * leastFull : Nat) * 2 ^ exponent := by
            gcongr
            omega
          _ = 2 ^ (exponent + 53) := overfull_zpow exponent
          _ ≤ 2 ^ (greatestExponent + 53) := zpow_le_zpow_right₀ one_le_two (by omega)

/-- A ratio is rounded to a number or, if no number is great enough, to infinity. -/
theorem magnitude_ofRatio (negative : Bool) (numerator : Nat) {denominator : Nat}
    (positive : 0 < denominator)
    : (ofRatio negative numerator denominator).magnitude
      = if rounded numerator denominator < 2 ^ (greatestExponent + 53) then
          (rounded numerator denominator : WithTop ℚ)
        else ⊤ := by
  rcases Nat.eq_zero_or_pos numerator with rfl | some
  · have zero : rounded 0 denominator = 0 := by
      rw [rounded, unitsOf_zero positive, Nat.cast_zero, zero_mul]
    rw [zero, if_pos (by positivity)]
    simp [ofRatio, magnitude]
  · rw [ofRatio_eq negative some]
    exact magnitude_ofUnits negative (unitsOf_le some positive) (le_unitsOf some positive)

theorem isUnsigned_ofRatio (numerator denominator : Nat)
    : (ofRatio false numerator denominator).IsUnsigned := by
  rcases Nat.eq_zero_or_pos numerator with rfl | some
  · rfl
  · rw [ofRatio_eq false some]
    unfold ofUnits
    split_ifs <;> rfl

/-- Of two ratios, the larger one does not become a smaller number. -/
theorem magnitude_ofRatio_mono {negative negative' : Bool}
    {numerator denominator numerator' denominator' : Nat}
    (positive : 0 < denominator) (positive' : 0 < denominator')
    (le : (numerator : ℚ) / denominator ≤ numerator' / denominator')
    : (ofRatio negative numerator denominator).magnitude
      ≤ (ofRatio negative' numerator' denominator').magnitude := by
  have order := rounded_mono positive positive' le
  rw [magnitude_ofRatio negative numerator positive,
    magnitude_ofRatio negative' numerator' positive']
  by_cases fits : rounded numerator' denominator' < 2 ^ (greatestExponent + 53)
  · rw [if_pos fits, if_pos (order.trans_lt fits)]
    exact WithTop.coe_le_coe.mpr order
  · rw [if_neg fits]
    exact le_top

-----------------------------------------------------------------------------------------
-- Comparison
-----------------------------------------------------------------------------------------

/-- A significand counted in smaller units stands for the same number. -/
theorem cast_shiftLeft (significand : Nat) {exponent base : Int} (le : base ≤ exponent)
    : ((significand <<< (exponent - base).toNat : Nat) : ℚ) * 2 ^ base
      = significand * 2 ^ exponent := by
  obtain ⟨power, rfl⟩ := Int.le.dest le
  rw [add_sub_cancel_left, Int.toNat_natCast, Nat.shiftLeft_eq, zpow_add₀ two_ne_zero, zpow_natCast]
  push_cast
  ring

/-- Numbers without a negative sign are compared by how great they are. -/
theorem compare_eq_gt_iff {first second : Binary64} (unsigned : first.IsUnsigned)
    (unsigned' : second.IsUnsigned)
    : first.compare second = some .gt ↔ second.magnitude < first.magnitude := by
  cases first with
  | nan => exact unsigned.elim
  | infinite negative =>
      cases unsigned
      cases second with
      | nan => exact unsigned'.elim
      | infinite negative' =>
          cases unsigned'
          exact iff_of_false (by decide) (lt_irrefl ⊤)
      | finite negative' significand' exponent' => exact iff_of_true rfl (WithTop.coe_lt_top _)
  | finite negative significand exponent =>
      cases unsigned
      cases second with
      | nan => exact unsigned'.elim
      | infinite negative' =>
          cases unsigned'
          exact iff_of_false (fun greater => by cases greater) not_top_lt
      | finite negative' significand' exponent' =>
          cases unsigned'
          have left := cast_shiftLeft significand (min_le_left exponent exponent')
          have right := cast_shiftLeft significand' (min_le_right exponent exponent')
          change some
              (Ord.compare
                ((significand <<< (exponent - min exponent exponent').toNat : Nat) : Int)
                ((significand' <<< (exponent' - min exponent exponent').toNat : Nat) : Int))
              = some .gt
            ↔ ((significand' * 2 ^ exponent' : ℚ) : WithTop ℚ) < (significand * 2 ^ exponent : ℚ)
          rw [Option.some_inj, compare_gt_iff_gt, Nat.cast_lt, WithTop.coe_lt_coe, ← left,
            ← right, mul_lt_mul_iff_left₀ (zpow_pos two_pos _), Nat.cast_lt]

-----------------------------------------------------------------------------------------
-- Products and quotients
-----------------------------------------------------------------------------------------

theorem ratio_pos (significand : Nat) (exponent : Int) : 0 < (ratio significand exponent).2 := by
  unfold ratio
  split
  · exact Nat.one_pos
  · rw [Nat.shiftLeft_eq]
    positivity

theorem ratio_value (significand : Nat) (exponent : Int)
    : ((ratio significand exponent).1 : ℚ) / (ratio significand exponent).2
      = significand * 2 ^ exponent := by
  unfold ratio
  split
  · rename_i nonnegative
    obtain ⟨power, rfl⟩ := Int.eq_ofNat_of_zero_le nonnegative
    simp [Nat.shiftLeft_eq]
  · rename_i negative
    obtain ⟨power, rfl⟩ := Int.exists_eq_neg_ofNat (by omega : exponent ≤ 0)
    simp [Nat.shiftLeft_eq, div_eq_mul_inv]

/-- An operation that multiplies numbers without a negative sign by a factor and rounds once. -/
structure Scales (operation : Binary64 → Binary64) (factor : ℚ) : Prop where
  positive : 0 < factor
  infinite : operation (.infinite false) = .infinite false
  finite
    : ∀ significand exponent, ∃ numerator denominator,
        0 < denominator
        ∧ operation (.finite false significand exponent) = ofRatio false numerator denominator
        ∧ (numerator : ℚ) / denominator = significand * 2 ^ exponent * factor

theorem Scales.isUnsigned {operation : Binary64 → Binary64} {factor : ℚ}
    (scales : Scales operation factor) {number : Binary64} (unsigned : number.IsUnsigned)
    : (operation number).IsUnsigned := by
  cases number with
  | nan => exact unsigned.elim
  | infinite negative =>
      cases unsigned
      rw [scales.infinite]
      rfl
  | finite negative significand exponent =>
      cases unsigned
      obtain ⟨numerator, denominator, _, same, _⟩ := scales.finite significand exponent
      rw [same]
      exact isUnsigned_ofRatio numerator denominator

/-- Scaling keeps the order. -/
theorem Scales.mono {operation : Binary64 → Binary64} {factor : ℚ}
    (scales : Scales operation factor) {smaller larger : Binary64} (unsigned : smaller.IsUnsigned)
    (unsigned' : larger.IsUnsigned) (le : smaller.magnitude ≤ larger.magnitude)
    : (operation smaller).magnitude ≤ (operation larger).magnitude := by
  cases larger with
  | nan => exact unsigned'.elim
  | infinite negative' =>
      cases unsigned'
      rw [scales.infinite]
      exact le_top
  | finite negative' significand' exponent' =>
      cases unsigned'
      cases smaller with
      | nan => exact unsigned.elim
      | infinite negative =>
          cases unsigned
          exact absurd (top_le_iff.mp le) (WithTop.coe_ne_top)
      | finite negative significand exponent =>
          cases unsigned
          obtain ⟨_, _, positive, same, value⟩ := scales.finite significand exponent
          obtain ⟨_, _, positive', same', value'⟩ := scales.finite significand' exponent'
          rw [same, same']
          refine magnitude_ofRatio_mono positive positive' ?_
          rw [value, value']
          exact mul_le_mul_of_nonneg_right (WithTop.coe_le_coe.mp le) scales.positive.le

theorem mul_scales {significand : Nat} (some : significand ≠ 0) (exponent : Int)
    : Scales (·.mul (.finite false significand exponent)) (significand * 2 ^ exponent) where
  positive := by
    have : 0 < significand := Nat.pos_of_ne_zero some
    positivity
  infinite := by
    simp [mul, some]
  finite := by
    intro significand' exponent'
    refine ⟨(ratio (significand' * significand) (exponent' + exponent)).1, _, ratio_pos _ _,
      rfl, ?_⟩
    rw [ratio_value, zpow_add₀ two_ne_zero]
    push_cast
    ring

theorem div_scales {significand : Nat} (some : significand ≠ 0) (exponent : Int)
    : Scales (·.div (.finite false significand exponent)) (significand * 2 ^ exponent)⁻¹ where
  positive := by
    have : 0 < significand := Nat.pos_of_ne_zero some
    positivity
  infinite := rfl
  finite := by
    intro significand' exponent'
    refine ⟨(ratio significand' (exponent' - exponent)).1,
      (ratio significand' (exponent' - exponent)).2 * significand,
      Nat.mul_pos (ratio_pos _ _) (Nat.pos_of_ne_zero some), ?_, ?_⟩
    · simp [div, some]
    · rw [Nat.cast_mul, ← div_div, ratio_value, zpow_sub₀ two_ne_zero]
      field_simp

-----------------------------------------------------------------------------------------
-- Integers
-----------------------------------------------------------------------------------------

theorem isUnsigned_ofInt (count : Nat) : (ofInt count).IsUnsigned :=
  isUnsigned_ofRatio _ _

/-- Of two counts, the larger one is not a smaller number. -/
theorem magnitude_ofInt_mono {fewer more : Nat} (le : fewer ≤ more)
    : (ofInt fewer).magnitude ≤ (ofInt more).magnitude := by
  refine magnitude_ofRatio_mono Nat.one_pos Nat.one_pos ?_
  simpa using le

theorem magnitude_ofInt_zero : (ofInt (0 : Nat)).magnitude = 0 := by
  change ((((0 : Nat) : ℚ) * 2 ^ leastExponent : ℚ) : WithTop ℚ) = 0
  rw [Nat.cast_zero, zero_mul, WithTop.coe_zero]

/-- A number that is infinite times is infinite, unless there are none. -/
theorem ofInt_mul_infinite {count : Nat} (some : 0 < count)
    : (ofInt count).mul (.infinite false) = .infinite false := by
  have unsigned := isUnsigned_ofInt count
  have above := magnitude_ofInt_mono some
  generalize ofInt count = number at *
  cases number with
  | nan => exact unsigned.elim
  | infinite negative =>
      cases unsigned
      rfl
  | finite negative significand exponent =>
      cases unsigned
      have positive : significand ≠ 0 := by
        rintro rfl
        have one : ofInt (1 : Nat) = .finite false leastFull (-52) := rfl
        rw [Nat.succ_eq_add_one, zero_add, one] at above
        have impossible := WithTop.coe_le_coe.mp above
        rw [full_zpow, Nat.cast_zero, zero_mul] at impossible
        exact absurd impossible (by norm_num)
      simp [mul, positive]

theorem magnitude_nonneg (number : Binary64) : 0 ≤ number.magnitude := by
  cases number with
  | nan | infinite _ => exact le_top
  | finite negative significand exponent =>
      refine WithTop.coe_nonneg.mpr ?_
      positivity

end Remediation.Binary64
