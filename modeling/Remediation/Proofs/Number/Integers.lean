import Remediation.Proofs.Number.Rounding

/-! The doubles next to integers. Of an integer with more than 53 bits a double keeps the leading
53, rounded half to even, so that comparing the doubles of two integers is comparing what is kept of
them.
-/

namespace Remediation.Binary64

-----------------------------------------------------------------------------------------
-- Leading bits
-----------------------------------------------------------------------------------------

/-- How many of its bits a natural number loses when the leading 53 are kept. -/
def lostBits (n : Nat) : Nat := n.log2 - 52

/-- The natural number next to another one that its leading 53 bits can hold; of two that are
equally near the one that is even in its last place. -/
def nearestNat (n : Nat) : Nat :=
  roundHalfEven n (2 ^ lostBits n) * 2 ^ lostBits n

/-- What a double keeps of an integer. -/
def nearest (n : Int) : Int :=
  signed (decide (n < 0)) (nearestNat n.natAbs)

theorem lostBits_of_lt {n : Nat} (few : n < 2 ^ 53) : lostBits n = 0 := by
  rcases Nat.eq_zero_or_pos n with rfl | some
  · rfl
  · have bits := (Nat.log2_lt some.ne').mpr few
    unfold lostBits
    omega

theorem roundHalfEven_one (n : Nat) : roundHalfEven n 1 = n := by
  simp [roundHalfEven, Nat.mod_one]

/-- Integers of 53 bits are kept. -/
theorem nearestNat_of_lt {n : Nat} (few : n < 2 ^ 53) : nearestNat n = n := by
  rw [nearestNat, lostBits_of_lt few, pow_zero, roundHalfEven_one, mul_one]

/-- A positive natural number is counted in units of its last place that is kept. -/
theorem exponentFor_nat {n : Nat} (some : 0 < n) : exponentFor n 1 = (n.log2 : Int) - 52 := by
  obtain ⟨_, below, normal⟩ := exponentFor_bounds some Nat.one_pos
  have low : (2 : ℚ) ^ (n.log2 : Int) ≤ n := by exact_mod_cast Nat.log2_self_le some.ne'
  have high : (n : ℚ) < 2 ^ ((n.log2 : Int) + 1) := by exact_mod_cast Nat.lt_log2_self
  rw [Nat.cast_one, div_one] at below normal
  have first := (zpow_lt_zpow_iff_right₀ one_lt_two).mp (low.trans_lt below)
  rcases normal with least | atLeast
  · rw [least] at first
    have : (0 : Int) ≤ n.log2 := Int.natCast_nonneg _
    simp only [leastExponent] at first
    omega
  · have second := (zpow_lt_zpow_iff_right₀ one_lt_two).mp (atLeast.trans_lt high)
    omega

/-- Rounding a natural number to a double keeps its leading bits. -/
theorem rounded_nat (n : Nat) : rounded n 1 = nearestNat n := by
  rcases Nat.eq_zero_or_pos n with rfl | some
  · rw [rounded, unitsOf_zero Nat.one_pos, nearestNat_of_lt (by decide), Nat.cast_zero, zero_mul]
  · rw [rounded, unitsOf, exponentFor_nat some]
    rcases Nat.lt_or_ge n.log2 53 with few | many
    · -- The units are fractions of one, so that nothing is lost.
      rw [nearestNat_of_lt ((Nat.log2_lt some.ne').mp few)]
      obtain ⟨spare, bits⟩ := Nat.exists_eq_add_of_le (Nat.lt_succ_iff.mp few)
      have exponent : (n.log2 : Int) - 52 = -(spare : Int) := by omega
      have units : inUnits n 1 (-(spare : Int)) = (n * 2 ^ spare, 1) := by
        unfold inUnits
        split
        · rename_i nonnegative
          obtain rfl : spare = 0 := by omega
          simp
        · rw [neg_neg, Int.toNat_natCast, Nat.shiftLeft_eq]
      rw [exponent, units, roundHalfEven_one, zpow_neg, zpow_natCast]
      push_cast
      field_simp
    · obtain ⟨lost, bits⟩ := Nat.exists_eq_add_of_le (Nat.le_of_succ_le many)
      have exponent : (n.log2 : Int) - 52 = (lost : Int) := by omega
      have same : lostBits n = lost := by
        unfold lostBits
        omega
      have units : inUnits n 1 (lost : Int) = (n, 2 ^ lost) := by
        simp [inUnits, Nat.shiftLeft_eq]
      rw [exponent, units, nearestNat, same, zpow_natCast]
      push_cast
      rfl

/-- Of two natural numbers no less is kept of the larger one. -/
theorem nearestNat_mono {fewer more : Nat} (le : fewer ≤ more)
    : nearestNat fewer ≤ nearestNat more := by
  have ratios : (fewer : ℚ) / (1 : Nat) ≤ more / (1 : Nat) := by simpa using le
  have kept := rounded_mono Nat.one_pos Nat.one_pos ratios
  rw [rounded_nat, rounded_nat] at kept
  exact_mod_cast kept

theorem nearestNat_zero : nearestNat 0 = 0 := nearestNat_of_lt (by decide)

/-- What is kept is no farther away than half a unit of the last place that is kept. -/
theorem nearestNat_near (n : Nat)
    : 2 * n ≤ 2 * nearestNat n + 2 ^ lostBits n ∧ 2 * nearestNat n ≤ 2 * n + 2 ^ lostBits n := by
  have parts := Nat.div_add_mod n (2 ^ lostBits n)
  have below := Nat.mod_lt n (Nat.two_pow_pos (lostBits n))
  unfold nearestNat roundHalfEven
  rw [Nat.mul_comm] at parts
  generalize 2 ^ lostBits n = unit at *
  generalize n / unit = quotient at *
  generalize n % unit = remainder at *
  dsimp only
  have next : (quotient + 1) * unit = quotient * unit + unit := Nat.succ_mul quotient unit
  split_ifs <;> omega

-----------------------------------------------------------------------------------------
-- Integers
-----------------------------------------------------------------------------------------

theorem nearest_of_natAbs_le {n : Int} (few : n.natAbs ≤ 2 ^ 53) : nearest n = n := by
  have kept : nearestNat n.natAbs = n.natAbs := by
    rcases Nat.lt_or_eq_of_le few with less | full
    · exact nearestNat_of_lt less
    · rw [full]
      decide +kernel
  rw [nearest, kept, signed]
  split
  · rename_i negative
    have := of_decide_eq_true negative
    omega
  · rename_i nonnegative
    have := of_decide_eq_false (Bool.not_eq_true _ ▸ nonnegative)
    omega

/-- Of two integers no less is kept of the larger one. -/
theorem nearest_mono {fewer more : Int} (le : fewer ≤ more) : nearest fewer ≤ nearest more := by
  unfold nearest signed
  by_cases negative : fewer < 0 <;> by_cases negative' : more < 0
  · have kept := nearestNat_mono (show more.natAbs ≤ fewer.natAbs by omega)
    simp only [negative, negative', decide_true, if_true]
    omega
  · simp only [negative, negative', decide_true, decide_false, if_true, Bool.false_eq_true,
      if_false]
    omega
  · omega
  · have kept := nearestNat_mono (show fewer.natAbs ≤ more.natAbs by omega)
    simp only [negative, negative', decide_false, Bool.false_eq_true, if_false]
    omega

theorem natAbs_nearest (n : Int) : (nearest n).natAbs = nearestNat n.natAbs := by
  unfold nearest signed
  split <;> omega

/-- What is kept of two integers is in the order of the integers, or the same. -/
theorem compare_nearest {a b : Int} (apart : Ord.compare (nearest a) (nearest b) ≠ .eq)
    : Ord.compare (nearest a) (nearest b) = Ord.compare a b := by
  rcases lt_trichotomy a b with less | rfl | greater
  · have kept := lt_of_le_of_ne (nearest_mono less.le)
      (fun same => apart (compare_eq_iff_eq.mpr same))
    rw [compare_lt_iff_lt.mpr kept, compare_lt_iff_lt.mpr less]
  · exact absurd (compare_eq_iff_eq.mpr rfl) apart
  · have kept := lt_of_le_of_ne (nearest_mono greater.le)
      (fun same => apart (compare_eq_iff_eq.mpr same.symm))
    rw [compare_gt_iff_gt.mpr kept, compare_gt_iff_gt.mpr greater]

/-- An integer of which the same is kept as of one with less than 53 bits is that one. -/
theorem eq_of_nearest_eq {a b : Int} (same : nearest a = nearest b) (few : a.natAbs < 2 ^ 53)
    : a = b := by
  rcases Nat.lt_or_ge b.natAbs (2 ^ 53) with few' | many
  · rwa [nearest_of_natAbs_le few.le, nearest_of_natAbs_le few'.le] at same
  · have kept := nearestNat_mono many
    have full : nearestNat (2 ^ 53) = 2 ^ 53 := by decide +kernel
    rw [full, ← natAbs_nearest, ← same, natAbs_nearest, nearestNat_of_lt few] at kept
    omega

/-- Two different integers of which the same is kept have more than 53 bits, but for the least one
with 54, and are no farther apart than half a unit of each of their last places that are kept.
-/
theorem near_of_nearest_eq {a b : Int} (same : nearest a = nearest b) (different : a ≠ b)
    : 2 ^ 53 ≤ a.natAbs ∧ 2 ^ 53 ≤ b.natAbs
      ∧ 2 * (a - b).natAbs ≤ 2 ^ lostBits a.natAbs + 2 ^ lostBits b.natAbs := by
  have far : 2 ^ 53 ≤ a.natAbs := by
    by_contra few
    exact different (eq_of_nearest_eq same (not_le.mp few))
  have far' : 2 ^ 53 ≤ b.natAbs := by
    by_contra few
    exact different (eq_of_nearest_eq same.symm (not_le.mp few)).symm
  refine ⟨far, far', ?_⟩
  have near := nearestNat_near a.natAbs
  have near' := nearestNat_near b.natAbs
  have full : nearestNat (2 ^ 53) = 2 ^ 53 := by decide +kernel
  have large := nearestNat_mono far
  have large' := nearestNat_mono far'
  rw [full] at large large'
  have sizes := congrArg Int.natAbs same
  rw [natAbs_nearest, natAbs_nearest] at sizes
  have signs : a < 0 ↔ b < 0 := by
    unfold nearest signed at same
    by_cases negative : a < 0 <;> by_cases negative' : b < 0 <;>
      simp only [negative, negative', decide_true, decide_false, if_true, Bool.false_eq_true,
        if_false] at same ⊢ <;> omega
  generalize 2 ^ lostBits a.natAbs = unit at *
  generalize 2 ^ lostBits b.natAbs = unit' at *
  omega

-----------------------------------------------------------------------------------------
-- Comparing
-----------------------------------------------------------------------------------------

/-- Whether an integer fits 64 bits, with or without a sign. -/
def Fits64 (n : Int) : Prop := -2 ^ 63 ≤ n ∧ n < 2 ^ 64

instance (n : Int) : Decidable (Fits64 n) := inferInstanceAs (Decidable (_ ∧ _))

/-- The double of an integer of 64 bits is what it keeps of the integer. -/
theorem exists_ofInt {n : Int} (fits : Fits64 n)
    : ∃ significand exponent,
        ofInt n = .finite (decide (n < 0)) significand exponent
        ∧ (significand * 2 ^ exponent : ℚ) = nearestNat n.natAbs := by
  have kept := magnitude_ofRatio (decide (n < 0)) n.natAbs Nat.one_pos
  have small : rounded n.natAbs 1 < 2 ^ (greatestExponent + 53) := by
    have most := nearestNat_mono (show n.natAbs ≤ 2 ^ 64 by have := fits.1; have := fits.2; omega)
    have power : nearestNat (2 ^ 64) = 2 ^ 64 := by decide +kernel
    rw [power] at most
    rw [rounded_nat]
    calc
      (nearestNat n.natAbs : ℚ) ≤ (2 ^ 64 : Nat) := by exact_mod_cast most
      _ = 2 ^ (64 : Int) := by norm_num
      _ < 2 ^ (greatestExponent + 53) := zpow_lt_zpow_right₀ one_lt_two (by decide)
  rw [if_pos small, rounded_nat] at kept
  rw [ofInt]
  rcases Nat.eq_zero_or_pos n.natAbs with none | some
  · rw [none] at kept ⊢
    refine ⟨0, leastExponent, rfl, ?_⟩
    rw [nearestNat_zero]
    simp
  · rw [ofRatio_eq _ some] at kept ⊢
    unfold ofUnits at kept ⊢
    split_ifs at kept ⊢
    · cases kept
    · exact ⟨_, _, rfl, WithTop.coe_injective kept⟩
    · cases kept
    · exact ⟨_, _, rfl, WithTop.coe_injective kept⟩

/-- Numbers counted in one unit compare as their counts do. -/
theorem compare_of_unit {x y u v : Int} {unit : ℚ} (positive : 0 < unit)
    (first : (x : ℚ) = u * unit) (second : (y : ℚ) = v * unit)
    : Ord.compare u v = Ord.compare x y := by
  rcases lt_trichotomy x y with less | rfl | greater
  · rw [compare_lt_iff_lt.mpr less, compare_lt_iff_lt]
    have scaled : (x : ℚ) < y := by exact_mod_cast less
    rw [first, second] at scaled
    exact_mod_cast lt_of_mul_lt_mul_right scaled positive.le
  · have same : (u : ℚ) = v := mul_right_cancel₀ positive.ne' (first.symm.trans second)
    rw [Int.cast_injective same, compare_eq_iff_eq.mpr rfl, compare_eq_iff_eq.mpr rfl]
  · rw [compare_gt_iff_gt.mpr greater, compare_gt_iff_gt]
    have scaled : (y : ℚ) < x := by exact_mod_cast greater
    rw [first, second] at scaled
    exact_mod_cast lt_of_mul_lt_mul_right scaled positive.le

theorem atBase_value (negative : Bool) (significand : Nat) {exponent base : Int}
    (le : base ≤ exponent) {kept : Nat} (value : (significand * 2 ^ exponent : ℚ) = kept)
    : (signed negative kept : ℚ) = atBase negative significand exponent base * 2 ^ base := by
  have shifted := (cast_shiftLeft significand le).trans value
  unfold atBase signed
  split
  · rw [Int.cast_neg, Int.cast_neg, Int.cast_natCast, Int.cast_natCast, neg_mul, shifted]
  · rw [Int.cast_natCast, Int.cast_natCast, shifted]

/-- The doubles of two integers of 64 bits compare as what they keep of the integers. -/
theorem compare_ofInt {a b : Int} (fits : Fits64 a) (fits' : Fits64 b)
    : (ofInt a).compare (ofInt b) = some (Ord.compare (nearest a) (nearest b)) := by
  obtain ⟨significand, exponent, same, value⟩ := exists_ofInt fits
  obtain ⟨significand', exponent', same', value'⟩ := exists_ofInt fits'
  rw [same, same', compare]
  exact congrArg some (compare_of_unit (zpow_pos two_pos (min exponent exponent'))
    (atBase_value _ significand (min_le_left _ _) value)
    (atBase_value _ significand' (min_le_right _ _) value'))

end Remediation.Binary64
