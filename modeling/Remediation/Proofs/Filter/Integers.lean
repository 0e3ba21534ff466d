import Remediation.Proofs.Filter.Elements
import Remediation.Proofs.Number.Integers

/-! Integers in filters and selectors. Numbers compare as doubles, so that of two integers it is
what doubles keep of them that compares: never in the wrong order, but two large integers that are
next to each other can count as one.
-/

namespace Remediation

open Binary64 (Fits64 nearest lostBits)

/-- Whether a comparison holds of values in an order. -/
def Comparison.accepts : Comparison → Ordering → Bool
  | .eq, order => order == .eq
  | .ne, order => order != .eq
  | .ge, order => order != .lt
  | .le, order => order != .gt
  | .gt, order => order == .gt
  | .lt, order => order == .lt

section Integers

variable {a b : Int} (fits : Fits64 a) (fits' : Fits64 b)

include fits fits'

/-- Two integers count as equal if doubles keep the same of them. -/
theorem Json.looseEq_integers
    : (Json.ofInt a).looseEq (.ofInt b) = (compare (nearest a) (nearest b) == .eq) := by
  simp only [Json.ofInt, Json.looseEq, Number.toBinary64, Binary64.equal]
  rw [Binary64.compare_ofInt fits fits']
  rfl

/-- Two integers are in the order of what doubles keep of them. -/
theorem Json.order_integers
    : (Json.ofInt a).order (.ofInt b) = .ok (compare (nearest a) (nearest b)) := by
  simp only [Json.ofInt, Json.order, Number.toBinary64]
  rw [Binary64.compare_ofInt fits fits']

theorem Comparison.holds_integers (comparison : Comparison)
    : comparison.holds (.ofInt a) (.ofInt b)
      = comparison.accepts (compare (nearest a) (nearest b)) := by
  have equal := Json.looseEq_integers fits fits'
  have order := Json.order_integers fits fits'
  cases comparison with
  | eq => exact equal
  | ne => exact congrArg (!·) equal
  | ge | le | gt | lt =>
      simp only [holds, holds.ordered, order]
      rfl

/-- A filter that compares integers has no fault. -/
theorem ValueMatcher.compare_integers {matcher : ValueMatcher} {comparison : Comparison}
    (compares : matcher.operator = comparison.operator) (expected : matcher.expected = .ofInt b)
    : matcher.compare (.ofInt a)
      = .ok (comparison.accepts (Ord.compare (nearest a) (nearest b))) := by
  have order := Json.order_integers fits fits'
  rw [← Comparison.holds_integers fits fits', ← expected]
  rcases compare_holds compares (.ofInt a) with answered | ⟨⟨fault, faulty⟩, -⟩
  · exact answered
  · cases comparison <;>
      simp [compare, compares, Comparison.operator, ordered, expected, order] at faulty

end Integers

namespace ValueMatcher

/-- Whether an integer is among others is asked of what doubles keep of them. -/
theorem isMember_integers {a : Int} (fits : Fits64 a) {others : List Int}
    (fit : ∀ other ∈ others, Fits64 other)
    : isMember (.ofInt a) (.array (others.map .ofInt))
      = .ok (others.any (fun other => nearest a == nearest other)) := by
  have same {other : Int} (member : other ∈ others)
      : (Json.ofInt a).looseEq (.ofInt other) = (nearest a == nearest other) := by
    rw [Json.looseEq_integers fits (fit other member), Bool.eq_iff_iff, beq_iff_eq, beq_iff_eq,
      compare_eq_iff_eq]
  refine congrArg Except.ok (Bool.eq_iff_iff.mpr ?_)
  rw [List.any_map, List.any_eq_true, List.any_eq_true]
  refine exists_congr (fun other => and_congr_right (fun member => ?_))
  rw [Function.comp_apply, same member]

/-- Filters and selectors compare integers by what doubles keep of them. Where a path reaches an
integer, a filter that compares it with another one has no fault and answers by the order of the two
doubles, as a selector does, and a filter for membership looks for the integer under the same
double. This order is never the wrong one: it is that of the integers, unless the double is the
same. It is that of the integers wherever both have no more than 53 bits, and two different integers
count as equal only where both are beyond and no farther apart than half a unit of each of their
last places.
-/
theorem evaluate_integers {key : String} {path : KeyPath} {record : Json} {a b : Int}
    {others : List Int} (read : KeyPath.parse key = .ok path)
    (there : path.resolve record = some (.ofInt a)) (fits : Fits64 a) (fits' : Fits64 b)
    (fit : ∀ other ∈ others, Fits64 other)
    : let verdict := Ord.compare (nearest a) (nearest b)
      (Json.ofInt a).looseEq (.ofInt b) = (verdict == .eq)
      ∧ (Json.ofInt a).order (.ofInt b) = .ok verdict
      ∧ (∀ comparison : Comparison,
          (compile ⟨key, comparison.operator, some (.ofInt b), none⟩).evaluate record
            = .ok (comparison.accepts verdict)
          ∧ comparison.holds (.ofInt a) (.ofInt b) = comparison.accepts verdict)
      ∧ (compile ⟨key, .isIn, some (.array (others.map .ofInt)), none⟩).evaluate record
        = .ok (others.any (fun other => nearest a == nearest other))
      ∧ (verdict ≠ .eq → verdict = Ord.compare a b)
      ∧ (a.natAbs ≤ 2 ^ 53 → b.natAbs ≤ 2 ^ 53 → verdict = Ord.compare a b)
      ∧ (verdict = .eq → a ≠ b
        → 2 ^ 53 ≤ a.natAbs ∧ 2 ^ 53 ≤ b.natAbs
          ∧ 2 * (a - b).natAbs ≤ 2 ^ lostBits a.natAbs + 2 ^ lostBits b.natAbs) := by
  intro verdict
  have found : path.find? record = some (.ofInt a) := by
    rw [KeyPath.find?, there]
    rfl
  refine ⟨Json.looseEq_integers fits fits', Json.order_integers fits fits', ?_, ?_, ?_, ?_, ?_⟩
  · intro comparison
    refine ⟨?_, Comparison.holds_integers fits fits' comparison⟩
    rw [evaluate_of_found read rfl found]
    exact compare_integers fits fits' rfl rfl
  · rw [evaluate_of_found read rfl found]
    exact isMember_integers fits fit
  · exact Binary64.compare_nearest
  · intro few few'
    change Ord.compare (nearest a) (nearest b) = _
    rw [Binary64.nearest_of_natAbs_le few, Binary64.nearest_of_natAbs_le few']
  · intro same different
    exact Binary64.near_of_nearest_eq (compare_eq_iff_eq.mp same) different

namespace Sample

/-- A record of a volume with one byte more than doubles can tell apart. -/
def sized : Json :=
  .object [("bytes", .ofInt 9007199254740993)]

theorem parse_bytes : KeyPath.parse "bytes" = .ok ⟨"bytes", [.field "bytes"]⟩ := by rfl

theorem resolve_bytes
    : KeyPath.resolve ⟨"bytes", [.field "bytes"]⟩ sized = some (.ofInt 9007199254740993) := by
  simp [KeyPath.resolve, Step.resolve, Json.fields?, sized, Table.get?]

end Sample

open Sample

/-- A volume with 2 ^ 53 + 1 bytes passes for one with 2 ^ 53. -/
theorem evaluate_integers_nextToEachOther
    : KeyPath.parse "bytes" = .ok ⟨"bytes", [.field "bytes"]⟩
      ∧ KeyPath.resolve ⟨"bytes", [.field "bytes"]⟩ sized = some (.ofInt 9007199254740993)
      ∧ Fits64 9007199254740993 ∧ Fits64 9007199254740992
      ∧ (∀ other ∈ [9007199254740992, 1], Fits64 other)
      ∧ (compile ⟨"bytes", .eq, some (.ofInt 9007199254740992), none⟩).evaluate sized = .ok true
      ∧ (compile ⟨"bytes", .gt, some (.ofInt 9007199254740992), none⟩).evaluate sized = .ok false
      ∧ (compile
            ⟨"bytes", .isIn, some (.array ([9007199254740992, 1].map .ofInt)), none⟩).evaluate sized
        = .ok true := by
  have fits : Fits64 9007199254740993 := by decide
  have fits' : Fits64 9007199254740992 := by decide
  have fit : ∀ other ∈ [9007199254740992, 1], Fits64 other := by decide
  have same
      : Ord.compare (nearest 9007199254740993) (nearest 9007199254740992) = .eq := by
    decide +kernel
  have member
      : [(9007199254740992 : Int), 1].any (fun other => nearest 9007199254740993 == nearest other)
        = true := by
    decide +kernel
  obtain ⟨-, -, compared, among, -⟩ :=
    evaluate_integers parse_bytes resolve_bytes fits fits' fit
  have equal := (compared .eq).1
  have greater := (compared .gt).1
  rw [same] at equal greater
  rw [member] at among
  exact ⟨parse_bytes, resolve_bytes, fits, fits', fit, equal, greater, among⟩

end ValueMatcher

end Remediation
