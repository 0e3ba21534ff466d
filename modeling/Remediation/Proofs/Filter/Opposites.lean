import Remediation.Filter.Value

/-! Value filters whose operators are each other's opposites. A filter answers, stays silent where
its path reaches nothing, or has a fault; an operator and its opposite agree on which of the three it
is, and where they answer exactly one of them matches.
-/

namespace Remediation

/-- Pairs of operators of which one asks for what the other one rules out. -/
inductive Operator.Opposite : Operator → Operator → Prop where
  | equality : Opposite .eq .ne
  | membership : Opposite .isIn .notIn
  | above : Opposite .gt .le
  | atLeast : Opposite .ge .lt
  | emptiness : Opposite .empty .notEmpty
  | absence : Opposite .absent .present

/-- A path finds nothing exactly where it reaches nothing or null. -/
theorem KeyPath.find?_eq_none_iff {path : KeyPath} {record : Json}
    : path.find? record = none ↔ path.resolve record = none ∨ path.resolve record = some .null := by
  unfold KeyPath.find?
  cases path.resolve record with
  | none => simp
  | some found => cases found <;> simp

namespace ValueMatcher

-----------------------------------------------------------------------------------------
-- What a filter answers, by what its path reaches
-----------------------------------------------------------------------------------------

theorem accepts_of_error {matcher : ValueMatcher} {record : Json} {fault : Fault}
    (faulty : matcher.evaluate record = .error fault)
    : matcher.accepts record = false := by
  rw [accepts, faulty]

theorem accepts_of_ok {matcher : ValueMatcher} {record : Json} {answer : Bool}
    (answered : matcher.evaluate record = .ok answer)
    : matcher.accepts record = answer := by
  rw [accepts, answered]

theorem evaluate_of_malformed {matcher : ValueMatcher} {malformed : MalformedPath}
    (unread : matcher.path = .error malformed) (record : Json)
    : matcher.evaluate record = .error (.malformedPath malformed) := by
  simp [evaluate, resolved, unread]

/-- Where there is no value, only the operator that asks for that matches. -/
theorem evaluate_of_missing {matcher : ValueMatcher} {path : KeyPath} {record : Json}
    (read : matcher.path = .ok path) (missing : path.find? record = none)
    : matcher.evaluate record = .ok (matcher.operator == .absent) := by
  simp [evaluate, resolved, read, missing]

/-- A filter without conversion compares what its path finds. -/
theorem evaluate_of_found {matcher : ValueMatcher} {path : KeyPath} {record found : Json}
    (read : matcher.path = .ok path) (plain : matcher.conversion = none)
    (there : path.find? record = some found)
    : matcher.evaluate record = matcher.compare found := by
  simp [evaluate, resolved, read, plain, there]

/-- Nothing is resolved where the path finds nothing, before any conversion. -/
theorem find?_of_resolved_eq_none {matcher : ValueMatcher} {record : Json}
    (nothing : matcher.resolved record = .ok none)
    : ∃ path, matcher.path = .ok path ∧ path.find? record = none := by
  unfold resolved at nothing
  split at nothing
  · cases nothing
  · rename_i path read
    refine ⟨path, read, ?_⟩
    split at nothing
    · assumption
    · cases nothing
    · split at nothing <;> cases nothing

-----------------------------------------------------------------------------------------
-- An operator and its opposite
-----------------------------------------------------------------------------------------

/-- Two tests of which exactly one holds give opposite answers on values with an order, and the same
fault on values without one.
-/
theorem ordered_opposite {test other : Ordering → Bool}
    (opposed : ∀ order, other order = !test order) (actual expected : Json)
    : (∃ fault,
        ordered test actual expected = .error fault ∧ ordered other actual expected = .error fault)
      ∨ ∃ answer,
          ordered test actual expected = .ok answer
          ∧ ordered other actual expected = .ok !answer := by
  unfold ordered
  cases actual.order expected with
  | error values => exact .inl ⟨_, rfl, rfl⟩
  | ok order => exact .inr ⟨test order, rfl, congrArg Except.ok (opposed order)⟩

section Pairs

variable {left right : ValueMatcher} (opposite : left.operator.Opposite right.operator)

include opposite

/-- On a value that is there, opposites have one fault or opposite answers. -/
theorem compare_opposite (alike : right.expected = left.expected) (actual : Json)
    : (∃ fault, left.compare actual = .error fault ∧ right.compare actual = .error fault)
      ∨ ∃ answer, left.compare actual = .ok answer ∧ right.compare actual = .ok !answer := by
  unfold compare
  rw [alike]
  generalize left.operator = first, right.operator = second at opposite ⊢
  cases opposite with
  | equality => exact .inr ⟨_, rfl, rfl⟩
  | emptiness => exact .inr ⟨_, rfl, rfl⟩
  | absence => exact .inr ⟨_, rfl, rfl⟩
  | membership =>
      cases isMember actual left.expected with
      | error fault => exact .inl ⟨fault, rfl, rfl⟩
      | ok found => exact .inr ⟨found, rfl, rfl⟩
  | above => exact ordered_opposite (fun order => by cases order <;> rfl) actual left.expected
  | atLeast => exact ordered_opposite (fun order => by cases order <;> rfl) actual left.expected

/-- Where there is no value, only the operator for absence answers. -/
theorem silent_or_absence
    : ((left.operator, right.operator) ≠ (.absent, .present)
        ∧ (left.operator == .absent) = false ∧ (right.operator == .absent) = false)
      ∨ (left.operator == .absent) = true ∧ (right.operator == .absent) = false := by
  generalize left.operator = first, right.operator = second at opposite ⊢
  cases opposite <;> decide

/-- Two filters with opposite operators that compare the same values have the same fault, or are both
silent since there is no value, or answer the opposite.
-/
theorem evaluate_pair (alike : right.expected = left.expected) {record : Json}
    (same : right.resolved record = left.resolved record)
    : (∃ fault, left.evaluate record = .error fault ∧ right.evaluate record = .error fault)
      ∨ ((∃ path, left.path = .ok path ∧ path.find? record = none)
          ∧ (left.operator, right.operator) ≠ (.absent, .present)
          ∧ left.evaluate record = .ok false ∧ right.evaluate record = .ok false)
      ∨ ∃ answer,
          left.evaluate record = .ok answer ∧ right.evaluate record = .ok !answer := by
  simp only [evaluate, same]
  cases reached : left.resolved record with
  | error fault => exact .inl ⟨fault, rfl, rfl⟩
  | ok found =>
      cases found with
      | some actual => exact (compare_opposite opposite alike actual).imp_right .inr
      | none =>
          refine .inr ((silent_or_absence opposite).imp ?_ ?_)
          · rintro ⟨other, silent, alsoSilent⟩
            exact ⟨find?_of_resolved_eq_none reached, other, congrArg _ silent,
              congrArg _ alsoSilent⟩
          · rintro ⟨answers, silent⟩
            exact ⟨true, congrArg _ answers, congrArg _ silent⟩

end Pairs

/-- Operators come in exact opposites: filters with one key, expected value and conversion whose
operators are opposites both have the same fault, or are both silent since there is nothing or null at
the key, or exactly one of them matches. A key that is no path matches under no operator, and where
there is nothing or null only the operator for absence matches.
-/
theorem evaluate_opposite {first second : Operator} (opposite : first.Opposite second)
    (key : String) (expected : Option Json) (conversion : Option Conversion) (record : Json)
    : let left := compile ⟨key, first, expected, conversion⟩
      let right := compile ⟨key, second, expected, conversion⟩
      ((∃ fault,
          left.evaluate record = .error fault ∧ right.evaluate record = .error fault
          ∧ left.accepts record = false ∧ right.accepts record = false)
        ∨ ((∃ path,
              KeyPath.parse key = .ok path
              ∧ (path.resolve record = none ∨ path.resolve record = some .null))
            ∧ (first, second) ≠ (.absent, .present)
            ∧ left.evaluate record = .ok false ∧ right.evaluate record = .ok false
            ∧ left.accepts record = false ∧ right.accepts record = false)
        ∨ ∃ answer,
            left.evaluate record = .ok answer ∧ right.evaluate record = .ok !answer
            ∧ left.accepts record = answer ∧ right.accepts record = !answer)
      ∧ (∀ malformed, KeyPath.parse key = .error malformed
          → ∀ operator, (compile ⟨key, operator, expected, conversion⟩).accepts record = false)
      ∧ ∀ path, KeyPath.parse key = .ok path
          → path.resolve record = none ∨ path.resolve record = some .null
          → ∀ operator,
              (compile ⟨key, operator, expected, conversion⟩).accepts record = true
              ↔ operator = .absent := by
  intro left right
  refine ⟨?_, ?_, ?_⟩
  · -- Key and conversion are the same, so that both filters compare the same value or none.
    have same : right.resolved record = left.resolved record := rfl
    rcases @evaluate_pair left right opposite rfl record same
      with ⟨fault, faulty, alike⟩ | ⟨⟨path, read, missing⟩, other, silent, alike⟩
        | ⟨answer, answered, alike⟩
    · exact .inl ⟨fault, faulty, alike, accepts_of_error faulty, accepts_of_error alike⟩
    · exact .inr (.inl
        ⟨⟨path, read, KeyPath.find?_eq_none_iff.mp missing⟩, other, silent, alike,
          accepts_of_ok silent, accepts_of_ok alike⟩)
    · exact .inr (.inr
        ⟨answer, answered, alike, accepts_of_ok answered, accepts_of_ok alike⟩)
  · intro malformed unread operator
    exact accepts_of_error (evaluate_of_malformed unread record)
  · intro path read nothing operator
    have missing := KeyPath.find?_eq_none_iff.mpr nothing
    rw [accepts_of_ok (evaluate_of_missing read missing)]
    exact beq_iff_eq

namespace Sample

/-- A record with a level, and a field that is null. -/
def levelled : Json :=
  .object [("level", .number (.int 2)), ("note", .null)]

/-- The filter on a key of it with one as the expected value. -/
def comparing (key : String) (operator : Operator) : ValueMatcher :=
  compile ⟨key, operator, some (.number (.int 1)), none⟩

theorem parse_level : KeyPath.parse "level" = .ok ⟨"level", [.field "level"]⟩ := by rfl

theorem parse_note : KeyPath.parse "note" = .ok ⟨"note", [.field "note"]⟩ := by rfl

theorem parse_open : KeyPath.parse "level[" = .error ⟨"level[", .unbalancedBracket⟩ := by rfl

theorem resolve_note : KeyPath.resolve ⟨"note", [.field "note"]⟩ levelled = some .null := by
  simp [KeyPath.resolve, Step.resolve, Json.fields?, levelled, Table.get?, List.lookup_cons]

theorem above_one : (comparing "level" .gt).evaluate levelled = .ok true := by
  have there : KeyPath.find? ⟨"level", [.field "level"]⟩ levelled = some (.number (.int 2)) := by
    simp [KeyPath.find?, KeyPath.resolve, Step.resolve, Json.fields?, levelled, Table.get?]
  rw [evaluate_of_found parse_level rfl there]
  rfl

end Sample

open Sample

theorem evaluate_opposite_levelled
    : Operator.Opposite .gt .le
      ∧ (comparing "level" .gt).accepts levelled = true
      ∧ (comparing "level" .le).accepts levelled = false
      ∧ KeyPath.parse "level[" = .error ⟨"level[", .unbalancedBracket⟩
      ∧ (∀ operator, (comparing "level[" operator).accepts levelled = false)
      ∧ KeyPath.parse "note" = .ok ⟨"note", [.field "note"]⟩
      ∧ KeyPath.resolve ⟨"note", [.field "note"]⟩ levelled = some .null
      ∧ ∀ operator,
          (comparing "note" operator).accepts levelled = true ↔ operator = .absent := by
  have level := evaluate_opposite .above "level" (some (.number (.int 1))) none levelled
  have broken := evaluate_opposite .above "level[" (some (.number (.int 1))) none levelled
  have note := evaluate_opposite .above "note" (some (.number (.int 1))) none levelled
  have answers
      : (comparing "level" .gt).accepts levelled = true
        ∧ (comparing "level" .le).accepts levelled = false := by
    have above := accepts_of_ok above_one
    rcases level.1 with ⟨fault, -, -, faulty, -⟩ | ⟨-, -, -, -, silent, -⟩
      | ⟨answer, -, -, answered, opposed⟩
    · rw [comparing, faulty] at above
      cases above
    · rw [comparing, silent] at above
      cases above
    · rw [comparing, answered] at above
      subst above
      exact ⟨answered, opposed⟩
  exact ⟨.above, answers.1, answers.2, parse_open, broken.2.1 _ parse_open, parse_note,
    resolve_note, note.2.2 _ parse_note (.inr resolve_note)⟩

end ValueMatcher

end Remediation
