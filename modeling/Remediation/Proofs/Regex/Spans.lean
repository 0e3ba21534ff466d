import Remediation.Regex.Matcher

/-! Which parts of a text an expression matches. Matching computes with sets of positions; here it
is shown that it computes the positions where a part that matches can end, so that an expression is
found in a text exactly if it matches some part of it.
-/

namespace Remediation.Regex

-----------------------------------------------------------------------------------------
-- Parts of a text
-----------------------------------------------------------------------------------------

/-- The character in front of a position. -/
def before (text : List Char) : Nat → Option Char
  | 0 => none
  | i + 1 => text[i]?

/-- So many steps of a relation one after the other. -/
def Steps (relation : Nat → Nat → Prop) : Nat → Nat → Nat → Prop
  | 0, i, j => i = j
  | count + 1, i, k => ∃ j, relation i j ∧ Steps relation count j k

/-- Whether an expression matches the part of a text from one position to another. -/
def Spans (text : List Char) : Regex → Nat → Nat → Prop
  | .empty, i, j => i = j
  | .chars ranges, i, j => (∃ c, text[i]? = some c ∧ ranges.contains c.toNat = true) ∧ j = i + 1
  | .look condition, i, j => condition.holds (before text i) text[i]? = true ∧ i = j
  | .seq first second, i, k => ∃ j, Spans text first i j ∧ Spans text second j k
  | .alt left right, i, j => Spans text left i j ∨ Spans text right i j
  | .times least most body, i, j =>
      ∃ more, (∀ greatest, most = some greatest → more ≤ greatest - least)
        ∧ Steps (Spans text body) (least + more) i j

theorem Steps.append {relation : Nat → Nat → Prop} {count more i k : Nat}
    : Steps relation (count + more) i k
      ↔ ∃ j, Steps relation count i j ∧ Steps relation more j k := by
  induction count generalizing i with
  | zero => simp [Steps]
  | succ count ih =>
      simp only [Nat.succ_add, Steps, ih]
      constructor
      · rintro ⟨first, step, middle, steps, others⟩
        exact ⟨middle, ⟨first, step, steps⟩, others⟩
      · rintro ⟨middle, ⟨first, step, steps⟩, others⟩
        exact ⟨first, step, middle, steps, others⟩

-----------------------------------------------------------------------------------------
-- Sets of positions
-----------------------------------------------------------------------------------------

namespace Positions

/-- Whether a position belongs to a set. -/
def Has (positions : Positions) (i : Nat) : Prop := positions[i]? = some true

theorem Has.lt_length {positions : Positions} {i : Nat} (has : positions.Has i)
    : i < positions.length :=
  (List.getElem?_eq_some_iff.mp has).1

theorem isEmpty_eq_false_iff {positions : Positions}
    : positions.isEmpty = false ↔ ∃ i, positions.Has i := by
  unfold isEmpty Has
  rw [List.all_eq_false]
  constructor
  · rintro ⟨_, member, holds⟩
    obtain ⟨i, found⟩ := List.mem_iff_getElem?.mp member
    exact ⟨i, by simpa using found.trans (congrArg some (by simpa using holds))⟩
  · rintro ⟨i, has⟩
    exact ⟨true, List.mem_of_getElem? has, by simp⟩

theorem length_union {positions others : Positions} (same : others.length = positions.length)
    : (positions.union others).length = positions.length := by
  rw [union, List.length_zipWith, same, Nat.min_self]

theorem has_union {positions others : Positions} (same : others.length = positions.length)
    {i : Nat}
    : (positions.union others).Has i ↔ positions.Has i ∨ others.Has i := by
  unfold Has union
  rw [List.getElem?_zipWith]
  rcases Nat.lt_or_ge i positions.length with within | beyond
  · rw [List.getElem?_eq_getElem within, List.getElem?_eq_getElem (same ▸ within)]
    simp
  · rw [List.getElem?_eq_none beyond, List.getElem?_eq_none (same ▸ beyond)]
    simp

end Positions

/-- Whether a function on sets of positions follows a relation: from a set it leads to the positions
that the relation leads to. -/
structure Follows (size : Nat) (step : Positions → Positions) (relation : Nat → Nat → Prop) : Prop
    where
  length : ∀ {positions}, positions.length = size → (step positions).length = size
  has
    : ∀ {positions}, positions.length = size
      → ∀ {j}, (step positions).Has j ↔ ∃ i, positions.Has i ∧ relation i j

namespace Follows

variable {size : Nat} {step next : Positions → Positions} {relation other : Nat → Nat → Prop}

theorem same : Follows size (fun positions => positions) (fun i j => i = j) where
  length := id
  has := by simp

theorem comp (first : Follows size step relation) (second : Follows size next other)
    : Follows size (fun positions => next (step positions))
        (fun i k => ∃ j, relation i j ∧ other j k) where
  length fits := second.length (first.length fits)
  has fits := by
    intro k
    rw [second.has (first.length fits)]
    simp only [first.has fits]
    constructor
    · rintro ⟨j, ⟨i, has, one⟩, two⟩
      exact ⟨i, has, j, one, two⟩
    · rintro ⟨i, has, j, one, two⟩
      exact ⟨j, ⟨i, has, one⟩, two⟩

theorem union (first : Follows size step relation) (second : Follows size next other)
    : Follows size (fun positions => (step positions).union (next positions))
        (fun i j => relation i j ∨ other i j) where
  length fits := by
    rw [Positions.length_union ((second.length fits).trans (first.length fits).symm),
      first.length fits]
  has fits := by
    intro j
    rw [Positions.has_union ((second.length fits).trans (first.length fits).symm), first.has fits,
      second.has fits, ← exists_or]
    exact exists_congr (fun i => and_or_left.symm)

/-- Steps are taken one after the other, and none from no positions. -/
theorem iterate (one : Follows size step relation) (count : Nat)
    : Follows size (iterate step count) (Steps relation count) := by
  induction count with
  | zero => exact same
  | succ count ih =>
      have steps := one.comp ih
      constructor
      · intro positions fits
        unfold Regex.iterate
        split
        · exact fits
        · exact steps.length fits
      · intro positions fits j
        unfold Regex.iterate
        split
        · rename_i empty
          have none : ∀ i, ¬positions.Has i := by
            intro i has
            rw [Positions.isEmpty_eq_false_iff.mpr ⟨i, has⟩] at empty
            cases empty
          exact iff_of_false (none j) (fun ⟨i, has, _⟩ => none i has)
        · exact steps.has fits

end Follows

-----------------------------------------------------------------------------------------
-- Steps taken any number of times
-----------------------------------------------------------------------------------------

/-- Whether no step of a relation leads out of a set. -/
def Positions.Closed (positions : Positions) (relation : Nat → Nat → Prop) : Prop :=
  ∀ i j, positions.Has i → relation i j → positions.Has j

theorem Positions.Closed.steps {positions : Positions} {relation : Nat → Nat → Prop}
    (closed : positions.Closed relation) {count i j : Nat} (has : positions.Has i)
    (steps : Steps relation count i j)
    : positions.Has j := by
  induction count generalizing i with
  | zero => exact steps ▸ has
  | succ count ih =>
      obtain ⟨middle, step, others⟩ := steps
      exact ih (closed _ _ has step) others

namespace Positions

/-- The number of positions that a set leaves out. -/
def missing (positions : Positions) : Nat := positions.count false

theorem has_of_missing_eq_zero {positions : Positions} (full : positions.missing = 0) {i : Nat}
    (within : i < positions.length)
    : positions.Has i := by
  unfold Has
  rw [List.getElem?_eq_getElem within]
  cases value : positions[i]
  · exact absurd (value ▸ List.getElem_mem within) (List.count_eq_zero.mp full)
  · rfl

/-- A union leaves out less, unless it adds nothing. -/
theorem missing_union : ∀ {positions others : Positions},
    others.length = positions.length
      → positions.union others = positions
        ∨ (positions.union others).missing < positions.missing
  | [], _, _ => by simp [union]
  | position :: positions, other :: others, same => by
      have kept_or_fewer := missing_union (Nat.succ.inj same : others.length = positions.length)
      have sized := List.count_le_length (a := false) (l := positions)
      unfold union missing at kept_or_fewer ⊢
      rw [List.zipWith_cons_cons]
      rcases kept_or_fewer with kept | fewer
      · rw [kept]
        cases position <;> cases other <;> simp
      · right
        cases position <;> cases other <;> simp <;> omega

end Positions

namespace Follows

variable {size : Nat} {step : Positions → Positions} {relation : Nat → Nat → Prop}

theorem grow (one : Follows size step relation)
    : Follows size (fun positions => positions.union (step positions))
        (fun i j => i = j ∨ relation i j) :=
  same.union one

theorem closed_of_union_eq (one : Follows size step relation) {positions : Positions}
    (fits : positions.length = size) (unchanged : positions.union (step positions) = positions)
    : positions.Closed relation := by
  intro i j has leads
  have reached := (one.grow.has fits).mpr ⟨i, has, .inr leads⟩
  rwa [unchanged] at reached

/-- Up to so many steps are taken. -/
theorem closure (one : Follows size step relation) (count : Nat)
    : Follows size (closure step count) (fun i j => ∃ more ≤ count, Steps relation more i j) := by
  induction count with
  | zero => exact ⟨id, by simp [Regex.closure, Steps]⟩
  | succ count ih =>
      constructor
      · intro positions fits
        unfold Regex.closure
        simp only
        split
        · exact fits
        · exact ih.length (one.grow.length fits)
      · intro positions fits k
        unfold Regex.closure
        simp only
        split
        · rename_i unchanged
          constructor
          · intro has
            exact ⟨k, has, 0, Nat.zero_le _, rfl⟩
          · rintro ⟨i, has, more, -, steps⟩
            exact (one.closed_of_union_eq fits unchanged).steps has steps
        · rw [ih.has (one.grow.length fits)]
          constructor
          · rintro ⟨j, grown, more, few, steps⟩
            obtain ⟨i, has, rfl | leads⟩ := (one.grow.has fits).mp grown
            · exact ⟨i, has, more, Nat.le_succ_of_le few, steps⟩
            · exact ⟨i, has, more + 1, Nat.succ_le_succ few, j, leads, steps⟩
          · rintro ⟨i, has, more, few, steps⟩
            cases more with
            | zero =>
                exact ⟨i, (one.grow.has fits).mpr ⟨i, has, .inl rfl⟩, 0, Nat.zero_le _, steps⟩
            | succ more =>
                obtain ⟨j, leads, steps⟩ := steps
                exact ⟨j, (one.grow.has fits).mpr ⟨i, has, .inr leads⟩, more,
                  Nat.le_of_succ_le_succ few, steps⟩

/-- No step leads out of a closure that may take as many steps as positions are left out. -/
theorem closed_closure (one : Follows size step relation) {count : Nat} {positions : Positions}
    (fits : positions.length = size) (enough : positions.missing ≤ count)
    : (Regex.closure step count positions).Closed relation := by
  induction count generalizing positions with
  | zero =>
      intro i j has leads
      have reached : (step positions).Has j := (one.has fits).mpr ⟨i, has, leads⟩
      exact Positions.has_of_missing_eq_zero (Nat.le_zero.mp enough)
        (by rw [fits, ← one.length fits]; exact reached.lt_length)
  | succ count ih =>
      unfold Regex.closure
      simp only
      split
      · rename_i unchanged
        exact one.closed_of_union_eq fits unchanged
      · rename_i changed
        have fewer := (Positions.missing_union (one.length fits |>.trans fits.symm)).resolve_left
          changed
        exact ih (one.grow.length fits) (by omega)

/-- As many steps as there are positions lead to everything that any number of steps leads to. -/
theorem closure_all (one : Follows size step relation)
    : Follows size (Regex.closure step size) (fun i j => ∃ more, Steps relation more i j) where
  length := (one.closure size).length
  has := by
    intro positions fits k
    constructor
    · intro has
      obtain ⟨i, has, more, -, steps⟩ := ((one.closure size).has fits).mp has
      exact ⟨i, has, more, steps⟩
    · rintro ⟨i, has, more, steps⟩
      have start : (Regex.closure step size positions).Has i :=
        ((one.closure size).has fits).mpr ⟨i, has, 0, Nat.zero_le _, rfl⟩
      have enough : positions.missing ≤ size := fits ▸ List.count_le_length
      exact (one.closed_closure fits enough).steps start steps

end Follows

-----------------------------------------------------------------------------------------
-- Where a match can end
-----------------------------------------------------------------------------------------

theorem length_neighboursFrom (previous : Option Char) (text : List Char)
    : (neighboursFrom previous text).length = text.length + 1 := by
  induction text generalizing previous with
  | nil => rfl
  | cons c rest ih => simp [neighboursFrom, ih]

theorem getElem?_neighboursFrom_succ {previous : Option Char} {text : List Char} {i : Nat}
    (within : i < text.length)
    : (neighboursFrom previous text)[i + 1]? = some (text[i]?, text[i + 1]?) := by
  induction text generalizing previous i with
  | nil => exact absurd within (Nat.not_lt_zero _)
  | cons c rest ih =>
      cases i with
      | zero => cases rest <;> simp [neighboursFrom]
      | succ i => simpa [neighboursFrom] using ih (Nat.lt_of_succ_lt_succ within)

theorem getElem?_neighbours {text : List Char} {i : Nat} (within : i ≤ text.length)
    : (neighbours text)[i]? = some (before text i, text[i]?) := by
  cases i with
  | zero => cases text <;> simp [neighbours, neighboursFrom, before]
  | succ i => exact getElem?_neighboursFrom_succ within

theorem follows_chars (text : List Char) (ranges : Ranges)
    : Follows (text.length + 1) (ends text (.chars ranges)) (Spans text (.chars ranges)) where
  length fits := by simp [ends, fits]
  has := by
    intro positions fits j
    unfold Positions.Has ends Spans
    cases j with
    | zero => simp
    | succ j =>
        rw [List.getElem?_cons_succ, List.getElem?_zipWith]
        constructor
        · intro found
          cases start : positions[j]? <;> cases char : text[j]? <;> simp_all
        · rintro ⟨i, has, ⟨c, char, member⟩, same⟩
          cases Nat.succ.inj same
          simp [has, char, member]

theorem follows_look (text : List Char) (condition : Look)
    : Follows (text.length + 1) (ends text (.look condition)) (Spans text (.look condition)) where
  length fits := by simp [ends, fits, neighbours, length_neighboursFrom]
  has := by
    intro positions fits j
    unfold Positions.Has ends Spans
    rw [List.getElem?_zipWith]
    rcases Nat.lt_or_ge j positions.length with within | beyond
    · rw [getElem?_neighbours (by omega), List.getElem?_eq_getElem within]
      simp only [Option.some.injEq, Bool.and_eq_true]
      constructor
      · rintro ⟨start, holds⟩
        exact ⟨j, by rw [List.getElem?_eq_getElem within, start], holds, rfl⟩
      · rintro ⟨i, start, holds, rfl⟩
        rw [List.getElem?_eq_getElem within] at start
        exact ⟨Option.some.inj start, holds⟩
    · rw [List.getElem?_eq_none beyond]
      constructor
      · intro found
        cases found
      · rintro ⟨i, start, -, rfl⟩
        rw [List.getElem?_eq_none beyond] at start
        cases start

/-- Matching leads from the positions where a part may start to those where it may end. -/
theorem follows_ends (text : List Char) (regex : Regex)
    : Follows (text.length + 1) (ends text regex) (Spans text regex) := by
  induction regex with
  | empty => exact .same
  | chars ranges => exact follows_chars text ranges
  | look condition => exact follows_look text condition
  | seq first second one two => exact one.comp two
  | alt left right one two => exact one.union two
  | times least most body ih =>
      cases most with
      | none =>
          have steps := (ih.iterate least).comp ih.closure_all
          refine ⟨steps.length, fun fits j => (steps.has fits).trans ?_⟩
          refine exists_congr (fun i => and_congr_right (fun _ => ?_))
          simp only [Spans, Steps.append, reduceCtorEq, false_implies, implies_true, true_and]
          exact ⟨fun ⟨k, first, more, others⟩ => ⟨more, k, first, others⟩,
            fun ⟨more, k, first, others⟩ => ⟨k, first, more, others⟩⟩
      | some greatest =>
          have steps := (ih.iterate least).comp (ih.closure (greatest - least))
          refine ⟨steps.length, fun fits j => (steps.has fits).trans ?_⟩
          refine exists_congr (fun i => and_congr_right (fun _ => ?_))
          simp only [Spans, Steps.append, Option.some.injEq, forall_eq']
          exact ⟨fun ⟨k, first, more, few, others⟩ => ⟨more, few, k, first, others⟩,
            fun ⟨more, few, k, first, others⟩ => ⟨k, first, more, few, others⟩⟩

/-- An expression is found in a text exactly if it matches some part of it. -/
theorem isMatch_iff {regex : Regex} {text : List Char}
    : regex.isMatch text = true ↔ ∃ i j, i ≤ text.length ∧ Spans text regex i j := by
  have everywhere : ∀ i, Positions.Has (List.replicate (text.length + 1) true) i
      ↔ i ≤ text.length := by
    intro i
    rw [← Nat.lt_succ_iff]
    simp [Positions.Has, List.getElem?_replicate]
  unfold isMatch
  rw [Bool.not_eq_true', Positions.isEmpty_eq_false_iff, exists_comm]
  refine exists_congr (fun j => ?_)
  rw [(follows_ends text regex).has List.length_replicate]
  exact exists_congr (fun i => and_congr_left' (everywhere i))

-----------------------------------------------------------------------------------------
-- Expressions that are bound to the start
-----------------------------------------------------------------------------------------

/-- Behind the start of the text an expression matches from the start alone. -/
theorem spans_textStart {text : List Char} {regex : Regex} {i j : Nat} (within : i ≤ text.length)
    : Spans text (.seq (.look .textStart) regex) i j ↔ i = 0 ∧ Spans text regex 0 j := by
  simp only [Spans, Look.holds]
  constructor
  · rintro ⟨_, ⟨front, rfl⟩, rest⟩
    cases i with
    | zero => exact ⟨rfl, rest⟩
    | succ i =>
        rw [before, List.getElem?_eq_getElem within] at front
        cases front
  · rintro ⟨rfl, rest⟩
    exact ⟨0, ⟨rfl, rfl⟩, rest⟩

theorem spans_alts {text : List Char} {regexes : List Regex} {i j : Nat}
    : Spans text (alts regexes) i j ↔ ∃ regex ∈ regexes, Spans text regex i j := by
  induction regexes with
  | nil => simp [alts, Spans, Ranges.contains]
  | cons regex others ih =>
      cases others with
      | nil => simp [alts]
      | cons next others => simp [alts, Spans, ih]

/-- A choice whose first branch is bound to the start is found where that branch matches from the
start, or another one anywhere. -/
theorem isMatch_alts_textStart {text : List Char} {first : Regex} {others : List Regex}
    : (alts (.seq (.look .textStart) first :: others)).isMatch text = true
      ↔ (∃ stop, Spans text first 0 stop) ∨ ∃ other ∈ others, other.isMatch text = true := by
  simp only [isMatch_iff, spans_alts, List.mem_cons, exists_eq_or_imp]
  constructor
  · rintro ⟨i, j, within, bound | ⟨other, member, spans⟩⟩
    · exact .inl ⟨j, ((spans_textStart within).mp bound).2⟩
    · exact .inr ⟨other, member, i, j, within, spans⟩
  · rintro (⟨stop, spans⟩ | ⟨other, member, i, j, within, spans⟩)
    · exact ⟨0, stop, Nat.zero_le _,
        .inl ((spans_textStart (Nat.zero_le _)).mpr ⟨rfl, spans⟩)⟩
    · exact ⟨i, j, within, .inr ⟨other, member, spans⟩⟩

end Remediation.Regex
