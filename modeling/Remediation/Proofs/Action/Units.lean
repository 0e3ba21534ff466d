import Remediation.Action.Execute

/-! Units of work. However many records there are, the units that they are split into hold them all,
each one once and in order, and no unit is empty or holds more than it may.
-/

namespace Remediation

theorem ExecutionMode.unitSize_pos (mode : ExecutionMode) : 0 < mode.unitSize := by
  cases mode with
  | batch most => exact Nat.lt_of_lt_of_le Nat.zero_lt_one (Nat.le_max_left 1 most)
  | perResource => exact Nat.zero_lt_one

/-- If a test holds at one index of a list and at no other one, it filters out what is there. -/
theorem filter_eq_of_holds_once {α : Type} {list : List α} {test : α → Bool} {index : Nat}
    (once
      : ∀ place element, list[place]? = some element → (test element = true ↔ place = index))
    : list.filter test = list[index]?.toList := by
  induction list generalizing index with
  | nil => rfl
  | cons first rest ih =>
      have atFirst := once 0 first rfl
      have atRest (place : Nat) (element : α) (found : rest[place]? = some element)
          : test element = true ↔ place + 1 = index :=
        once (place + 1) element found
      cases index with
      | zero =>
          have none : rest.filter test = [] := by
            refine List.filter_eq_nil_iff.mpr (fun element member holds => ?_)
            obtain ⟨place, found⟩ := List.getElem?_of_mem member
            exact Nat.succ_ne_zero place ((atRest place element found).mp holds)
          rw [List.filter_cons_of_pos (atFirst.mpr rfl), none]
          rfl
      | succ index =>
          have skipped : ¬test first = true :=
            fun holds => Nat.succ_ne_zero index (atFirst.mp holds).symm
          rw [List.filter_cons_of_neg skipped,
            ih (fun place element found => (atRest place element found).trans Nat.succ_inj)]
          rfl

namespace WorkUnit

/-- Units made with enough fuel are never empty, hold at most their size and are the records when
put behind each other. Witness: induction on the fuel, which the records that are left never exceed.
-/
theorem splitFrom_spec {size : Nat} (positive : 0 < size) (fuel start : Nat) (records : List Json)
    (enough : records.length ≤ fuel)
    : (splitFrom size fuel start records).flatMap WorkUnit.records = records
      ∧ ∀ unit ∈ splitFrom size fuel start records,
          unit.records ≠ [] ∧ unit.records.length ≤ size := by
  induction fuel generalizing start records with
  | zero =>
      have none : records = [] := List.length_eq_zero_iff.mp (Nat.le_zero.mp enough)
      subst none
      exact ⟨rfl, by simp [splitFrom]⟩
  | succ fuel ih =>
      cases records with
      | nil => exact ⟨rfl, by simp [splitFrom]⟩
      | cons record rest =>
          have fewer : ((record :: rest).drop size).length ≤ fuel := by
            simp only [List.length_drop, List.length_cons] at enough ⊢
            omega
          obtain ⟨joined, bounds⟩ := ih (start + size) _ fewer
          simp only [splitFrom, List.isEmpty_cons, Bool.false_eq_true, if_false]
          refine ⟨?_, ?_⟩
          · rw [List.flatMap_cons, joined]
            exact List.take_append_drop size (record :: rest)
          · intro unit member
            rcases List.mem_cons.mp member with first | later
            · subst first
              refine ⟨?_, List.length_take_le _ _⟩
              simpa using Nat.ne_of_gt positive
            · exact bounds unit later

/-- The records of the units, one unit behind the other, are the records that were split. -/
theorem flatMap_split {size : Nat} (positive : 0 < size) (records : List Json)
    : (split size records).flatMap WorkUnit.records = records :=
  (splitFrom_spec positive records.length 0 records (Nat.le_refl _)).1

theorem records_ne_nil {size : Nat} (positive : 0 < size) {records : List Json} {unit : WorkUnit}
    (member : unit ∈ split size records)
    : unit.records ≠ [] :=
  ((splitFrom_spec positive records.length 0 records (Nat.le_refl _)).2 unit member).1

theorem length_records_le {size : Nat} (positive : 0 < size) {records : List Json}
    {unit : WorkUnit} (member : unit ∈ split size records)
    : unit.records.length ≤ size :=
  ((splitFrom_spec positive records.length 0 records (Nat.le_refl _)).2 unit member).2

/-- Units made with enough fuel start one size behind each other, and each holds the records from
its start on, as many as its size. Witness: induction on the fuel. -/
theorem getElem?_splitFrom {size : Nat} (positive : 0 < size) (fuel start : Nat)
    (records : List Json) (enough : records.length ≤ fuel) (index : Nat)
    : (splitFrom size fuel start records)[index]?
      = if index * size < records.length then
          some ⟨start + index * size, (records.drop (index * size)).take size⟩
        else none := by
  induction fuel generalizing start records index with
  | zero =>
      have none : records = [] := List.length_eq_zero_iff.mp (Nat.le_zero.mp enough)
      subst none
      simp [splitFrom]
  | succ fuel ih =>
      cases records with
      | nil => simp [splitFrom]
      | cons record rest =>
          simp only [splitFrom, List.isEmpty_cons, Bool.false_eq_true, if_false]
          cases index with
          | zero => simp
          | succ index =>
              have fewer : ((record :: rest).drop size).length ≤ fuel := by
                simp only [List.length_drop, List.length_cons] at enough ⊢
                omega
              have next : (index + 1) * size = size + index * size := by
                rw [Nat.succ_mul, Nat.add_comm]
              rw [List.getElem?_cons_succ, ih (start + size) _ fewer, List.length_drop,
                List.drop_drop, next, Nat.add_assoc]
              by_cases inside : size + index * size < (record :: rest).length
              · rw [if_pos inside, if_pos (by omega)]
              · rw [if_neg inside, if_neg (by omega)]

/-- The unit at an index starts that many sizes into the records and holds those from there on. -/
theorem getElem?_split {size : Nat} (positive : 0 < size) (records : List Json) (index : Nat)
    : (split size records)[index]?
      = if index * size < records.length then
          some ⟨index * size, (records.drop (index * size)).take size⟩
        else none := by
  simpa only [split, Nat.zero_add]
    using getElem?_splitFrom positive records.length 0 records (Nat.le_refl _) index

/-- A record belongs to the unit at the index that its place divided by the size is, and to no other
one. -/
theorem covers_iff {size : Nat} (positive : 0 < size) {records : List Json} {place : Nat}
    (inside : place < records.length) {index : Nat} {unit : WorkUnit}
    (found : (split size records)[index]? = some unit)
    : unit.covers place = true ↔ index = place / size := by
  rw [getElem?_split positive] at found
  split at found
  · cases found
    simp only [covers, Bool.and_eq_true, decide_eq_true_eq, List.length_take, List.length_drop]
    rw [eq_comm, Nat.div_eq_iff positive]
    omega
  · cases found

/-- There is a unit that has the record at a place. -/
theorem exists_unit {size : Nat} (positive : 0 < size) {records : List Json} {place : Nat}
    (inside : place < records.length)
    : ∃ unit,
        (split size records)[place / size]? = some unit
        ∧ unit.records[place - unit.start]? = records[place]? := by
  have start : place / size * size ≤ place := Nat.div_mul_le_self place size
  refine ⟨_, (getElem?_split positive records _).trans (if_pos (by omega)), ?_⟩
  have offset : place - place / size * size < size := by
    have behind := Nat.mod_lt place positive
    have parts := Nat.div_add_mod' place size
    omega
  rw [List.getElem?_take_of_lt offset, List.getElem?_drop, Nat.add_sub_cancel' start]

/-- No other unit has it. -/
theorem filter_covers {size : Nat} (positive : 0 < size) {records : List Json} {place : Nat}
    (inside : place < records.length) {unit : WorkUnit}
    (found : (split size records)[place / size]? = some unit)
    : (split size records).filter (·.covers place) = [unit] := by
  rw [filter_eq_of_holds_once (fun _ _ unitAt => covers_iff positive inside unitAt), found]
  rfl

end WorkUnit

end Remediation
