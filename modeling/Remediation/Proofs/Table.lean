import Mathlib.Data.List.Nodup
import Remediation.Table

/-! Looking up keys in tables that values were inserted into, the order in which they were inserted,
and the order of the keys. -/

namespace Remediation.Table

variable {α : Type}

/-- An inserted value is found under its key, and every other key leads to what it led to before.
Witness: induction on the table, by the place that the new key takes.
-/
theorem get?_insert (key : String) (value : α) (table : Table α) (sought : String)
    : get? (insert key value table) sought
      = if sought = key then some value else get? table sought := by
  simp only [get?]
  induction table with
  | nil =>
      by_cases same : sought = key
      · simp [insert, same]
      · simp [insert, List.lookup_cons, beq_false_of_ne same, same]
  | cons entry rest ih =>
      obtain ⟨first, found⟩ := entry
      simp only [insert]
      split
      · by_cases same : sought = key
        · simp [same]
        · simp [List.lookup_cons, beq_false_of_ne same, same]
      · split
        · rename_i equal
          subst equal
          by_cases same : sought = key
          · simp [same]
          · simp [List.lookup_cons, beq_false_of_ne same, same]
        · rename_i different
          rw [List.lookup_cons, List.lookup_cons, ih]
          by_cases atFirst : sought = first
          · subst atFirst
            simp [Ne.symm different]
          · simp [beq_false_of_ne atFirst]

@[simp]
theorem get?_insert_self (key : String) (value : α) (table : Table α)
    : get? (insert key value table) key = some value := by
  rw [get?_insert, if_pos rfl]

theorem get?_insert_of_ne {key sought : String} (different : sought ≠ key) (value : α)
    (table : Table α)
    : get? (insert key value table) sought = get? table sought := by
  rw [get?_insert, if_neg different]

/-- A key leads to the last of the values that were set under it, or else to what it led to before.
-/
theorem get?_insertAll (table : Table α) (added : List (String × α)) (key : String)
    : get? (insertAll table added) key = (added.reverse.lookup key).or (get? table key) := by
  induction added generalizing table with
  | nil => rfl
  | cons entry rest ih =>
      obtain ⟨name, value⟩ := entry
      have one
          : get? (insert name value table) key
            = (List.lookup key [(name, value)]).or (get? table key) := by
        rw [get?_insert, List.lookup_cons]
        by_cases same : key = name
        · simp [same]
        · simp [beq_false_of_ne same, same]
      calc get? (insertAll table ((name, value) :: rest)) key
        _ = (rest.reverse.lookup key).or (get? (insert name value table) key) := ih _
        _ = ((rest.reverse.lookup key).or (List.lookup key [(name, value)])).or
              (get? table key) := by
            rw [one, Option.or_assoc]
        _ = (((name, value) :: rest).reverse.lookup key).or (get? table key) := by
            rw [List.reverse_cons, List.lookup_append]

/-- What is found in a table whose values were all changed is what was found, changed. -/
theorem get?_map {β : Type} (f : String → α → β) (table : Table α) (key : String)
    : get? (table.map (fun (name, value) => (name, f name value))) key
      = (get? table key).map (f key) := by
  unfold get?
  induction table with
  | nil => rfl
  | cons entry rest ih =>
      rw [List.map_cons, List.lookup_cons, List.lookup_cons, ih]
      by_cases same : key = entry.1
      · subst same
        simp only [beq_self_eq_true, Option.map_some]
      · simp only [beq_false_of_ne same]

/-- A key that is not in a table leads to nothing. -/
theorem get?_eq_none_of_not_mem {table : Table α} {key : String} (absent : key ∉ keys table)
    : get? table key = none := by
  refine List.lookup_eq_none_iff.mpr (fun entry member => ?_)
  have different : key ≠ entry.1 := fun same => absent (same ▸ List.mem_map_of_mem member)
  exact bne_iff_ne.mpr different

-----------------------------------------------------------------------------------------
-- The order in which keys are set
-----------------------------------------------------------------------------------------

/-- Two keys that differ may be set in either order. Witness: induction on the table; where both
keys stand behind its first entry the rest decides. -/
theorem insert_insert {first second : String} (different : first ≠ second) (one other : α)
    (table : Table α)
    : insert first one (insert second other table)
      = insert second other (insert first one table) := by
  induction table with
  | nil => grind [insert]
  | cons entry rest ih => grind [insert]

/-- Values with different keys may be set in any order. -/
theorem insertAll_perm {added reordered : List (String × α)} (order : added.Perm reordered)
    (distinct : (keys added).Nodup) (table : Table α)
    : insertAll table added = insertAll table reordered := by
  refine order.foldl_eq' (fun one inside other insideToo table => ?_) table
  by_cases same : one = other
  · rw [same]
  · have different : other.1 ≠ one.1 := fun equal =>
      same (List.inj_on_of_nodup_map distinct insideToo inside equal).symm
    exact insert_insert different other.2 one.2 table

-----------------------------------------------------------------------------------------
-- The order of the keys
-----------------------------------------------------------------------------------------

/-- A table whose keys ascend. -/
def Ordered (table : Table α) : Prop :=
  table.Pairwise (fun first second => first.1 < second.1)

theorem eq_or_mem_of_mem_insert {key : String} {value : α} {table : Table α} {entry : String × α}
    (member : entry ∈ insert key value table)
    : entry = (key, value) ∨ entry ∈ table := by
  induction table with
  | nil => exact .inl (List.mem_singleton.mp member)
  | cons first rest ih =>
      simp only [insert] at member
      split at member
      · exact List.mem_cons.mp member
      · split at member
        · rcases List.mem_cons.mp member with same | later
          · exact .inl same
          · exact .inr (List.mem_cons_of_mem first later)
        · rcases List.mem_cons.mp member with rfl | later
          · exact .inr List.mem_cons_self
          · exact (ih later).imp_right (List.mem_cons_of_mem first)

namespace Ordered

/-- Inserting keeps the order. Witness: induction on the table, by the place that the new key takes.
-/
theorem insert {table : Table α} (ordered : Ordered table) (key : String) (value : α)
    : Ordered (Table.insert key value table) := by
  induction table with
  | nil => exact List.pairwise_singleton _ _
  | cons first rest ih =>
      obtain ⟨before, others⟩ := List.pairwise_cons.mp ordered
      simp only [Table.insert]
      split
      · rename_i less
        refine List.pairwise_cons.mpr ⟨?_, ordered⟩
        intro entry member
        rcases List.mem_cons.mp member with rfl | later
        · exact less
        · exact String.lt_trans less (before entry later)
      · split
        · rename_i same
          subst same
          exact List.pairwise_cons.mpr ⟨before, others⟩
        · rename_i notLess different
          refine List.pairwise_cons.mpr ⟨?_, ih others⟩
          intro entry member
          rcases eq_or_mem_of_mem_insert member with rfl | later
          · refine Classical.byContradiction (fun noMore => different ?_)
            exact String.le_antisymm (String.not_lt.mp noMore) (String.not_lt.mp notLess)
          · exact before entry later

theorem insertAll {table : Table α} (ordered : Ordered table) (entries : List (String × α))
    : Ordered (table.insertAll entries) := by
  induction entries generalizing table with
  | nil => exact ordered
  | cons entry rest ih => exact ih (ordered.insert entry.1 entry.2)

theorem ofList (entries : List (String × α)) : Ordered (Table.ofList entries) :=
  insertAll List.Pairwise.nil entries

/-- No key of a table whose keys ascend is there twice. -/
theorem distinct {table : Table α} (ordered : Ordered table) : (keys table).Nodup := by
  refine List.pairwise_map.mpr (ordered.imp ?_)
  intro first second less same
  exact String.lt_irrefl second.1 (same ▸ less)

/-- In a table whose keys ascend every entry is found under its key. Witness: induction on the
table; no entry behind the first one has its key. -/
theorem get?_of_mem {table : Table α} (ordered : Ordered table) {entry : String × α}
    (member : entry ∈ table)
    : get? table entry.1 = some entry.2 := by
  unfold get?
  induction table with
  | nil => cases member
  | cons first rest ih =>
      obtain ⟨before, others⟩ := List.pairwise_cons.mp ordered
      rw [List.lookup_cons]
      rcases List.mem_cons.mp member with rfl | later
      · rw [beq_self_eq_true]
      · have different : entry.1 ≠ first.1 := fun same =>
          String.lt_irrefl entry.1 (same ▸ before entry later)
        rw [beq_false_of_ne different]
        exact ih others later

/-- A key behind all others is put at the end. -/
theorem insert_last {table : Table α} {key : String} (last : ∀ entry ∈ table, entry.1 < key)
    (value : α)
    : Table.insert key value table = table ++ [(key, value)] := by
  induction table with
  | nil => rfl
  | cons entry rest ih =>
      have before : entry.1 < key := last entry List.mem_cons_self
      have further := ih fun other member => last other (List.mem_cons_of_mem _ member)
      have notAfter : ¬key < entry.1 := fun after =>
        String.lt_irrefl key (String.lt_trans after before)
      have different : key ≠ entry.1 := fun same => String.lt_irrefl key (same ▸ before)
      rw [Table.insert, if_neg notAfter, if_neg different, further, List.cons_append]

/-- A table in order is the table of its entries. -/
theorem ofList_eq {table : Table α} (ordered : Ordered table) : Table.ofList table = table := by
  have appended (front back : Table α) (ordered : Ordered (front ++ back))
      : Table.insertAll front back = front ++ back := by
    induction back generalizing front with
    | nil => exact (List.append_nil front).symm
    | cons entry rest ih =>
        have last : ∀ other ∈ front, other.1 < entry.1 := fun other member =>
          (List.pairwise_append.mp ordered).2.2 other member entry List.mem_cons_self
        have moved : front ++ entry :: rest = (front ++ [(entry.1, entry.2)]) ++ rest := by
          rw [List.append_assoc]
          rfl
        have further := ih (front ++ [(entry.1, entry.2)]) (moved ▸ ordered)
        rw [← insert_last last] at further moved
        rw [moved]
        exact further
  exact appended [] table ordered

/-- Where no key is there twice, it makes no difference from which end it is sought. -/
theorem lookup_reverse {table : Table α} (ordered : Ordered table) (key : String)
    : table.reverse.lookup key = get? table key := by
  have found := get?_insertAll [] table key
  have same : Table.insertAll [] table = table := ordered.ofList_eq
  rw [same] at found
  exact (found.trans Option.or_none).symm

/-- Values of a table that were changed count before those of the table that they are set in. -/
theorem get?_insertAll_map {added : Table α} (ordered : Ordered added) (f : String → α → α)
    (table : Table α) (key : String)
    : get? (Table.insertAll table (added.map (fun (name, value) => (name, f name value)))) key
      = ((get? added key).map (f key)).or (get? table key) := by
  have changed : Ordered (added.map (fun (name, value) => (name, f name value))) :=
    List.pairwise_map.mpr ordered
  rw [get?_insertAll, changed.lookup_reverse, get?_map]

end Ordered

end Remediation.Table
