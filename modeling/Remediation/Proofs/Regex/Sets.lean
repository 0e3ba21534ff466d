import Remediation.Proofs.Regex.Escapes

/-! Sets in square brackets in front of a parenthesis. Whether an item is a range is told by what
follows it, so that an item at the end of a text is read in front of the parenthesis only; a set
that ends with a parenthesis is none in either case.
-/

namespace Remediation.Regex

variable {α : Type} {cs rest : List Char} {left : α → List Char → Prop}

-----------------------------------------------------------------------------------------
-- Sets in square brackets
-----------------------------------------------------------------------------------------

/-- Nothing is read that is not read of the text alone. -/
abbrev Never (_ : α) (_ : List Char) : Prop := False

theorem readClassName_ended (negated : Bool) (cs : List Char)
    : Ended Never cs (readClassName negated cs) (readClassName negated (cs ++ [')'])) := by
  unfold readClassName
  rcases scan_append (p := fun c => decide (c ≠ ':')) (by decide) cs with
    ⟨all, all'⟩ | ⟨c, tail, suffix, found, found', name⟩
  · rw [all, all']
    exact .none_none
  · rw [found, found', name]
    refine Ended.of_suffix ?_ suffix
    split
    · rename_i after same
      obtain ⟨rfl, rfl⟩ := List.cons.inj same
      simp only [List.cons_append]
      cases asciiClass? (String.ofList (cs.takeWhile (· ≠ ':'))) with
      | none => exact .none_none
      | some ranges => exact .kept ((List.suffix_cons _ _).trans (List.suffix_cons _ _))
    · rename_i other
      split
      · rename_i after same
        exact (not_cons_cons_of_append (by decide) (by decide) other after same).elim
      · exact .none_none

theorem readAsciiClass_ended (cs : List Char)
    : Ended Never cs (readAsciiClass cs) (readAsciiClass (cs ++ [')'])) := by
  unfold readAsciiClass
  split
  · rename_i rest
    exact (readClassName_ended true rest).of_suffix
      ((List.suffix_cons _ _).trans (List.suffix_cons _ _))
  · rename_i rest unmarked
    rw [List.cons_append]
    split
    · rename_i tail same
      obtain ⟨-, same⟩ := List.cons.inj same
      exact (not_cons_of_append (by decide) unmarked _ same).elim
    · rename_i same
      obtain ⟨-, rfl⟩ := List.cons.inj same
      exact (readClassName_ended false rest).of_suffix (List.suffix_cons _ _)
    · rename_i plain
      exact (plain _ rfl).elim
  · rename_i marked plain
    split
    · rename_i same
      exact (not_cons_of_append (by decide) plain _ same).elim
    · rename_i same
      exact (not_cons_of_append (by decide) plain _ same).elim
    · exact .none_none

theorem readClassPrimitive_cons_ended (extended : Bool) (c : Char) (tail : List Char)
    : Ended (EscapeLeft extended) tail (readClassPrimitive extended (c :: tail))
        (readClassPrimitive extended (c :: (tail ++ [')']))) := by
  by_cases escape : c = '\\'
  · subst escape
    exact readEscape_ended extended tail
  · have plain : ∀ rest,
        readClassPrimitive extended (c :: rest) = some (.literal ⟨c, false⟩, rest) :=
      fun rest => readClassPrimitive.eq_2 extended _ _ (by simp [escape])
    rw [plain, plain]
    exact .kept List.suffix_rfl

theorem readClassPrimitive_ended (extended : Bool) (cs : List Char)
    : Ended (EscapeLeft extended) cs (readClassPrimitive extended cs)
        (readClassPrimitive extended (cs ++ [')'])) := by
  rcases cs with _ | ⟨c, tail⟩
  · refine .failed (fun primitive behind read => .inl ?_)
    obtain ⟨-, rfl⟩ := Prod.mk.inj (Option.some.inj read)
    rfl
  · exact (readClassPrimitive_cons_ended extended c tail).of_suffix (List.suffix_cons _ _)

/-- At most the parenthesis is left. -/
def LastLeft (_ : α) (rest : List Char) : Prop := rest = [] ∨ rest = [')']

theorem range?_anchor (first : Primitive) (anchor : Anchor)
    : range? first (.anchor anchor) = none := by
  cases first <;> rfl

theorem readRangeEnd_ended (extended : Bool) (first : Primitive) (cs : List Char)
    : Ended Whole cs (readRangeEnd extended first cs)
        (readRangeEnd extended first (cs ++ [')'])) := by
  unfold readRangeEnd
  refine (readClassPrimitive_ended extended cs).bind
    (fun last rest _ => .value (f := fun item => item) _) (fun _ => rfl) ?_
  rintro last rest (rfl | ⟨anchor, rfl, -⟩) item behind read
  · obtain ⟨_, -, same⟩ := Option.bind_eq_some_iff.mp read
    exact (Prod.mk.inj (Option.some.inj same)).2.symm
  · simp only [range?_anchor] at read
    cases read

/-- An anchor is no item and starts no range. -/
theorem readBehindItem_anchor (extended : Bool) (anchor : Anchor) (cs : List Char)
    : readBehindItem extended (.anchor anchor) cs = none := by
  unfold readBehindItem
  split
  · rfl
  · simp only
    split
    · rfl
    · exact Option.bind_eq_none_iff.mpr (fun _ _ => rfl)
  · rfl

theorem readBehindItem_ended (extended : Bool) (first : Primitive) (cs : List Char)
    : Ended LastLeft cs (readBehindItem extended first cs)
        (readBehindItem extended first (cs ++ [')'])) := by
  unfold readBehindItem
  split
  · refine .failed (fun item behind read => .inr ?_)
    obtain ⟨_, -, same⟩ := Option.bind_eq_some_iff.mp read
    exact (Prod.mk.inj (Option.some.inj same)).2.symm
  · rename_i after
    simp only [List.cons_append]
    refine skip_cases extended after (fun next suffix => ?_) (fun _ => ?_)
    · have head : (next ++ [')']).head? = some ']' ∨ (next ++ [')']).head? = some '-'
          ↔ next.head? = some ']' ∨ next.head? = some '-' := by
        cases next <;> simp
      simp only [head]
      split
      · exact .value (f := fun item => item) _
      · exact ((readRangeEnd_ended extended first next).weaken (fun _ _ => .inl)).of_suffix
          (suffix.trans (List.suffix_cons _ _))
    · exact .none_none
  · rename_i noEnd noHyphen
    split
    · rename_i same
      simp at same
    · rename_i same
      exact (not_cons_of_append (by decide) noHyphen _ same).elim
    · exact .value (f := fun item => item) _

theorem readClassRange_ended (extended : Bool) (c : Char) (tail : List Char)
    : Ended LastLeft tail (readClassRange extended (c :: tail))
        (readClassRange extended (c :: (tail ++ [')']))) := by
  unfold readClassRange
  refine (readClassPrimitive_cons_ended extended c tail).bind (fun first rest _ => ?_)
    (fun _ => rfl) ?_
  · exact Ended.skip extended (fun rest _ => readBehindItem_ended extended first rest) rfl
  · rintro first rest (rfl | ⟨anchor, rfl, -⟩) item behind read
    · simp only [skip_nil, readBehindItem] at read
      cases read
    · simp only [readBehindItem_anchor] at read
      cases read

theorem readHyphens_nil (extended : Bool) (fuel : Nat)
    : readHyphens extended fuel [] = ([], []) := by
  cases fuel <;> rfl

theorem readHyphens_other {extended : Bool} {fuel : Nat} (other : ∀ rest, cs = '-' :: rest → False)
    : readHyphens extended fuel cs = ([], cs) := by
  cases fuel with
  | zero => rfl
  | succ fuel => exact readHyphens.eq_3 extended cs fuel other

theorem readHyphens_ended (extended : Bool) {fuel fuel' : Nat} (enough : Enough fuel fuel' cs)
    : Ended Whole cs (some (readHyphens extended fuel cs))
        (some (readHyphens extended fuel' (cs ++ [')']))) := by
  induction fuel generalizing cs fuel' with
  | zero => exact absurd enough Enough.zero
  | succ fuel ih =>
      obtain _ | fuel' := fuel'
      · exact absurd enough Enough.zero_right
      by_cases hyphen : ∃ rest, cs = '-' :: rest
      · obtain ⟨rest, rfl⟩ := hyphen
        rw [List.cons_append]
        simp only [readHyphens]
        exact Ended.prepend (f := fun cs => some (readHyphens extended fuel cs))
          (g := fun cs => some (readHyphens extended fuel' cs)) (.literal ⟨'-', false⟩) extended
          (fun _ suffix => ih (enough.behind suffix)) (by simp only [readHyphens_nil])
      · have other : ∀ rest, cs = '-' :: rest → False := fun rest same => hyphen ⟨rest, same⟩
        rw [readHyphens_other other, readHyphens_other (not_cons_of_append (by decide) other)]
        exact .kept List.suffix_rfl

theorem readNegation_ended (extended : Bool) (cs : List Char)
    : Ended Whole cs (some (readNegation extended cs))
        (some (readNegation extended (cs ++ [')']))) := by
  unfold readNegation
  split
  · rename_i rest
    exact (ended_skip extended rest).of_suffix (List.suffix_cons _ _)
  · rename_i unmarked
    split
    · rename_i same
      exact (not_cons_of_append (by decide) unmarked _ same).elim
    · exact .kept List.suffix_rfl

theorem readFirstItems_ended (extended : Bool) (cs : List Char)
    : Ended (fun _ rest => rest = [')']) cs (readFirstItems extended cs)
        (readFirstItems extended (cs ++ [')'])) := by
  have hyphens := readHyphens_ended extended (enough_self cs)
  unfold readFirstItems
  generalize readHyphens extended (cs.length + 1) cs = bare at hyphens ⊢
  generalize readHyphens extended ((cs ++ [')']).length + 1) (cs ++ [')']) = ended at hyphens ⊢
  cases hyphens with
  | swallowed => exact .none_none
  | @kept items rest suffix =>
      refine Ended.of_suffix ?_ suffix
      simp only
      split
      · refine .failed (fun items behind read => ?_)
        exact (Prod.mk.inj (Option.some.inj read)).2.symm
      · rename_i rest
        simp only [List.cons_append]
        split
        · refine Ended.of_suffix ?_ (List.suffix_cons _ _)
          refine skip_cases extended rest (fun rest suffix => ?_) (fun _ => .none_none)
          refine Ended.of_suffix ?_ suffix
          split
          · refine .failed (fun items behind read => ?_)
            exact (Prod.mk.inj (Option.some.inj read)).2.symm
          · split
            · rename_i same
              simp at same
            · exact .kept List.suffix_rfl
        · exact .kept List.suffix_rfl
      · rename_i noEnd noBracket
        split
        · rename_i same
          simp at same
        · rename_i same
          exact (not_cons_of_append (by decide) noBracket _ same).elim
        · exact .kept List.suffix_rfl

theorem readClassOpening_ended (extended : Bool) (cs : List Char)
    : Ended (fun _ rest => rest = [')']) cs (readClassOpening extended cs)
        (readClassOpening extended (cs ++ [')'])) := by
  unfold readClassOpening
  refine skip_cases extended cs (fun rest suffix => ?_) (fun _ => .none_none)
  refine Ended.of_suffix ?_ suffix
  have negation := readNegation_ended extended rest
  generalize readNegation extended rest = bare at negation ⊢
  generalize readNegation extended (rest ++ [')']) = ended at negation ⊢
  cases negation with
  | swallowed => exact .none_none
  | kept suffix => exact ((readFirstItems_ended extended _).map (fun _ _ => id)).of_suffix suffix

-----------------------------------------------------------------------------------------
-- Sets inside of sets
-----------------------------------------------------------------------------------------

section Inside

variable {inside inside' : List ClassItem → List Char → Option (ClassItem × List Char)}
  (within : ∀ items rest, rest <:+ cs
    → Ended Whole rest (inside items rest) (inside' items (rest ++ [')'])))
  (nil : ∀ items, inside' items [] = inside items [])
  (parenthesis : ∀ items, inside' items [')'] = none)

include within nil parenthesis

theorem readBracketed_ended (extended : Bool)
    : Ended Whole cs (readBracketed inside extended cs)
        (readBracketed inside' extended (cs ++ [')'])) := by
  refine (readClassOpening_ended extended cs).bind (fun opening rest suffix => ?_)
    (fun _ => ?_) ?_
  · exact (within opening.2 rest suffix).bind_whole (fun _ _ _ => .kept List.suffix_rfl)
      (fun _ => rfl)
  · simp only [nil]
  · rintro opening _ rfl content behind read
    simp only [parenthesis] at read
    cases read

/-- An item is read of a set, and at least a character with it. -/
theorem readClassItem_ended (extended : Bool) (c : Char)
    : Ended LastLeft cs (readClassItem inside extended (c :: cs))
        (readClassItem inside' extended (c :: (cs ++ [')']))) := by
  by_cases bracket : c = '['
  · subst bracket
    unfold readClassItem
    simp only
    have named := readAsciiClass_ended cs
    generalize readAsciiClass cs = bare at named ⊢
    generalize readAsciiClass (cs ++ [')']) = ended at named ⊢
    cases named with
    | kept suffix => exact .kept suffix
    | swallowed comment => exact .swallowed comment
    | failed short =>
        obtain rfl : ended = none :=
          Option.eq_none_iff_forall_ne_some.mpr (fun found same => short _ _ same)
        have item : Ended LastLeft cs _ _ :=
          (readBracketed_ended within nil parenthesis extended).map
            (f := fun set => ClassItem.bracketed set.1 set.2) (fun _ _ => .inl)
        exact item
  · have range : ∀ inside tail,
        readClassItem inside extended (c :: tail) = readClassRange extended (c :: tail) :=
      fun inside tail => readClassItem.eq_2 inside extended _ (by simp [bracket])
    rw [range, range]
    exact readClassRange_ended extended c cs

end Inside

theorem readOperation?_append (cs : List Char)
    : readOperation? (cs ++ [')'])
      = (readOperation? cs).map (fun found => (found.1, found.2 ++ [')'])) := by
  unfold readOperation?
  split
  · rename_i same
    obtain ⟨rest, rfl, rfl⟩ := eq_cons_cons_of_append (by decide) (by decide) same
    rfl
  · rename_i same
    obtain ⟨rest, rfl, rfl⟩ := eq_cons_cons_of_append (by decide) (by decide) same
    rfl
  · rename_i same
    obtain ⟨rest, rfl, rfl⟩ := eq_cons_cons_of_append (by decide) (by decide) same
    rfl
  · rename_i both minus tilde
    split
    · exact (both _ rfl).elim
    · exact (minus _ rfl).elim
    · exact (tilde _ rfl).elim
    · rfl

theorem readOperation?_suffix {c : Char} {tail : List Char} {operation : SetOperation}
    (found : readOperation? (c :: tail) = some (operation, rest))
    : rest <:+ tail := by
  unfold readOperation? at found
  split at found
  all_goals
    cases found
  all_goals
    rename_i same
    obtain ⟨-, rfl⟩ := List.cons.inj same
    exact List.suffix_cons _ _

-----------------------------------------------------------------------------------------
-- Sets as a whole
-----------------------------------------------------------------------------------------

theorem readClassRest_nil (extended : Bool) (fuel : Nat)
    (before : Option (SetOperation × ClassItem)) (items : List ClassItem)
    : readClassRest extended fuel before items [] = none := by
  cases fuel with
  | zero => rfl
  | succ fuel => simp only [readClassRest, skip_nil]

/-- A set does not end with a parenthesis. -/
theorem readClassRest_parenthesis (extended : Bool) (fuel : Nat)
    (before : Option (SetOperation × ClassItem)) (items : List ClassItem)
    : readClassRest extended fuel before items [')'] = none := by
  cases fuel with
  | zero => rfl
  | succ fuel =>
      have last : readClassRange extended [')'] = none := by
        simp [readClassRange, readClassPrimitive, readBehindItem]
      unfold readClassRest
      rw [skip_parenthesis]
      change (readClassRange extended [')']).bind _ = none
      rw [last]
      rfl

theorem readClassRest_ended (extended : Bool) {fuel fuel' : Nat} (enough : Enough fuel fuel' cs)
    (before : Option (SetOperation × ClassItem)) (items : List ClassItem)
    : Ended Whole cs (readClassRest extended fuel before items cs)
        (readClassRest extended fuel' before items (cs ++ [')'])) := by
  induction fuel generalizing cs fuel' before items with
  | zero => exact absurd enough Enough.zero
  | succ fuel ih =>
      obtain _ | fuel' := fuel'
      · exact absurd enough Enough.zero_right
      simp only [readClassRest]
      refine skip_cases extended cs (fun rest suffix => ?_) (fun _ => .none_none)
      refine Ended.of_suffix ?_ suffix
      rcases rest with _ | ⟨c, tail⟩
      · refine .failed (fun content behind read => ?_)
        have last := readClassRest_parenthesis extended (fuel' + 1) before items
        simp only [readClassRest, skip_parenthesis] at last
        cases last.symm.trans read
      have enough : Enough fuel fuel' tail := (enough.mono suffix).behind List.suffix_rfl
      refine Ended.of_suffix ?_ (List.suffix_cons c tail)
      have operation := readOperation?_append (c :: tail)
      rw [List.cons_append] at operation ⊢
      simp only [operation]
      split
      · exact .kept List.suffix_rfl
      cases found : readOperation? (c :: tail) with
      | some operation =>
          have suffix := readOperation?_suffix found
          exact (ih (enough.mono suffix) _ _).of_suffix suffix
      | none =>
          have item := readClassItem_ended
            (fun items rest suffix => ih (enough.mono suffix) none items)
            (fun items => by rw [readClassRest_nil, readClassRest_nil])
            (readClassRest_parenthesis extended fuel' none) extended c
          refine item.bind (fun item rest suffix => ih (enough.mono suffix) before _)
            (fun _ => by simp only [readClassRest_nil]) ?_
          rintro item rest (rfl | rfl) content behind read
          · simp only [readClassRest_nil] at read
            cases read
          · simp only [readClassRest_parenthesis] at read
            cases read

theorem readClass_ended (extended : Bool) (cs : List Char)
    : Ended Whole cs (readClass extended cs) (readClass extended (cs ++ [')'])) := by
  have bracketed := readBracketed_ended
    (fun items rest suffix =>
      readClassRest_ended extended ((enough_self cs).mono suffix) none items)
    (fun items => by rw [readClassRest_nil, readClassRest_nil])
    (fun items => readClassRest_parenthesis extended _ none items) extended
  have set : Ended Whole cs _ _ :=
    bracketed.map (f := fun set => Tree.bracketed set.1 set.2) (fun _ _ => id)
  exact set

end Remediation.Regex
