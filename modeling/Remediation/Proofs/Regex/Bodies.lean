import Remediation.Proofs.Regex.Sets

/-! Bodies of groups in front of a parenthesis. A body that is read of a text alone is read in front
of the parenthesis too, which is left over unless a comment takes it in; a body that cannot be read
of the text alone reaches the parenthesis there.
-/

namespace Remediation.Regex

variable {α : Type} {cs rest : List Char} {left : α → List Char → Prop}

-----------------------------------------------------------------------------------------
-- Repetitions
-----------------------------------------------------------------------------------------

theorem trimLeft_append (cs : List Char)
    : Text.trimLeft (cs ++ [')']) = Text.trimLeft cs ++ [')'] := by
  unfold Text.trimLeft
  rw [List.dropWhile_append]
  split
  · rename_i empty
    rw [List.isEmpty_iff.mp empty]
    decide
  · rfl

theorem trimLeft_suffix (cs : List Char) : Text.trimLeft cs <:+ cs :=
  List.dropWhile_suffix _

theorem readCountDigits_nil (extended : Bool) (fuel : Nat)
    : readCountDigits extended fuel [] = ([], []) := by
  cases fuel <;> rfl

theorem readCountDigits_ended (extended : Bool) {fuel fuel' : Nat} (enough : Enough fuel fuel' cs)
    : Ended Whole cs (some (readCountDigits extended fuel cs))
        (some (readCountDigits extended fuel' (cs ++ [')']))) := by
  induction fuel generalizing cs fuel' with
  | zero => exact absurd enough Enough.zero
  | succ fuel ih =>
      obtain _ | fuel' := fuel'
      · exact absurd enough Enough.zero_right
      rcases cs with _ | ⟨c, rest⟩
      · exact .kept List.suffix_rfl
      · rw [List.cons_append]
        simp only [readCountDigits]
        split
        · exact Ended.prepend (f := fun cs => some (readCountDigits extended fuel cs))
            (g := fun cs => some (readCountDigits extended fuel' cs)) c extended
            (fun _ suffix => ih (enough.behind suffix)) (by simp only [readCountDigits_nil])
        · exact .kept List.suffix_rfl

theorem readCount_ended (extended : Bool) (cs : List Char)
    : Ended Never cs (readCount extended cs) (readCount extended (cs ++ [')'])) := by
  have enough : Enough (cs.length + 1) ((cs ++ [')']).length + 1) (Text.trimLeft cs) :=
    (enough_self cs).mono (trimLeft_suffix cs)
  have digits := readCountDigits_ended extended enough
  unfold readCount
  rw [trimLeft_append]
  generalize readCountDigits extended (cs.length + 1) (Text.trimLeft cs) = bare at digits ⊢
  generalize readCountDigits extended ((cs ++ [')']).length + 1) (Text.trimLeft cs ++ [')']) = ended
    at digits ⊢
  cases digits with
  | @kept digits rest suffix =>
      simp only
      split
      · exact .none_none
      · rw [trimLeft_append]
        exact .kept ((trimLeft_suffix rest).trans (suffix.trans (trimLeft_suffix cs)))
  | @swallowed digits comment =>
      simp only
      split
      · exact .none_none
      · exact .swallowed (comment.of_suffix (trimLeft_suffix cs))

theorem skipLazy_suffix (cs : List Char) : skipLazy cs <:+ cs := by
  unfold skipLazy
  split
  · exact List.suffix_cons _ _
  · exact List.suffix_rfl

theorem skipLazy_append (cs : List Char) : skipLazy (cs ++ [')']) = skipLazy cs ++ [')'] := by
  rcases cs with _ | ⟨c, rest⟩
  · rfl
  · rw [List.cons_append]
    unfold skipLazy
    split
    · rename_i same
      obtain ⟨rfl, rfl⟩ := List.cons.inj same
      rfl
    · rename_i other
      split
      · rename_i same
        obtain ⟨rfl, rfl⟩ := List.cons.inj same
        exact (other _ rfl).elim
      · rfl

/-- The end of a repetition's bounds, behind which its mark may follow. -/
theorem ended_lazy {x : α} (extended : Bool) (cs : List Char)
    : Ended left cs (some (x, skipLazy (skip extended cs)))
        (some (x, skipLazy (skip extended (cs ++ [')'])))) :=
  Ended.skip (f := fun rest => some (x, skipLazy rest)) (g := fun rest => some (x, skipLazy rest))
    extended (fun rest _ => by rw [skipLazy_append]; exact .kept (skipLazy_suffix rest)) rfl

theorem readBounds_ended (extended : Bool) (cs : List Char)
    : Ended Whole cs (readBounds extended cs) (readBounds extended (cs ++ [')'])) := by
  unfold readBounds
  refine (Ended.skip extended (fun rest _ => readCount_ended extended rest) rfl).bind
    (fun least rest _ => ?_) (fun _ => rfl) (fun _ _ never => never.elim)
  simp only
  split
  · rename_i tail _
    exact (ended_lazy extended tail).of_suffix (List.suffix_cons _ _)
  · rename_i tail _
    simp only [List.cons_append]
    refine Ended.of_suffix ?_ (List.suffix_cons _ _)
    refine skip_cases extended tail (fun rest suffix => ?_) (fun _ => .none_none)
    refine Ended.of_suffix ?_ suffix
    split
    · rename_i after
      exact (ended_lazy extended after).of_suffix (List.suffix_cons _ _)
    · rename_i bounded
      split
      · rename_i same
        exact (not_cons_of_append (by decide) bounded _ same).elim
      · refine (readCount_ended extended rest).bind (fun most rest _ => ?_) (fun _ => rfl)
          (fun _ _ never => never.elim)
        simp only
        split
        · rename_i tail _
          simp only [List.cons_append]
          split
          · exact (ended_lazy extended tail).of_suffix (List.suffix_cons _ _)
          · exact .none_none
        · rename_i noEnd
          split
          · rename_i same
            exact (not_cons_of_append (by decide) noEnd _ same).elim
          · exact .none_none
  · rename_i noEnd noComma
    split
    · rename_i same
      exact (not_cons_of_append (by decide) noEnd _ same).elim
    · rename_i same
      exact (not_cons_of_append (by decide) noComma _ same).elim
    · exact .none_none

-----------------------------------------------------------------------------------------
-- Groups
-----------------------------------------------------------------------------------------

theorem readFlags_ended (cleared dangling : Bool) (change : FlagChange) (cs : List Char)
    : Ended (fun _ rest => rest = [')']) cs (readFlags cleared dangling change cs)
        (readFlags cleared dangling change (cs ++ [')'])) := by
  induction cs generalizing cleared dangling change with
  | nil =>
      refine .failed (fun change behind read => ?_)
      simp [readFlags] at read
      exact read.2.2.symm
  | cons c rest ih =>
      rw [List.cons_append]
      unfold readFlags
      split
      · split
        · exact .none_none
        · exact .kept List.suffix_rfl
      · split
        · split
          · exact .none_none
          · exact (ih true true change).of_suffix (List.suffix_cons _ _)
        · cases flagOf? c with
          | none => exact .none_none
          | some flag =>
              simp only [Option.bind_eq_bind, Option.bind_some]
              split
              · exact .none_none
              · exact (ih cleared false _).of_suffix (List.suffix_cons _ _)

theorem readGroupName_ended (cs : List Char)
    : Ended Never cs (readGroupName cs) (readGroupName (cs ++ [')'])) := by
  unfold readGroupName
  rcases scan_append (p := fun c => decide (c ≠ '>')) (by decide) cs with
    ⟨all, all'⟩ | ⟨c, tail, suffix, found, found', name⟩
  · rw [all, all']
    cases cs.takeWhile (· ≠ '>') <;> cases (cs ++ [')']).takeWhile (· ≠ '>') <;> exact .none_none
  · simp only [found, found', name]
    refine Ended.of_suffix ?_ suffix
    cases cs.takeWhile (fun c => decide (c ≠ '>')) with
    | nil => exact .none_none
    | cons first others =>
        simp only
        split
        · exact .kept (List.suffix_cons _ _)
        · exact .none_none

theorem looksAround_iff {cs : List Char}
    : looksAround cs = true
      ↔ (∃ rest, cs = '=' :: rest) ∨ (∃ rest, cs = '!' :: rest)
        ∨ (∃ rest, cs = '<' :: '=' :: rest) ∨ (∃ rest, cs = '<' :: '!' :: rest) := by
  unfold looksAround
  split <;> simp_all

theorem looksAround_append (cs : List Char) : looksAround (cs ++ [')']) = looksAround cs := by
  rw [Bool.eq_iff_iff, looksAround_iff, looksAround_iff]
  constructor
  · rintro (⟨_, same⟩ | ⟨_, same⟩ | ⟨_, same⟩ | ⟨_, same⟩)
    · obtain ⟨rest, rfl, -⟩ := eq_cons_of_append (by decide) same
      exact .inl ⟨rest, rfl⟩
    · obtain ⟨rest, rfl, -⟩ := eq_cons_of_append (by decide) same
      exact .inr (.inl ⟨rest, rfl⟩)
    · obtain ⟨rest, rfl, -⟩ := eq_cons_cons_of_append (by decide) (by decide) same
      exact .inr (.inr (.inl ⟨rest, rfl⟩))
    · obtain ⟨rest, rfl, -⟩ := eq_cons_cons_of_append (by decide) (by decide) same
      exact .inr (.inr (.inr ⟨rest, rfl⟩))
  · rintro (⟨rest, rfl⟩ | ⟨rest, rfl⟩ | ⟨rest, rfl⟩ | ⟨rest, rfl⟩) <;> simp

theorem behindAngle?_append (cs : List Char)
    : behindAngle? (cs ++ [')']) = (behindAngle? cs).map (· ++ [')']) := by
  unfold behindAngle?
  split
  · rename_i after same
    obtain ⟨rest, rfl, rfl⟩ := eq_cons_cons_of_append (by decide) (by decide) same
    rfl
  · rename_i same
    obtain ⟨rest, rfl, rfl⟩ := eq_cons_of_append (by decide) same
    rfl
  · rename_i unmarked unnamed
    split
    · exact (unmarked _ rfl).elim
    · exact (unnamed _ rfl).elim
    · rfl

theorem behindAngle?_suffix (found : behindAngle? cs = some rest) : rest <:+ cs := by
  unfold behindAngle? at found
  split at found
  · rw [← Option.some.inj found]
    exact (List.suffix_cons _ _).trans (List.suffix_cons _ _)
  · rw [← Option.some.inj found]
    exact List.suffix_cons _ _
  · cases found

theorem readFlagsOpening_ended (cs : List Char)
    : Ended Whole cs (readFlagsOpening cs) (readFlagsOpening (cs ++ [')'])) := by
  unfold readFlagsOpening
  refine (readFlags_ended false false [] cs).bind (fun change rest _ => ?_) (fun _ => rfl) ?_
  · simp only
    split
    · exact .kept (List.suffix_cons _ _)
    · rename_i head tail noColon _
      simp only [List.cons_append]
      split
      · exact .none_none
      · exact .kept (List.suffix_cons _ _)
    · refine .failed (fun opening behind read => ?_)
      simp at read
      exact read.2.2
  · rintro change _ rfl opening behind read
    simp at read
    exact read.2.2

theorem readOpening_ended (extended : Bool) (cs : List Char)
    : Ended Whole cs (readOpening extended cs) (readOpening extended (cs ++ [')'])) := by
  unfold readOpening
  refine skip_cases extended cs (fun rest suffix => ?_) (fun comment => .swallowed comment)
  refine Ended.of_suffix ?_ suffix
  split
  · rename_i tail
    simp only [List.cons_append, looksAround_append, behindAngle?_append]
    refine Ended.of_suffix ?_ (List.suffix_cons _ _)
    split
    · exact .none_none
    · cases named : behindAngle? tail with
      | none => exact readFlagsOpening_ended tail
      | some name =>
          exact ((readGroupName_ended name).map (f := Opening.named)
            (fun _ _ => False.elim)).of_suffix (behindAngle?_suffix named)
  · rename_i unmarked
    split
    · rename_i same
      exact (not_cons_of_append (by decide) unmarked _ same).elim
    · exact .kept List.suffix_rfl

-----------------------------------------------------------------------------------------
-- Turns of reading a body
-----------------------------------------------------------------------------------------

section Turns

variable {inside inside' : Progress → List Char → Option (Progress × List Char)}

/-- Where the text alone does not close the group, the parenthesis behind it does. -/
theorem readGroup_ended (progress : Progress) (extended : Bool) (names : List String)
    (change : FlagChange)
    (within : ∀ progress, Ended Whole cs (inside progress cs) (inside' progress (cs ++ [')'])))
    : Ended Whole cs (readGroup inside progress extended names change cs)
        (readGroup inside' progress extended names change (cs ++ [')'])) := by
  refine (within ⟨extended, names, [], []⟩).bind_whole (fun inner rest _ => ?_) (fun _ => rfl)
  rcases rest with _ | ⟨c, rest⟩
  · refine .failed (fun next behind read => ?_)
    exact (Prod.mk.inj (Option.some.inj read)).2.symm
  · exact .kept (List.suffix_cons c rest)

/-- What may be left of a turn that is only taken in front of a parenthesis. -/
def TurnLeft (next : Progress) (rest : List Char) : Prop :=
  rest = [] ∨ ∃ anchor, UnclosedBrace next.extended anchor rest

theorem readTurn_ended (progress : Progress) (c : Char)
    (within : ∀ progress rest, rest <:+ cs
      → Ended Whole rest (inside progress rest) (inside' progress (rest ++ [')'])))
    (nil : ∀ progress, inside' progress [] = inside progress [])
    : Ended TurnLeft cs (readTurn inside progress c cs)
        (readTurn inside' progress c (cs ++ [')'])) := by
  unfold readTurn
  split
  case h_1 => exact .kept List.suffix_rfl
  case h_2 =>
    suffices whole : Ended Whole cs _ _ from whole.weaken (fun _ _ => .inl)
    refine (readOpening_ended progress.extended cs).bind_whole (fun opening rest suffix => ?_)
      (fun opening => ?_)
    · cases opening with
      | flags change => exact .kept List.suffix_rfl
      | group change => exact readGroup_ended _ _ _ _ (within · rest suffix)
      | named name =>
          simp only
          split
          · exact .none_none
          · exact readGroup_ended _ _ _ _ (within · rest suffix)
    · simp only [readGroup, nil]
  case h_3 =>
    exact (readClass_ended progress.extended cs).map (f := progress.push) (fun _ _ => .inl)
  case h_4 | h_5 | h_6 =>
    rw [skipLazy_append]
    cases progress.repeatLast _ _ with
    | none => exact .none_none
    | some repeated => exact .kept (skipLazy_suffix cs)
  case h_7 =>
    suffices whole : Ended Whole cs _ _ from whole.weaken (fun _ _ => .inl)
    refine (readBounds_ended progress.extended cs).bind_whole (fun bounds rest _ => ?_)
      (fun _ => rfl)
    simp only
    cases progress.repeatLast _ _ with
    | none => exact .none_none
    | some repeated => exact .kept List.suffix_rfl
  case h_8 =>
    refine (readEscape_ended progress.extended cs).map
      (f := fun primitive => progress.push primitive.tree) ?_
    rintro primitive rest (rfl | ⟨anchor, -, brace⟩)
    · exact .inl rfl
    · exact .inr ⟨anchor, brace⟩
  all_goals exact .kept List.suffix_rfl

end Turns

-----------------------------------------------------------------------------------------
-- Bodies of groups
-----------------------------------------------------------------------------------------

theorem readBody_nil {fuel : Nat} (more : 0 < fuel) (progress : Progress)
    : readBody fuel progress [] = some (progress, []) := by
  cases fuel with
  | zero => exact absurd more (Nat.lt_irrefl 0)
  | succ fuel => simp only [readBody, skip_nil]

/-- A brace with the parenthesis behind it bounds no repetition. -/
theorem readBody_unclosed {anchor : Anchor} {progress : Progress}
    (brace : UnclosedBrace progress.extended anchor cs) (fuel : Nat)
    : readBody fuel progress cs = none := by
  obtain ⟨-, inner, rfl, behind⟩ := brace
  cases fuel with
  | zero => rfl
  | succ fuel =>
      have dark : skip progress.extended ('\x7b' :: inner) = '\x7b' :: inner := by
        unfold skip
        split
        · exact skipFrom_stop _ (by decide) (by decide)
        · rfl
      have bounds : readBounds progress.extended inner = none := by
        unfold readBounds
        rw [behind]
        rfl
      simp only [readBody, readTurn, dark, bounds]
      rfl

/-- A body that the text alone leaves open ends at the parenthesis. -/
theorem readBody_ended {fuel fuel' : Nat} (enough : Enough fuel fuel' cs) (progress : Progress)
    : Ended Whole cs (readBody fuel progress cs) (readBody fuel' progress (cs ++ [')'])) := by
  induction fuel generalizing cs fuel' progress with
  | zero => exact absurd enough Enough.zero
  | succ fuel ih =>
      obtain _ | fuel' := fuel'
      · exact absurd enough Enough.zero_right
      simp only [readBody]
      refine skip_cases progress.extended cs (fun rest suffix => ?_)
        (fun comment => .swallowed comment)
      refine Ended.of_suffix ?_ suffix
      rcases rest with _ | ⟨c, tail⟩
      · exact .kept List.suffix_rfl
      have enough : Enough fuel fuel' tail := (enough.mono suffix).behind List.suffix_rfl
      have more : 0 < fuel := Nat.lt_of_le_of_lt (Nat.zero_le _) enough.1
      have more' : 0 < fuel' := Nat.lt_of_le_of_lt (Nat.zero_le _) enough.2
      have nil : ∀ next, readBody fuel' next [] = readBody fuel next [] := by
        intro next
        rw [readBody_nil more, readBody_nil more']
      rw [List.cons_append]
      simp only
      split
      · exact .kept List.suffix_rfl
      refine Ended.of_suffix ?_ (List.suffix_cons c tail)
      have turn := readTurn_ended progress c
        (fun next rest suffix => ih (enough.mono suffix) next) nil
      refine turn.bind (fun next rest suffix => ih (enough.mono suffix) next) nil ?_
      rintro next rest (rfl | ⟨anchor, brace⟩) last behind read
      · rw [readBody_nil more'] at read
        exact (Prod.mk.inj (Option.some.inj read)).2.symm
      · rw [readBody_unclosed brace] at read
        cases read

end Remediation.Regex
