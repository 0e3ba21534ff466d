import Remediation.Proofs.Regex.Ended

/-! Escapes in front of a parenthesis. Each of their readers reads the same there as of the text
alone. Only a boundary that a brace follows is read in front of a parenthesis and not alone, where
the brace could still have opened a name.
-/

namespace Remediation.Regex

variable {α : Type} {cs rest : List Char} {left : α → List Char → Prop}

-----------------------------------------------------------------------------------------
-- Escapes
-----------------------------------------------------------------------------------------

theorem readHexDigits_ended (extended : Bool) (count : Nat) (cs : List Char)
    : Ended Whole cs (readHexDigits extended count cs)
        (readHexDigits extended count (cs ++ [')'])) := by
  induction count generalizing cs with
  | zero => exact .kept List.suffix_rfl
  | succ count ih =>
      rcases cs with _ | ⟨c, rest⟩
      · exact .failed (by simp [readHexDigits, isHexDigit])
      · simp only [List.cons_append, readHexDigits]
        split
        · exact Ended.prepend c extended (fun rest _ => ih rest) rfl
        · exact .none_none

theorem readHexBraced_nil (extended : Bool) (fuel : Nat)
    : readHexBraced extended fuel [] = none := by
  cases fuel <;> rfl

theorem readHexBraced_ended (extended : Bool) {fuel fuel' : Nat} (enough : Enough fuel fuel' cs)
    : Ended Whole cs (readHexBraced extended fuel cs)
        (readHexBraced extended fuel' (cs ++ [')'])) := by
  induction fuel generalizing cs fuel' with
  | zero => exact absurd enough Enough.zero
  | succ fuel ih =>
      obtain _ | fuel' := fuel'
      · exact absurd enough Enough.zero_right
      rcases cs with _ | ⟨c, rest⟩
      · exact .failed (by simp [readHexBraced, isHexDigit])
      · rw [List.cons_append]
        by_cases close : c = '\x7d'
        · subst close
          exact (ended_skip extended rest).of_suffix (List.suffix_cons _ _)
        · simp only [readHexBraced]
          split
          · exact Ended.prepend c extended (fun _ suffix => ih (enough.behind suffix))
              (by simp only [readHexBraced_nil])
          · exact .none_none

theorem readHexDigits_nil {count : Nat} (extended : Bool) (some : count ≠ 0)
    : readHexDigits extended count [] = none := by
  cases count with
  | zero => exact absurd rfl some
  | succ count => rfl

theorem readHex_ended (extended : Bool) (letter : Char) (cs : List Char)
    : Ended Whole cs (readHex extended letter cs) (readHex extended letter (cs ++ [')'])) := by
  have several : (if letter = 'x' then 2 else if letter = 'u' then 4 else 8) ≠ 0 := by
    split
    · decide
    · split <;> decide
  unfold readHex
  generalize (if letter = 'x' then 2 else if letter = 'u' then 4 else 8) = count at several ⊢
  refine skip_cases extended cs (fun rest suffix => ?_) (fun comment => ?_)
  · refine Ended.of_suffix ?_ suffix
    split
    · rename_i tail
      have digits := Ended.skip extended
        (fun rest suffix => readHexBraced_ended extended ((enough_self tail).mono suffix))
        (by simp only [readHexBraced_nil])
      refine (digits.bind_whole (fun x rest _ => ?_) (fun _ => rfl)).of_suffix
        (List.suffix_cons _ _)
      dsimp only
      split
      · exact .none_none
      · exact .value _
    · rename_i unbraced
      split
      · rename_i same
        exact (not_cons_of_append (by decide) unbraced _ same).elim
      · exact (readHexDigits_ended extended _ rest).bind_whole (fun _ _ _ => .value _)
          (fun _ => rfl)
  · simp only [readHexDigits_nil extended several]
    exact .none_none

theorem readBracedName_nil (extended : Bool) (fuel : Nat)
    : readBracedName extended fuel [] = none := by
  cases fuel <;> rfl

theorem readBracedName_ended (extended : Bool) {fuel fuel' : Nat} (enough : Enough fuel fuel' cs)
    : Ended Whole cs (readBracedName extended fuel cs)
        (readBracedName extended fuel' (cs ++ [')'])) := by
  induction fuel generalizing cs fuel' with
  | zero => exact absurd enough Enough.zero
  | succ fuel ih =>
      obtain _ | fuel' := fuel'
      · exact absurd enough Enough.zero_right
      rcases cs with _ | ⟨c, rest⟩
      · refine .failed (fun name rest read => ?_)
        simp [readBracedName, readBracedName_nil] at read
      · rw [List.cons_append]
        by_cases close : c = '\x7d'
        · subst close
          exact .kept (List.suffix_cons _ _)
        · simp only [readBracedName]
          exact Ended.prepend c extended (fun _ suffix => ih (enough.behind suffix))
            (by simp only [readBracedName_nil])

theorem readQuery_ended (extended : Bool) (cs : List Char)
    : Ended Whole cs (readQuery extended cs) (readQuery extended (cs ++ [')'])) := by
  unfold readQuery
  refine skip_cases extended cs (fun rest suffix => ?_) (fun comment => .none_none)
  refine Ended.of_suffix ?_ suffix
  split
  · rename_i tail
    exact ((Ended.skip extended
      (fun rest suffix => readBracedName_ended extended ((enough_self tail).mono suffix))
      (by simp only [readBracedName_nil])).map (f := queryOf) (fun _ _ => id)).of_suffix
        (List.suffix_cons _ _)
  · exact .none_none
  · refine .failed (fun query behind read => ?_)
    obtain ⟨-, rfl⟩ := Prod.mk.inj (Option.some.inj read)
    exact skip_nil extended
  · rename_i c tail unbraced unescaped
    simp only [List.cons_append]
    exact (ended_skip extended tail).of_suffix (List.suffix_cons _ _)

theorem readBoundaryName_nil (extended : Bool) (fuel : Nat)
    : readBoundaryName extended fuel [] = ([], []) := by
  cases fuel <;> rfl

theorem readBoundaryName_ended (extended : Bool) {fuel fuel' : Nat}
    (enough : Enough (fuel + 1) (fuel' + 1) cs)
    : Ended Whole cs (some (readBoundaryName extended fuel cs))
        (some (readBoundaryName extended fuel' (cs ++ [')']))) := by
  induction fuel generalizing cs fuel' with
  | zero =>
      obtain rfl : cs = [] := List.eq_nil_of_length_eq_zero (Nat.lt_one_iff.mp enough.1)
      cases fuel' with
      | zero => exact .kept List.suffix_rfl
      | succ fuel' => exact .kept List.suffix_rfl
  | succ fuel ih =>
      obtain _ | fuel' := fuel'
      · exact absurd enough.2 (by simp)
      rcases cs with _ | ⟨c, rest⟩
      · exact .kept List.suffix_rfl
      · rw [List.cons_append]
        simp only [readBoundaryName]
        split
        · exact Ended.prepend (f := fun cs => some (readBoundaryName extended fuel cs))
            (g := fun cs => some (readBoundaryName extended fuel' cs)) c extended
            (fun _ suffix => ih (enough.behind suffix)) (by simp only [readBoundaryName_nil])
        · exact .kept List.suffix_rfl

/-- What is left of an escape that a name in braces may follow: a brace with the parenthesis behind
it, which is no name. -/
def UnclosedBrace (extended : Bool) (anchor : Anchor) (rest : List Char) : Prop :=
  anchor = .wordBoundary ∧ ∃ inner, rest = '\x7b' :: inner ∧ skip extended inner = [')']

/-- A boundary by its name, which a brace has to close. -/
theorem ended_boundaryNamed {left : Anchor → List Char → Prop} {bare ended : List Char × List Char}
    (named : Ended Whole cs (some bare) (some ended))
    : Ended left cs
        (match bare.2 with
        | '\x7d' :: after =>
            (boundaryNamed? (String.ofList bare.1)).map (fun anchor => (anchor, after))
        | _ => none)
        (match ended.2 with
        | '\x7d' :: after =>
            (boundaryNamed? (String.ofList ended.1)).map (fun anchor => (anchor, after))
        | _ => none) := by
  cases named with
  | @kept name after behind =>
      refine Ended.of_suffix ?_ behind
      simp only
      split
      · simp only [List.cons_append]
        cases boundaryNamed? (String.ofList name) with
        | none => exact .none_none
        | some anchor => exact .kept (List.suffix_cons _ _)
      · rename_i unclosed
        split
        · rename_i same
          exact (not_cons_of_append (by decide) unclosed _ same).elim
        · exact .none_none
  | swallowed => exact .none_none

theorem readBoundary_ended (extended : Bool) (cs : List Char)
    : Ended (UnclosedBrace extended) cs (readBoundary extended cs)
        (readBoundary extended (cs ++ [')'])) := by
  rcases cs with _ | ⟨c, rest⟩
  · exact .kept List.suffix_rfl
  · rw [List.cons_append]
    by_cases braced : c = '\x7b'
    · subst braced
      simp only [readBoundary]
      have suffix := skip_suffix extended rest
      rcases skip_append extended rest with same | ⟨all, gone, comment⟩
      · rw [same]
        cases found : skip extended rest with
        | nil =>
            rw [found] at same
            refine .failed (fun anchor behind read => ?_)
            obtain ⟨rfl, rfl⟩ := Prod.mk.inj (Option.some.inj read)
            exact ⟨rfl, _, rfl, same⟩
        | cons d tail =>
            rw [found] at suffix
            simp only [List.cons_append]
            split
            · have enough : Enough (tail.length + 1 + 1) (tail.length + 1 + 1 + 1) (d :: tail) := by
                simp [Enough]
              have named := readBoundaryName_ended extended enough
              rw [List.cons_append] at named
              rw [List.length_append, List.length_singleton]
              exact (ended_boundaryNamed named).of_suffix
                (suffix.trans (List.suffix_cons _ _))
            · exact .kept List.suffix_rfl
      · rw [all, gone]
        exact .none_none
    · have plain : ∀ tail, readBoundary extended (c :: tail) = some (.wordBoundary, c :: tail) :=
        fun tail => readBoundary.eq_2 extended _ (by simp [braced])
      rw [plain, plain]
      exact .kept List.suffix_rfl

/-- What may be left of an escape that is only read in front of a parenthesis. -/
def EscapeLeft (extended : Bool) (primitive : Primitive) (rest : List Char) : Prop :=
  rest = [] ∨ ∃ anchor, primitive = .anchor anchor ∧ UnclosedBrace extended anchor rest

theorem readEscape_ended (extended : Bool) (cs : List Char)
    : Ended (EscapeLeft extended) cs (readEscape extended cs)
        (readEscape extended (cs ++ [')'])) := by
  rcases cs with _ | ⟨c, rest⟩
  · refine .failed (fun primitive behind read => .inl ?_)
    obtain ⟨-, rfl⟩ := Prod.mk.inj (Option.some.inj read)
    rfl
  · rw [List.cons_append]
    unfold readEscape
    simp only
    split
    case h_1 | h_2 | h_3 =>
      exact ((readHex_ended extended _ rest).map (f := Primitive.literal)
        (fun _ _ => .inl)).of_suffix (List.suffix_cons _ _)
    case h_4 | h_5 =>
      exact ((readQuery_ended extended rest).map (f := (Primitive.property · _))
        (fun _ _ => .inl)).of_suffix (List.suffix_cons _ _)
    case h_14 =>
      exact ((readBoundary_ended extended rest).map (f := Primitive.anchor)
        (fun anchor _ brace => .inr ⟨anchor, rfl, brace⟩)).of_suffix (List.suffix_cons _ _)
    case h_18 =>
      split
      · exact .kept (List.suffix_cons _ _)
      · cases controlEscape? c
        · exact .none_none
        · exact .kept (List.suffix_cons _ _)
    all_goals exact .kept (List.suffix_cons _ _)

end Remediation.Regex
