import Remediation.Regex.Reader

/-! How a text is read that stands in front of a parenthesis. What is read of the text alone is read
there too, and the parenthesis is left over; only a comment that runs to the end of the text takes
it in. Where the text alone cannot be read, reading reaches the parenthesis, or fails.
-/

namespace Remediation.Regex

variable {α β : Type} {cs rest : List Char} {left : α → List Char → Prop}

-----------------------------------------------------------------------------------------
-- Readers in front of a parenthesis
-----------------------------------------------------------------------------------------

/-- Whether a comment could start in a text that no line end closes. -/
def OpenComment (cs : List Char) : Prop :=
  ∃ front comment, cs = front ++ '#' :: comment ∧ '\n' ∉ comment

theorem OpenComment.of_suffix (suffix : rest <:+ cs) (comment : OpenComment rest)
    : OpenComment cs := by
  obtain ⟨more, rfl⟩ := suffix
  obtain ⟨front, comment, rfl, noLineEnd⟩ := comment
  exact ⟨more ++ front, comment, (List.append_assoc ..).symm, noLineEnd⟩

/-- What is read of a text, and what of the text with a parenthesis behind it. The parenthesis is
left over, or a comment has swallowed it. Where nothing can be read of the text alone, `left` says
what may be read of the other one and what is left of it. -/
inductive Ended (left : α → List Char → Prop) (cs : List Char)
    : Option (α × List Char) → Option (α × List Char) → Prop where
  | kept {x : α} {rest : List Char} (suffix : rest <:+ cs)
      : Ended left cs (some (x, rest)) (some (x, rest ++ [')']))
  | swallowed {x : α} (comment : OpenComment cs) : Ended left cs (some (x, [])) (some (x, []))
  | failed {ended : Option (α × List Char)}
      (short : ∀ x rest, ended = some (x, rest) → left x rest)
      : Ended left cs none ended

/-- All is read. -/
abbrev Whole (_ : α) (rest : List Char) : Prop := rest = []

namespace Ended

variable {left' : β → List Char → Prop} {first second : Option (α × List Char)}

theorem none_none : Ended left cs none none :=
  .failed (by simp)

theorem weaken {weaker : α → List Char → Prop} (ended : Ended left cs first second)
    (imp : ∀ x behind, left x behind → weaker x behind)
    : Ended weaker cs first second := by
  cases ended with
  | kept suffix => exact .kept suffix
  | swallowed comment => exact .swallowed comment
  | failed short => exact .failed (fun x behind found => imp x behind (short x behind found))

theorem of_suffix (ended : Ended left rest first second) (suffix : rest <:+ cs)
    : Ended left cs first second := by
  cases ended with
  | kept inner => exact .kept (inner.trans suffix)
  | swallowed comment => exact .swallowed (comment.of_suffix suffix)
  | failed short => exact .failed short

/-- What is left of a text is its end. -/
theorem suffix {x : α} (ended : Ended left cs (some (x, rest)) second) : rest <:+ cs := by
  cases ended with
  | kept suffix => exact suffix
  | swallowed => exact List.nil_suffix

theorem suffix_of {x : α} (ended : Ended left cs first second) (found : first = some (x, rest))
    : rest <:+ cs := by
  subst found
  exact ended.suffix

theorem map {f : α → β} (ended : Ended left cs first second)
    (imp : ∀ x behind, left x behind → left' (f x) behind)
    : Ended left' cs (first.map (fun found => (f found.1, found.2)))
        (second.map (fun found => (f found.1, found.2))) := by
  cases ended with
  | kept suffix => exact .kept suffix
  | swallowed comment => exact .swallowed comment
  | failed short =>
      refine .failed (fun y behind mapped => ?_)
      obtain ⟨⟨x, rest⟩, found, same⟩ := Option.map_eq_some_iff.mp mapped
      cases same
      exact imp x _ (short x _ found)

/-- One reader after another. Behind a comment the second one finds nothing in either text. -/
theorem bind {next next' : α × List Char → Option (β × List Char)}
    (ended : Ended left cs first second)
    (each : ∀ x rest, rest <:+ cs
      → Ended left' rest (next (x, rest)) (next' (x, rest ++ [')'])))
    (nil : ∀ x, next' (x, []) = next (x, []))
    (short : ∀ x rest, left x rest
      → ∀ y behind, next' (x, rest) = some (y, behind) → left' y behind)
    : Ended left' cs (first.bind next) (second.bind next') := by
  cases ended with
  | kept suffix => exact (each _ _ suffix).of_suffix suffix
  | @swallowed x comment =>
      have last := each x [] List.nil_suffix
      simp only [Option.bind_some, nil]
      cases found : next (x, []) with
      | none => exact none_none
      | some pair =>
          obtain ⟨y, behind⟩ := pair
          rw [List.suffix_nil.mp (last.suffix_of found)]
          exact .swallowed comment
  | failed done =>
      refine .failed (fun y behind found => ?_)
      obtain ⟨⟨x, rest⟩, read, next⟩ := Option.bind_eq_some_iff.mp found
      exact short x rest (done x rest read) y behind next

/-- One reader after another that leaves nothing when it fails on the text alone. -/
theorem bind_whole {next next' : α × List Char → Option (β × List Char)}
    (ended : Ended Whole cs first second)
    (each : ∀ x rest, rest <:+ cs
      → Ended Whole rest (next (x, rest)) (next' (x, rest ++ [')'])))
    (nil : ∀ x, next' (x, []) = next (x, []))
    : Ended Whole cs (first.bind next) (second.bind next') := by
  refine ended.bind each nil (fun x rest done y behind found => ?_)
  obtain rfl : rest = [] := done
  have last := each x [] List.nil_suffix
  exact List.suffix_nil.mp (last.suffix_of ((nil x).symm.trans found))

/-- A value that is worked out of what was read. -/
theorem value {γ : Type} {f : γ → α} (found : Option γ)
    : Ended left cs (found.bind (fun c => some (f c, cs)))
        (found.bind (fun c => some (f c, cs ++ [')']))) := by
  cases found with
  | none => exact none_none
  | some c => exact .kept List.suffix_rfl

end Ended

/-- A character in front of a parenthesis stands at the front of the text. -/
theorem eq_cons_of_append {c : Char} {tail : List Char} (different : c ≠ ')')
    (same : cs ++ [')'] = c :: tail)
    : ∃ inner, cs = c :: inner ∧ tail = inner ++ [')'] := by
  rcases cs with _ | ⟨d, inner⟩
  · exact absurd (List.cons.inj same).1.symm different
  · obtain ⟨rfl, rfl⟩ := List.cons.inj same
    exact ⟨inner, rfl, rfl⟩

theorem eq_cons_cons_of_append {c d : Char} {tail : List Char} (first : c ≠ ')') (second : d ≠ ')')
    (same : cs ++ [')'] = c :: d :: tail)
    : ∃ inner, cs = c :: d :: inner ∧ tail = inner ++ [')'] := by
  obtain ⟨_, rfl, next⟩ := eq_cons_of_append first same
  obtain ⟨inner, rfl, rfl⟩ := eq_cons_of_append second next.symm
  exact ⟨inner, rfl, rfl⟩

theorem not_cons_of_append {c : Char} (different : c ≠ ')')
    (other : ∀ tail, cs = c :: tail → False)
    : ∀ tail, cs ++ [')'] = c :: tail → False := by
  intro tail same
  obtain ⟨inner, front, -⟩ := eq_cons_of_append different same
  exact other inner front

theorem not_cons_cons_of_append {c d : Char} (first : c ≠ ')') (second : d ≠ ')')
    (other : ∀ tail, cs = c :: d :: tail → False)
    : ∀ tail, cs ++ [')'] = c :: d :: tail → False := by
  intro tail same
  obtain ⟨inner, front, -⟩ := eq_cons_cons_of_append first second same
  exact other inner front

/-- A scan that passes over parentheses ends inside the text, or takes all of both texts. -/
theorem scan_append {p : Char → Bool} (passes : p ')' = true) (cs : List Char)
    : cs.dropWhile p = [] ∧ (cs ++ [')']).dropWhile p = []
      ∨ ∃ c tail, c :: tail <:+ cs
        ∧ cs.dropWhile p = c :: tail
        ∧ (cs ++ [')']).dropWhile p = c :: (tail ++ [')'])
        ∧ (cs ++ [')']).takeWhile p = cs.takeWhile p := by
  rw [List.dropWhile_append, List.takeWhile_append]
  cases behind : cs.dropWhile p with
  | nil => simp [passes]
  | cons c tail =>
      have whole := congrArg List.length (cs.takeWhile_append_dropWhile (p := p))
      rw [behind, List.length_append, List.length_cons] at whole
      have shorter : ¬(cs.takeWhile p).length = cs.length := by omega
      rw [List.isEmpty_cons, if_neg Bool.false_ne_true, if_neg shorter]
      exact .inr ⟨c, tail, behind ▸ List.dropWhile_suffix _, rfl, rfl, rfl⟩

-----------------------------------------------------------------------------------------
-- Blanks and comments
-----------------------------------------------------------------------------------------

theorem skipComment_suffix (cs : List Char) : skipComment cs <:+ cs := by
  fun_induction skipComment with
  | case1 => exact List.suffix_rfl
  | case2 rest => exact List.suffix_cons _ _
  | case3 c rest _ ih => exact ih.trans (List.suffix_cons _ _)

theorem skipComment_append (lineEnd : '\n' ∈ cs) (tail : List Char)
    : skipComment (cs ++ tail) = skipComment cs ++ tail := by
  fun_induction skipComment cs with
  | case1 => cases lineEnd
  | case2 rest => rfl
  | case3 c rest other ih =>
      have different : c ≠ '\n' := other
      rw [List.cons_append, skipComment.eq_3 _ _ other]
      exact ih ((List.mem_cons.mp lineEnd).resolve_left (Ne.symm different))

theorem skipComment_open (noLineEnd : '\n' ∉ cs) : skipComment cs = [] := by
  fun_induction skipComment cs with
  | case1 => rfl
  | case2 rest => exact absurd List.mem_cons_self noLineEnd
  | case3 c rest _ ih => exact ih (List.not_mem_of_not_mem_cons noLineEnd)

theorem skipFrom_nil (fuel : Nat) : skipFrom fuel [] = [] := by
  cases fuel <;> rfl

theorem skipFrom_succ (fuel : Nat) (cs : List Char)
    : skipFrom (fuel + 1) cs
      = match cs with
        | '#' :: rest => skipFrom fuel (skipComment rest)
        | c :: rest => if Text.isBlank c then skipFrom fuel rest else cs
        | [] => [] := rfl

theorem skipFrom_stop {c : Char} (fuel : Nat) (noComment : c ≠ '#')
    (dark : Text.isBlank c = false)
    : skipFrom (fuel + 1) (c :: rest) = c :: rest := by
  rw [skipFrom_succ]
  split
  · rename_i same
    exact absurd (List.cons.inj same).1 noComment
  · rename_i same
    obtain ⟨rfl, rfl⟩ := List.cons.inj same
    rw [dark, if_neg Bool.false_ne_true]
  · rename_i same
    cases same

theorem skipFrom_blank {c : Char} (fuel : Nat) (noComment : c ≠ '#')
    (blank : Text.isBlank c = true)
    : skipFrom (fuel + 1) (c :: rest) = skipFrom fuel rest := by
  rw [skipFrom_succ]
  split
  · rename_i same
    exact absurd (List.cons.inj same).1 noComment
  · rename_i same
    obtain ⟨rfl, rfl⟩ := List.cons.inj same
    rw [blank, if_pos rfl]
  · rename_i same
    cases same

theorem skipFrom_suffix (fuel : Nat) (cs : List Char) : skipFrom fuel cs <:+ cs := by
  fun_induction skipFrom fuel cs with
  | case1 => exact List.suffix_rfl
  | case2 fuel rest ih =>
      exact ih.trans ((skipComment_suffix rest).trans (List.suffix_cons _ _))
  | case3 fuel c rest _ _ ih => exact ih.trans (List.suffix_cons _ _)
  | case4 => exact List.suffix_rfl
  | case5 => exact List.suffix_rfl

theorem skip_suffix (extended : Bool) (cs : List Char) : skip extended cs <:+ cs := by
  unfold skip
  split
  · exact skipFrom_suffix _ _
  · exact List.suffix_rfl

@[simp]
theorem skip_nil (extended : Bool) : skip extended [] = [] :=
  List.suffix_nil.mp (skip_suffix extended [])

@[simp]
theorem skip_parenthesis (extended : Bool) : skip extended [')'] = [')'] := by
  cases extended <;> decide

theorem skipFrom_append {fuel fuel' : Nat} (enough : cs.length < fuel)
    (enough' : cs.length + 1 < fuel')
    : skipFrom fuel' (cs ++ [')']) = skipFrom fuel cs ++ [')']
      ∨ skipFrom fuel cs = [] ∧ skipFrom fuel' (cs ++ [')']) = [] ∧ OpenComment cs := by
  induction fuel generalizing cs fuel' with
  | zero => exact absurd enough (Nat.not_lt_zero _)
  | succ fuel ih =>
      obtain _ | fuel' := fuel'
      · exact absurd enough' (Nat.not_lt_zero _)
      rcases cs with _ | ⟨c, rest⟩
      · left
        rw [skipFrom_nil, List.nil_append, skipFrom_stop _ (by decide) (by decide)]
      · rw [List.length_cons] at enough enough'
        rw [List.cons_append]
        by_cases hash : c = '#'
        · subst hash
          rw [skipFrom_succ, skipFrom_succ]
          simp only
          by_cases lineEnd : '\n' ∈ rest
          · have suffix := skipComment_suffix rest
            have shorter := suffix.length_le
            rw [skipComment_append lineEnd]
            refine (ih (by omega) (by omega)).imp_right (fun ⟨all, gone, comment⟩ => ?_)
            exact ⟨all, gone, comment.of_suffix (suffix.trans (List.suffix_cons _ _))⟩
          · have closes : '\n' ∉ rest ++ [')'] := by simpa using lineEnd
            rw [skipComment_open lineEnd, skipComment_open closes, skipFrom_nil, skipFrom_nil]
            exact .inr ⟨rfl, rfl, [], rest, rfl, lineEnd⟩
        · cases blank : Text.isBlank c with
          | false =>
              rw [skipFrom_stop _ hash blank, skipFrom_stop _ hash blank]
              exact .inl rfl
          | true =>
              rw [skipFrom_blank _ hash blank, skipFrom_blank _ hash blank]
              exact (ih (by omega) (by omega)).imp_right (fun ⟨all, gone, comment⟩ =>
                ⟨all, gone, comment.of_suffix (List.suffix_cons _ _)⟩)

/-- The parenthesis is left over, or it stands in a comment. -/
theorem skip_append (extended : Bool) (cs : List Char)
    : skip extended (cs ++ [')']) = skip extended cs ++ [')']
      ∨ skip extended cs = [] ∧ skip extended (cs ++ [')']) = [] ∧ OpenComment cs := by
  unfold skip
  cases extended with
  | false => exact .inl rfl
  | true => exact skipFrom_append (Nat.lt_succ_self _) (by simp)

/-- A case analysis on what is left behind blanks and comments. -/
@[elab_as_elim]
theorem skip_cases {motive : List Char → List Char → Prop} (extended : Bool) (cs : List Char)
    (kept : ∀ rest, rest <:+ cs → motive rest (rest ++ [')']))
    (swallowed : OpenComment cs → motive [] [])
    : motive (skip extended cs) (skip extended (cs ++ [')'])) := by
  rcases skip_append extended cs with same | ⟨all, gone, comment⟩
  · rw [same]
    exact kept _ (skip_suffix extended cs)
  · rw [all, gone]
    exact swallowed comment

/-- A reader behind blanks and comments. -/
theorem Ended.skip {f g : List Char → Option (α × List Char)} (extended : Bool)
    (each : ∀ rest, rest <:+ cs → Ended left rest (f rest) (g (rest ++ [')']))) (nil : g [] = f [])
    : Ended left cs (f (skip extended cs)) (g (skip extended (cs ++ [')']))) := by
  have last := each [] List.nil_suffix
  have suffix := skip_suffix extended cs
  rcases skip_append extended cs with kept | ⟨all, gone, comment⟩
  · rw [kept]
    exact (each _ suffix).of_suffix suffix
  · rw [all, gone, nil]
    cases found : f [] with
    | none => exact .none_none
    | some pair =>
        obtain ⟨x, behind⟩ := pair
        rw [List.suffix_nil.mp (last.suffix_of found)]
        exact .swallowed comment

/-- A character of a text that is put in front of what is read behind the blanks that follow it. -/
theorem Ended.prepend {f g : List Char → Option (List α × List Char)} {c : Char}
    {tail : List Char} (x : α) (extended : Bool)
    (each : ∀ rest, rest <:+ tail → Ended Whole rest (f rest) (g (rest ++ [')'])))
    (nil : g [] = f [])
    : Ended Whole (c :: tail)
        ((f (Regex.skip extended tail)).map (fun found => (x :: found.1, found.2)))
        ((g (Regex.skip extended (tail ++ [')']))).map (fun found => (x :: found.1, found.2))) :=
  ((Ended.skip extended each nil).map (f := (x :: ·)) (fun _ _ => id)).of_suffix
    (List.suffix_cons c tail)

/-- Blanks and comments, passed over behind what is read. -/
theorem ended_skip {x : α} (extended : Bool) (cs : List Char)
    : Ended left cs (some (x, skip extended cs)) (some (x, skip extended (cs ++ [')']))) :=
  Ended.skip (f := fun rest => some (x, rest)) (g := fun rest => some (x, rest)) extended
    (fun _ _ => .kept List.suffix_rfl) rfl

-----------------------------------------------------------------------------------------
-- Fuel
-----------------------------------------------------------------------------------------

/-- Whether fuel is enough for a text, and other fuel for the text with a parenthesis behind. -/
def Enough (fuel fuel' : Nat) (cs : List Char) : Prop :=
  cs.length < fuel ∧ cs.length + 1 < fuel'

theorem Enough.zero {fuel' : Nat} : ¬Enough 0 fuel' cs :=
  fun enough => absurd enough.1 (Nat.not_lt_zero _)

theorem Enough.zero_right {fuel : Nat} : ¬Enough fuel 0 cs :=
  fun enough => absurd enough.2 (Nat.not_lt_zero _)

theorem Enough.shorter {fuel fuel' : Nat} (enough : Enough (fuel + 1) (fuel' + 1) cs)
    (shorter : rest.length < cs.length)
    : Enough fuel fuel' rest := by
  unfold Enough at *
  omega

theorem Enough.behind {c : Char} {fuel fuel' : Nat} {tail : List Char}
    (enough : Enough (fuel + 1) (fuel' + 1) (c :: tail)) (suffix : rest <:+ tail)
    : Enough fuel fuel' rest :=
  enough.shorter (Nat.lt_succ_of_le suffix.length_le)

theorem enough_self (cs : List Char) : Enough (cs.length + 1) ((cs ++ [')']).length + 1) cs := by
  simp [Enough]

theorem Enough.mono {fuel fuel' : Nat} (enough : Enough fuel fuel' cs) (suffix : rest <:+ cs)
    : Enough fuel fuel' rest := by
  have shorter := suffix.length_le
  unfold Enough at *
  omega

end Remediation.Regex
