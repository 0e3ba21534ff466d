import Mathlib.Data.List.Infix
import Mathlib.Data.List.TakeWhile
import Remediation.Action.Template

/-! The placeholders of a text. A path holds no braces, so that the text of a placeholder has one
brace at each of its ends and nowhere else: no two placeholders overlap, and every place where one
stands in a text is a place where the scan of the text finds it, whatever stands around it.
-/

namespace Remediation.Template

-----------------------------------------------------------------------------------------
-- Paths in braces
-----------------------------------------------------------------------------------------

/-- A path as a placeholder may hold one, whether or not it is a key path. -/
inductive IsPath : List Char → Prop
  | intro {first : Char} {rest : List Char} (starts : startsPath first = true)
    (continues : ∀ c ∈ rest, continuesPath c = true)
    : IsPath (first :: rest)

/-- A path in braces. -/
def braced (path : List Char) : List Char :=
  '\x7b' :: (path ++ ['\x7d'])

/-- A text holds the placeholder for a path, wherever that is. -/
def Holds (text path : List Char) : Prop :=
  IsPath path ∧ braced path <:+: text

/-- A text that holds no placeholder, though it may have braces. -/
def IsPlain (text : List Char) : Prop :=
  ∀ path, ¬Holds text path

/-- A placeholder stands at the start of a text. -/
def StartsPlaceholder (text : List Char) : Prop :=
  ∃ path, IsPath path ∧ braced path <+: text

theorem isPlain_nil : IsPlain [] := by
  rintro path ⟨_, inside⟩
  simp [braced] at inside

namespace IsPath

variable {path : List Char}

theorem opening_notMem (isPath : IsPath path) : '\x7b' ∉ path ++ ['\x7d'] := by
  cases isPath with
  | @intro first rest starts continues =>
      intro member
      rcases List.mem_append.mp member with inside | closing
      · rcases List.mem_cons.mp inside with rfl | later
        · cases starts
        · cases continues _ later
      · simp at closing

theorem closing_notMem (isPath : IsPath path) : '\x7d' ∉ path := by
  cases isPath with
  | @intro first rest starts continues =>
      intro member
      rcases List.mem_cons.mp member with rfl | later
      · cases starts
      · cases continues _ later

end IsPath

/-- What does not have a character is over where a text has that character. -/
theorem prefix_of_append_cons {α : Type} {stop : α} {first text rest more : List α}
    (free : stop ∉ first) (same : first ++ rest = text ++ stop :: more)
    : first <+: text := by
  rcases List.append_eq_append_iff.mp same with ⟨behind, rfl, _⟩ | ⟨overlap, rfl, rest⟩
  · exact List.prefix_append first behind
  · cases overlap with
    | nil => exact ⟨[], by simp⟩
    | cons c overlap =>
        refine absurd (List.mem_append_right text ?_) free
        exact (List.cons.inj rest).1 ▸ List.mem_cons_self

/-- What stands before the first one of some character is determined by the whole text. -/
theorem append_cons_inj {α : Type} {stop : α} {first other rest more : List α}
    (free : stop ∉ first) (otherFree : stop ∉ other)
    (same : first ++ stop :: rest = other ++ stop :: more)
    : first = other ∧ rest = more := by
  have before := prefix_of_append_cons free same
  have after := prefix_of_append_cons otherFree same.symm
  obtain rfl := before.eq_of_length (Nat.le_antisymm before.length_le after.length_le)
  exact ⟨rfl, (List.cons.inj (List.append_cancel_left same)).2⟩

theorem braced_append (path rest : List Char)
    : braced path ++ rest = '\x7b' :: (path ++ '\x7d' :: rest) := by
  simp [braced]

/-- A text starts with one placeholder at most. -/
theorem IsPath.braced_inj {path other rest more : List Char} (isPath : IsPath path)
    (otherIsPath : IsPath other) (same : braced path ++ rest = braced other ++ more)
    : path = other ∧ rest = more := by
  rw [braced_append, braced_append] at same
  exact append_cons_inj isPath.closing_notMem otherIsPath.closing_notMem (List.cons.inj same).2

/-- No placeholder starts before the first opening brace. -/
theorem infix_append_iff (path text : List Char) {before : List Char} (free : '\x7b' ∉ before)
    : braced path <:+: before ++ text ↔ braced path <:+: text := by
  induction before with
  | nil => rfl
  | cons c rest ih =>
      rw [List.cons_append, List.infix_cons_iff,
        ih (fun later => free (List.mem_cons_of_mem c later))]
      refine ⟨fun found => found.resolve_left ?_, .inr⟩
      intro starts
      have same : '\x7b' = c := (List.cons_prefix_cons.mp starts).1
      exact free (same ▸ List.mem_cons_self)

/-- Behind a placeholder at the start of a text, the others are those of the rest. -/
theorem IsPath.holds_append_iff {path rest : List Char} (isPath : IsPath path) (other : List Char)
    : Holds (braced path ++ rest) other ↔ other = path ∨ Holds rest other := by
  have others : braced other <:+: path ++ '\x7d' :: rest ↔ braced other <:+: rest := by
    have apart := infix_append_iff other rest isPath.opening_notMem
    rwa [List.append_assoc] at apart
  unfold Holds
  rw [braced_append, List.infix_cons_iff, others]
  constructor
  · rintro ⟨otherIsPath, ⟨more, same⟩ | inside⟩
    · rw [← braced_append] at same
      exact .inl (otherIsPath.braced_inj isPath same).1
    · exact .inr ⟨otherIsPath, inside⟩
  · rintro (rfl | ⟨otherIsPath, inside⟩)
    · exact ⟨isPath, .inl ⟨rest, by rw [braced_append]⟩⟩
    · exact ⟨otherIsPath, .inr inside⟩

/-- Behind a character where no placeholder starts, the placeholders are those of the rest. -/
theorem holds_cons_iff {c : Char} {rest : List Char} (unstarted : ¬StartsPlaceholder (c :: rest))
    (path : List Char)
    : Holds (c :: rest) path ↔ Holds rest path := by
  unfold Holds
  rw [List.infix_cons_iff]
  constructor
  · rintro ⟨isPath, starts | inside⟩
    · exact absurd ⟨path, isPath, starts⟩ unstarted
    · exact ⟨isPath, inside⟩
  · exact fun ⟨isPath, inside⟩ => ⟨isPath, .inr inside⟩

-----------------------------------------------------------------------------------------
-- The scan
-----------------------------------------------------------------------------------------

/-- Behind an opening brace the scan finds exactly the paths that a closing brace ends. -/
theorem placeholder?_eq_some_iff {text path : List Char}
    : placeholder? text = some path ↔ IsPath path ∧ ∃ rest, text = path ++ '\x7d' :: rest := by
  constructor
  · intro found
    unfold placeholder? at found
    split at found
    · cases found
    · rename_i first rest
      split at found
      · rename_i starts
        split at found
        · rename_i more ended
          cases found
          refine ⟨.intro starts (fun c member => List.mem_takeWhile_imp member), more, ?_⟩
          rw [List.cons_append, ← ended, List.takeWhile_append_dropWhile]
        · cases found
      · cases found
  · rintro ⟨isPath, rest, rfl⟩
    cases isPath with
    | @intro first others starts continues =>
        have ended : continuesPath '\x7d' = false := rfl
        have taken : (others ++ '\x7d' :: rest).takeWhile continuesPath = others := by
          rw [List.takeWhile_append_of_pos continues, List.takeWhile_cons_of_neg (by simp [ended]),
            List.append_nil]
        have left : (others ++ '\x7d' :: rest).dropWhile continuesPath = '\x7d' :: rest := by
          rw [List.dropWhile_append_of_pos continues, List.dropWhile_cons_of_neg (by simp [ended])]
        simp only [List.cons_append, placeholder?, starts, if_true, left, taken]

/-- A text starts with a placeholder if the scan finds a path behind its brace. -/
theorem startsPlaceholder_iff (rest : List Char)
    : StartsPlaceholder ('\x7b' :: rest) ↔ (placeholder? rest).isSome = true := by
  rw [Option.isSome_iff_exists]
  constructor
  · rintro ⟨path, isPath, more, same⟩
    rw [braced_append] at same
    exact ⟨path, placeholder?_eq_some_iff.mpr ⟨isPath, more, (List.cons.inj same).2.symm⟩⟩
  · rintro ⟨path, found⟩
    obtain ⟨isPath, more, rfl⟩ := placeholder?_eq_some_iff.mp found
    exact ⟨path, isPath, more, braced_append path more⟩

/-- Passing over characters is to scan what is behind them. -/
theorem piecesAfter_eq_drop (skipped : Nat) (text : List Char)
    : piecesAfter skipped text = piecesAfter 0 (text.drop skipped) := by
  induction skipped generalizing text with
  | zero => rfl
  | succ skipped ih =>
      cases text with
      | nil => rfl
      | cons c rest =>
          rw [List.drop_succ_cons, ← ih]
          simp only [piecesAfter]

/-- A placeholder at the start of a text is its first piece. -/
theorem IsPath.piecesAfter_append {path : List Char} (isPath : IsPath path) (rest : List Char)
    : piecesAfter 0 (braced path ++ rest)
      = .placeholder (String.ofList path) :: piecesAfter 0 rest := by
  have found : placeholder? (path ++ '\x7d' :: rest) = some path :=
    placeholder?_eq_some_iff.mpr ⟨isPath, rest, rfl⟩
  have passed : (path ++ '\x7d' :: rest).drop (path.length + 1) = rest := by
    rw [List.drop_append]
    simp
  rw [braced_append, piecesAfter, found]
  dsimp only
  rw [piecesAfter_eq_drop, passed]

/-- A character where no placeholder starts is a piece of its own. -/
theorem piecesAfter_cons {c : Char} {rest : List Char}
    (unstarted : ¬StartsPlaceholder (c :: rest))
    : piecesAfter 0 (c :: rest) = .char c :: piecesAfter 0 rest := by
  by_cases opening : c = '\x7b'
  · subst opening
    rw [startsPlaceholder_iff, Bool.not_eq_true, Option.isSome_eq_false_iff,
      Option.isNone_iff_eq_none] at unstarted
    rw [piecesAfter, unstarted]
  · rw [piecesAfter]
    exact opening

/-- What holds of the empty text, and of a text if it holds of what is behind a placeholder or a
character at its start, holds of every text. -/
theorem scan_induction {motive : List Char → Prop} (nothing : motive [])
    (placeholder : ∀ path rest, IsPath path → motive rest → motive (braced path ++ rest))
    (char : ∀ c rest, ¬StartsPlaceholder (c :: rest) → motive rest → motive (c :: rest))
    (text : List Char)
    : motive text := by
  induction length : text.length using Nat.strong_induction_on generalizing text with
  | _ length ih =>
      subst length
      cases text with
      | nil => exact nothing
      | cons c rest =>
          by_cases starts : StartsPlaceholder (c :: rest)
          · obtain ⟨path, isPath, more, same⟩ := starts
            rw [← same]
            refine placeholder path more isPath (ih more.length ?_ more rfl)
            rw [← same, List.length_append]
            simp [braced]
          · exact char c rest starts (ih rest.length (Nat.lt_succ_self _) rest rfl)

/-- The placeholders among the pieces of a text are those that the text holds. -/
theorem mem_piecesAfter_iff (text path : List Char)
    : .placeholder (String.ofList path) ∈ piecesAfter 0 text ↔ Holds text path := by
  induction text using scan_induction with
  | nothing => simp [piecesAfter, Holds, braced]
  | placeholder other rest isPath ih =>
      rw [isPath.piecesAfter_append, isPath.holds_append_iff, List.mem_cons, ih,
        Piece.placeholder.injEq, String.ofList_inj]
  | char c rest unstarted ih =>
      rw [piecesAfter_cons unstarted, holds_cons_iff unstarted, List.mem_cons, ih]
      simp

theorem piecesAfter_eq_nil_iff (text : List Char) : piecesAfter 0 text = [] ↔ text = [] := by
  induction text using scan_induction with
  | nothing => simp [piecesAfter]
  | placeholder path rest isPath _ =>
      rw [isPath.piecesAfter_append]
      simp [braced]
  | char c rest unstarted _ =>
      rw [piecesAfter_cons unstarted]
      simp

/-- A text has one piece, a placeholder, exactly if it is one. -/
theorem piecesAfter_eq_singleton_iff (text : List Char) {path : List Char}
    : piecesAfter 0 text = [.placeholder (String.ofList path)]
      ↔ IsPath path ∧ text = braced path := by
  induction text using scan_induction with
  | nothing => simp [piecesAfter, braced]
  | placeholder other rest isPath _ =>
      rw [isPath.piecesAfter_append, List.cons.injEq, Piece.placeholder.injEq, String.ofList_inj,
        piecesAfter_eq_nil_iff]
      constructor
      · rintro ⟨rfl, rfl⟩
        exact ⟨isPath, List.append_nil _⟩
      · rintro ⟨otherIsPath, same⟩
        exact isPath.braced_inj otherIsPath (same.trans (List.append_nil _).symm)
  | char c rest unstarted _ =>
      rw [piecesAfter_cons unstarted]
      constructor
      · intro same
        cases same
      · rintro ⟨isPath, same⟩
        exact absurd ⟨path, isPath, same ▸ List.prefix_rfl⟩ unstarted

end Remediation.Template
