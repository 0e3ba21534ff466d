import Remediation.Proofs.KeyPath.Nesting

/-! The grammar of key paths, as a relation between texts and the steps they spell. The readers
accept exactly what the grammar spells, so that facts about accepted paths follow the parts of their
text, without the faults and the sources that readers carry along.
-/

namespace Remediation.KeyPath

/-- What a text spells as a part of a path. A field stands in double quotes or bare, and a bracket
closes where the scanner finds the end of it.
-/
inductive Spells : Part → List Char → List Step → Prop where
  | here {cs : List Char} (same : Text.trim cs = ['@']) : Spells .path cs []
  | path {cs : List Char} {steps : List Step} (more : Text.trim cs ≠ ['@'])
      (segments : Spells .segment (Text.trim cs) steps)
    : Spells .path cs steps
  | quoted {name rest : List Char} {steps : List Step} (named : name ≠ []) (closed : '"' ∉ name)
      (others : Spells .behind rest steps)
    : Spells .segment ('"' :: (name ++ '"' :: rest)) (.field (String.ofList name) :: steps)
  | bare {name rest : List Char} {steps : List Step} (noQuote : name.head? ≠ some '"')
      (plain : ∀ c ∈ name, endsName c = false) (named : Text.trim name ≠ [])
      (others : Spells .behind rest steps)
    : Spells .segment (name ++ rest) (.field (String.ofList (Text.trim name)) :: steps)
  | unnamed {rest : List Char} {steps : List Step} (brackets : Spells .behind ('[' :: rest) steps)
    : Spells .segment ('[' :: rest) steps
  | last : Spells .behind [] []
  | dot {rest : List Char} {steps : List Step} (segments : Spells .segment rest steps)
    : Spells .behind ('.' :: rest) steps
  | bracket {rest content after : List Char} {step : Step} {steps : List Step}
      (closing : splitAtClosing none 1 rest = some (content, after))
      (inside : Spells .content content [step]) (others : Spells .behind after steps)
    : Spells .behind ('[' :: rest) (step :: steps)
  | flatten {content : List Char} (empty : Text.trim content = [])
    : Spells .content content [.flatten]
  | project {content : List Char} (star : Text.trim content = ['*'])
    : Spells .content content [.project]
  | index {content : List Char} {position : Int}
      (digits : integer? (Text.trim content) = some position)
    : Spells .content content [.index position]
  | truthy {content selector : List Char} {path : List Step}
      (shape : Text.trim content = '?' :: selector)
      (missing : splitAtComparison none (Text.trim selector) = none)
      (inside : Spells .path (Text.trim selector) path)
    : Spells .content content [.select path none]
  | comparing {content selector left right : List Char} {comparison : Comparison} {value : Json}
      {path : List Step} (shape : Text.trim content = '?' :: selector)
      (found : splitAtComparison none (Text.trim selector) = some (left, comparison, right))
      (inside : Spells .path (Text.trim left) path)
      (literal : literal? (Text.trim right) = some value)
    : Spells .content content [.select path (some (comparison, value))]

namespace Spells

theorem ne_nil {cs : List Char} {steps : List Step} (spells : Spells .segment cs steps)
    : cs ≠ [] := by
  cases spells with
  | quoted named closed others => simp
  | unnamed brackets => simp
  | bare noQuote plain named others =>
      intro empty
      obtain ⟨rfl, -⟩ := List.append_eq_nil_iff.mp empty
      exact named rfl

theorem trim_ne_nil {cs : List Char} {steps : List Step} (spells : Spells .path cs steps)
    : Text.trim cs ≠ [] := by
  cases spells with
  | here same => simp [same]
  | path more segments => exact segments.ne_nil

/-- A path inside a selector is not empty. -/
theorem filled {cs : List Char} {steps : List Step} (spells : Spells .path (Text.trim cs) steps)
    : Text.trim cs ≠ [] := by
  have visible := spells.trim_ne_nil
  rwa [Text.trim_trim] at visible

/-- Behind a field or a bracket a path ends or goes on with a dot or a bracket. -/
theorem behind_cases {cs : List Char} {steps : List Step} (spells : Spells .behind cs steps)
    : cs = [] ∨ ∃ c rest, cs = c :: rest ∧ (c = '.' ∨ c = '[') := by
  cases spells with
  | last => exact .inl rfl
  | dot segments => exact .inr ⟨'.', _, rfl, .inl rfl⟩
  | bracket closing inside others => exact .inr ⟨'[', _, rfl, .inr rfl⟩

end Spells

-----------------------------------------------------------------------------------------
-- What is spelled is read
-----------------------------------------------------------------------------------------

/-- A name that starts with neither a quote nor a bracket is read up to the first character that ends
names.
-/
theorem readWhole_bare (source : String) {c : Char} (noBracket : c ≠ '[') (noQuote : c ≠ '"')
    (rest : List Char)
    : readWhole source (c :: rest)
      = (readBehind source ((c :: rest).dropWhile (!endsName ·))).map
          (.field (String.ofList (Text.trim ((c :: rest).takeWhile (!endsName ·)))) :: ·) := by
  have field
      : readField source (c :: rest)
        = .ok
            ([.field (String.ofList (Text.trim ((c :: rest).takeWhile (!endsName ·))))],
              (c :: rest).dropWhile (!endsName ·)) := by
    unfold readField
    split
    · contradiction
    · rename_i shape
      exact absurd (List.cons.inj shape).1 noBracket
    · rename_i shape
      exact absurd (List.cons.inj shape).1 noQuote
    · rfl
  rw [readWhole_eq, field]
  simp only [bind, Except.bind]
  cases readBehind source ((c :: rest).dropWhile (!endsName ·)) with
  | error fault => rfl
  | ok steps => rfl

/-- A name ends where a dot or a bracket follows. -/
theorem name_ends {name rest : List Char} (plain : ∀ c ∈ name, endsName c = false)
    (stops : rest = [] ∨ ∃ c others, rest = c :: others ∧ (c = '.' ∨ c = '['))
    : (name ++ rest).takeWhile (!endsName ·) = name
      ∧ (name ++ rest).dropWhile (!endsName ·) = rest := by
  have inside : ∀ c ∈ name, (!endsName c) = true := by simpa using plain
  rw [List.takeWhile_append_of_pos inside, List.dropWhile_append_of_pos inside]
  rcases stops with rfl | ⟨c, others, rfl, rfl | rfl⟩
  · simp
  · simp [endsName]
  · simp [endsName]

/-- No bracket stands in a name. -/
theorem ne_bracket_of_plain {c : Char} {letters : List Char}
    (plain : ∀ d ∈ c :: letters, endsName d = false)
    : c ≠ '[' := by
  rintro rfl
  have ends : endsName '[' = true := rfl
  rw [plain '[' List.mem_cons_self] at ends
  cases ends

/-- A selector without a comparison is read as a path. -/
theorem readSelector_truthy {cs : List Char} {path : List Step}
    (missing : splitAtComparison none cs = none) (filled : cs ≠ [])
    (read : readPath cs = .ok path) (source : String)
    : readSelector readPath source cs = .ok (.select path none) := by
  unfold readSelector
  rw [if_neg (by simpa using filled), missing]
  exact exceptBind_eq_ok_iff.mpr ⟨path, read, rfl⟩

/-- Behind the first comparison of a selector there is a literal and nothing else. -/
theorem readSelector_comparing {cs left right : List Char} {comparison : Comparison}
    {path : List Step} (found : splitAtComparison none cs = some (left, comparison, right))
    (filled : Text.trim left ≠ []) (read : readPath (Text.trim left) = .ok path) (source : String)
    : readSelector readPath source cs
      = match literal? (Text.trim right) with
        | some value => .ok (.select path (some (comparison, value)))
        | none => .error ⟨source, .invalidLiteral (String.ofList (Text.trim right))⟩ := by
  have visible : cs ≠ [] := by
    rintro rfl
    cases found
  unfold readSelector
  rw [if_neg (by simpa using visible), found]
  have named := List.isEmpty_eq_false_iff.mpr filled
  cases literal : literal? (Text.trim right) with
  | some value =>
      simp only [named, read, literal, bind, Except.bind, Bool.false_eq_true, if_false]
  | none =>
      simp only [named, read, literal, bind, Except.bind, Bool.false_eq_true, if_false]

/-- How the readers read a part of a path as steps, for every source. -/
def Part.Reads (cs : List Char) (steps : List Step) : Part → Prop
  | .path => readPath cs = .ok steps
  | .segment => (∀ source, readWhole source cs = .ok steps) ∧ steps.any Step.isUnnamed = false
  | .behind => (∀ source, readBehind source cs = .ok steps) ∧ steps.any Step.isUnnamed = false
  | .content =>
      ∃ step,
        steps = [step] ∧ (∀ source, readBracket readPath source cs = .ok step)
        ∧ Step.isUnnamed step = false

/-- What is spelled is read, whatever text around it the faults would name. Witness: induction on
the parts of the text.
-/
theorem Spells.reads {part : Part} {cs : List Char} {steps : List Step}
    (spells : Spells part cs steps)
    : part.Reads cs steps := by
  induction spells with
  | here same => exact readPath_here same
  | path more segments ih =>
      exact (readPath_eq_ok_iff segments.ne_nil more).mpr ⟨ih.1 _, ih.2⟩
  | quoted named closed others ih =>
      refine ⟨fun source => ?_, ?_⟩
      · rw [readWhole_quoted source closed, ih.1]
        rfl
      · simpa [Step.isUnnamed, named] using ih.2
  | bare noQuote plain named others ih =>
      rename_i name rest steps
      obtain ⟨front, back⟩ := name_ends plain others.behind_cases
      cases name with
      | nil => exact absurd rfl named
      | cons c letters =>
          have noBracket := ne_bracket_of_plain plain
          have noMark : c ≠ '"' := by simpa using noQuote
          refine ⟨fun source => ?_, ?_⟩
          · rw [List.cons_append] at front back ⊢
            rw [readWhole_bare source noBracket noMark, front, back, ih.1]
            rfl
          · simpa [Step.isUnnamed, named] using ih.2
  | unnamed brackets ih => exact ⟨fun source => by rw [readWhole_bracket, ih.1], ih.2⟩
  | last => exact ⟨readBehind_nil, rfl⟩
  | dot segments ih => exact ⟨fun source => by rw [readBehind_dot, ih.1], ih.2⟩
  | bracket closing inside others ihInside ihOthers =>
      obtain ⟨step, same, read, named⟩ := ihInside
      obtain rfl := List.singleton_inj.mp same
      refine ⟨fun source => ?_, ?_⟩
      · rw [readBehind_bracket source closing, read, ihOthers.1]
        rfl
      · rw [List.any_cons, named, ihOthers.2]
        rfl
  | flatten empty => exact ⟨_, rfl, fun source => by simp [readBracket, empty], rfl⟩
  | project star => exact ⟨_, rfl, fun source => by simp [readBracket, star], rfl⟩
  | index digits =>
      refine ⟨_, rfl, fun source => ?_, rfl⟩
      unfold readBracket
      split
      · rename_i empty
        rw [empty] at digits
        cases digits
      · rename_i star
        rw [star] at digits
        cases digits
      · rename_i mark
        rw [mark] at digits
        cases digits
      · rw [digits]
  | truthy shape missing inside ih =>
      refine ⟨_, rfl, fun source => ?_, rfl⟩
      rw [readBracket_selector shape]
      exact readSelector_truthy missing inside.filled ih source
  | comparing shape found inside literal ih =>
      refine ⟨_, rfl, fun source => ?_, rfl⟩
      rw [readBracket_selector shape, readSelector_comparing found inside.filled ih, literal]

-----------------------------------------------------------------------------------------
-- What is read is spelled
-----------------------------------------------------------------------------------------

theorem readBehind_other {c : Char} (noDot : c ≠ '.') (noBracket : c ≠ '[') (source : String)
    (rest : List Char)
    : readBehind source (c :: rest) = .error ⟨source, .unexpected c⟩ := by
  unfold readBehind
  simp only [List.length_cons, readBrackets]
  split
  · rename_i shape
    exact absurd (List.cons.inj shape).1 noBracket
  · simp [readOnward, bind, Except.bind]

/-- What the grammar has to say about a text whose steps all have names. -/
structure Complete (cs : List Char) : Prop where
  segment : ∀ source steps, readWhole source cs = .ok steps
    → steps.any Step.isUnnamed = false → Spells .segment cs steps
  behind : ∀ source steps, readBehind source cs = .ok steps
    → steps.any Step.isUnnamed = false → Spells .behind cs steps

theorem spells_of_readPath {cs : List Char} {steps : List Step} (complete : Complete (Text.trim cs))
    (read : readPath cs = .ok steps)
    : Spells .path cs steps := by
  by_cases here : Text.trim cs = ['@']
  · rw [readPath_here here] at read
    obtain rfl := Except.ok.inj read
    exact .here here
  · have filled : Text.trim cs ≠ [] := by
      intro empty
      simp [readPath, readSteps, empty] at read
    obtain ⟨whole, named⟩ := (readPath_eq_ok_iff filled here).mp read
    exact .path here (complete.segment _ steps whole named)

/-- What is read as a selector with a comparison has a path in front of it and a literal behind. -/
theorem of_readSelector_found {cs left right : List Char} {comparison : Comparison} {step : Step}
    {source : String} (found : splitAtComparison none cs = some (left, comparison, right))
    (read : readSelector readPath source cs = .ok step)
    : ∃ path value,
        readPath (Text.trim left) = .ok path ∧ literal? (Text.trim right) = some value
        ∧ step = .select path (some (comparison, value)) := by
  unfold readSelector at read
  rw [found] at read
  split at read
  · cases read
  · dsimp only at read
    split at read
    · cases read
    · obtain ⟨path, inner, rest⟩ := exceptBind_eq_ok_iff.mp read
      split at rest
      · rename_i value literal
        exact ⟨path, value, inner, literal, (Except.ok.inj rest).symm⟩
      · cases rest

theorem spells_of_readBracket {content : List Char} {step : Step} {source : String}
    (shorter : ∀ cs : List Char, cs.length ≤ content.length
      → ∀ steps, readPath cs = .ok steps → Spells .path cs steps)
    (read : readBracket readPath source content = .ok step)
    : Spells .content content [step] := by
  unfold readBracket at read
  split at read
  · rename_i empty
    obtain rfl := Except.ok.inj read
    exact .flatten empty
  · rename_i star
    obtain rfl := Except.ok.inj read
    exact .project star
  · rename_i selector shape
    have bound := Text.trim_length_le content
    have within := Text.trim_length_le selector
    rw [shape, List.length_cons] at bound
    cases found : splitAtComparison none (Text.trim selector) with
    | none =>
        obtain ⟨path, rfl, inner, -⟩ := of_readSelector_truthy found read
        exact .truthy shape found (shorter _ (by omega) path inner)
    | some split =>
        obtain ⟨left, comparison, right⟩ := split
        obtain ⟨path, value, inner, literal, rfl⟩ := of_readSelector_found found read
        have front := (isPrefix_of_splitAtComparison found).length_le
        have less := Text.trim_length_le left
        exact .comparing shape found (shorter _ (by omega) path inner) literal
  · split at read
    · rename_i position digits
      obtain rfl := Except.ok.inj read
      exact .index digits
    · cases read

section Shorter

variable {cs : List Char}

theorem spells_of_readBehind
    (shorter : ∀ other : List Char, other.length < cs.length → Complete other)
    {source : String} {steps : List Step} (read : readBehind source cs = .ok steps)
    (named : steps.any Step.isUnnamed = false)
    : Spells .behind cs steps := by
  cases cs with
  | nil =>
      obtain rfl := Except.ok.inj read
      exact .last
  | cons c rest =>
      by_cases dot : c = '.'
      · subst dot
        rw [readBehind_dot] at read
        exact .dot ((shorter rest (by simp)).segment source steps read named)
      by_cases opening : c = '['
      · subst opening
        cases closing : splitAtClosing none 1 rest with
        | none =>
            rw [readBehind_unbalanced source closing] at read
            cases read
        | some found =>
            obtain ⟨content, after⟩ := found
            have lengths := congrArg List.length (eq_of_splitAtClosing closing)
            simp only [List.length_append, List.length_cons] at lengths shorter
            rw [readBehind_bracket source closing] at read
            obtain ⟨step, inside, further⟩ := exceptBind_eq_ok_iff.mp read
            obtain ⟨others, behind, same⟩ := exceptBind_eq_ok_iff.mp further
            obtain rfl := Except.ok.inj same
            rw [List.any_cons, Bool.or_eq_false_iff] at named
            refine .bracket closing ?_ ((shorter after (by omega)).behind _ _ behind named.2)
            refine spells_of_readBracket (fun other less path found => ?_) inside
            have bound := Text.trim_length_le other
            exact spells_of_readPath (shorter (Text.trim other) (by omega)) found
      · rw [readBehind_other dot opening] at read
        cases read

/-- The name of a field is not empty. -/
theorem ne_nil_of_named {name : List Char} {rest : List Step}
    (named : (Step.field (String.ofList name) :: rest).any Step.isUnnamed = false)
    : name ≠ [] ∧ rest.any Step.isUnnamed = false := by
  simpa [Step.isUnnamed] using named

theorem spells_of_readWhole
    (behind : ∀ other : List Char, other.length ≤ cs.length → ∀ source steps,
      readBehind source other = .ok steps → steps.any Step.isUnnamed = false
      → Spells .behind other steps)
    {source : String} {steps : List Step} (read : readWhole source cs = .ok steps)
    (named : steps.any Step.isUnnamed = false)
    : Spells .segment cs steps := by
  cases cs with
  | nil =>
      rw [readWhole_eq] at read
      cases read
  | cons c rest =>
      by_cases opening : c = '['
      · subst opening
        rw [readWhole_bracket] at read
        exact .unnamed (behind _ (Nat.le_refl _) source steps read named)
      by_cases quote : c = '"'
      · subst quote
        by_cases closed : '"' ∈ rest
        · obtain ⟨name, after, rfl, outside⟩ := List.eq_append_cons_of_mem closed
          rw [readWhole_quoted source outside] at read
          obtain ⟨others, further, rfl⟩ := exceptMap_eq_ok_iff.mp read
          obtain ⟨filled, othersNamed⟩ := ne_nil_of_named named
          refine .quoted filled outside (behind after ?_ source others further othersNamed)
          simp only [List.length_cons, List.length_append]
          omega
        · have missing : rest.dropWhile (· ≠ '"') = [] := by
            rw [List.dropWhile_eq_nil_iff]
            intro c member
            rw [decide_eq_true_eq]
            rintro rfl
            exact closed member
          rw [readWhole_eq] at read
          simp only [readField, missing] at read
          cases read
      · have whole := List.takeWhile_append_dropWhile (p := (!endsName ·)) (l := c :: rest)
        have bound := (List.dropWhile_suffix (!endsName ·) (l := c :: rest)).length_le
        rw [readWhole_bare source opening quote] at read
        obtain ⟨others, further, rfl⟩ := exceptMap_eq_ok_iff.mp read
        obtain ⟨filled, othersNamed⟩ := ne_nil_of_named named
        have noQuote : ((c :: rest).takeWhile (!endsName ·)).head? ≠ some '"' := by
          rw [List.takeWhile_cons]
          split
          · simpa using quote
          · simp
        have plain : ∀ letter ∈ (c :: rest).takeWhile (!endsName ·), endsName letter = false :=
          fun letter member => by simpa using List.mem_takeWhile_imp member
        have spelled := Spells.bare noQuote plain filled
          (behind _ bound source others further othersNamed)
        rwa [whole] at spelled

end Shorter

/-- What is read is spelled. Witness: induction on the length of the text, since what stands in a
bracket or behind a dot is shorter.
-/
theorem complete (cs : List Char) : Complete cs := by
  induction length : cs.length using Nat.strong_induction_on generalizing cs with
  | _ size ih =>
      have shorter (other : List Char) (less : other.length < cs.length) : Complete other :=
        ih other.length (by omega) other rfl
      have behind (other : List Char) (bound : other.length ≤ cs.length) (source : String)
          (steps : List Step) (read : readBehind source other = .ok steps)
          (named : steps.any Step.isUnnamed = false)
          : Spells .behind other steps :=
        spells_of_readBehind (fun inner less => shorter inner (by omega)) read named
      exact ⟨fun source steps => spells_of_readWhole behind, behind cs (Nat.le_refl _)⟩

/-- Key paths are exactly what the grammar spells. -/
theorem readPath_eq_ok_iff_spells {cs : List Char} {steps : List Step}
    : readPath cs = .ok steps ↔ Spells .path cs steps :=
  ⟨spells_of_readPath (complete (Text.trim cs)), Spells.reads⟩

end Remediation.KeyPath
