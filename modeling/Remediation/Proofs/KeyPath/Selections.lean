import Remediation.Proofs.KeyPath.Grammar

/-! Selections: a bracket with a comparison behind the path of a list. The path of the list is read
as it is read alone, the path in the bracket too if the scanners pass over it, and all that stands
behind the operator is the literal.
-/

namespace Remediation.KeyPath

-----------------------------------------------------------------------------------------
-- A bracket behind a path
-----------------------------------------------------------------------------------------

/-- How the readers go on behind a part of a path when a bracket follows it. -/
def Part.GoesOn (cs : List Char) (steps : List Step) : Part → Prop
  | .segment =>
      ∀ source rest,
        readWhole source (cs ++ '[' :: rest)
        = (readBehind source ('[' :: rest)).map (steps ++ ·)
  | .behind =>
      ∀ source rest,
        readBehind source (cs ++ '[' :: rest)
        = (readBehind source ('[' :: rest)).map (steps ++ ·)
  | .path | .content => True

/-- A bracket behind segments is read as if it stood alone. Witness: induction on the segments. -/
theorem Spells.goesOn {part : Part} {cs : List Char} {steps : List Step}
    (spells : Spells part cs steps)
    : part.GoesOn cs steps := by
  induction spells with
  | quoted named closed others ih =>
      intro source rest
      rw [List.cons_append, List.append_assoc, List.cons_append, readWhole_quoted source closed,
        ih source rest]
      cases readBehind source ('[' :: rest) with
      | error fault => rfl
      | ok steps => rfl
  | bare noQuote plain named others ih =>
      rename_i name tail steps
      intro source rest
      have stops : tail ++ '[' :: rest = []
          ∨ ∃ c more, tail ++ '[' :: rest = c :: more ∧ (c = '.' ∨ c = '[') := by
        rcases others.behind_cases with rfl | ⟨c, more, rfl, mark⟩
        · exact .inr ⟨'[', rest, rfl, .inr rfl⟩
        · exact .inr ⟨c, more ++ '[' :: rest, rfl, mark⟩
      obtain ⟨front, back⟩ := name_ends plain stops
      cases name with
      | nil => exact absurd rfl named
      | cons c letters =>
          have noBracket := ne_bracket_of_plain plain
          have noMark : c ≠ '"' := by simpa using noQuote
          rw [List.cons_append] at front back
          rw [List.append_assoc, List.cons_append, readWhole_bare source noBracket noMark, front,
            back, ih source rest]
          cases readBehind source ('[' :: rest) with
          | error fault => rfl
          | ok steps => rfl
  | unnamed brackets ih =>
      intro source rest
      rw [List.cons_append, readWhole_bracket, ← List.cons_append]
      exact ih source rest
  | last =>
      intro source rest
      rw [List.nil_append]
      cases readBehind source ('[' :: rest) with
      | error fault => rfl
      | ok steps => rfl
  | dot segments ih =>
      intro source rest
      rw [List.cons_append, readBehind_dot]
      exact ih source rest
  | bracket closing inside others ihInside ihOthers =>
      intro source rest
      obtain ⟨step, same, read, -⟩ := inside.reads
      obtain rfl := List.singleton_inj.mp same
      rw [List.cons_append, readBehind_bracket source (splitAtClosing_append closing _), read,
        ihOthers source rest]
      cases readBehind source ('[' :: rest) with
      | error fault => rfl
      | ok steps => rfl
  | here same => trivial
  | path more segments ih => trivial
  | flatten empty => trivial
  | project star => trivial
  | index digits => trivial
  | truthy shape missing inside ih => trivial
  | comparing shape found inside literal ih => trivial

/-- A trimmed path is made of segments, unless it stands for the value itself. -/
theorem Spells.segment {cs : List Char} {steps : List Step} (spells : Spells .path cs steps)
    (trimmed : Text.trim cs = cs) (notHere : cs ≠ ['@'])
    : Spells .segment cs steps := by
  cases spells with
  | here same => exact absurd (trimmed.symm.trans same) notHere
  | path more segments => rwa [trimmed] at segments

theorem spells_of_parse {text : String} {path : KeyPath} (read : parse text = .ok path)
    : Spells .path text.toList path.steps := by
  obtain ⟨steps, found, rfl⟩ := exceptMap_eq_ok_iff.mp read
  exact readPath_eq_ok_iff_spells.mp found

/-- The text of a path to which a bracket can be added: it is trimmed, and not the sign for the value
itself, which in front of a bracket would be a name.
-/
structure Leads (text : String) (path : KeyPath) : Prop where
  read : parse text = .ok path
  trimmed : Text.trim text.toList = text.toList
  notHere : text ≠ "@"

/-- What is read from a path with a bracket behind it is what is read from the two. -/
theorem readPath_bracket {list : String} {path : KeyPath} {content : List Char}
    (leads : Leads list path) (balanced : Balanced content)
    : readPath (list.toList ++ '[' :: (content ++ [']']))
      = (readBracket readPath (String.ofList (list.toList ++ '[' :: (content ++ [']']))) content).map
          (fun step => path.steps ++ [step]) := by
  have notHere : list.toList ≠ ['@'] := fun same => leads.notHere (String.toList_inj.mp same)
  have trimmed := leads.trimmed
  have segments := (spells_of_parse leads.read).segment trimmed notHere
  generalize list.toList = cs at segments trimmed ⊢
  have whole : Text.trim (cs ++ '[' :: (content ++ [']'])) = cs ++ '[' :: (content ++ [']']) := by
    cases shape : cs with
    | nil => exact absurd shape segments.ne_nil
    | cons c rest =>
        have ends : Text.EndsVisibly (c :: (rest ++ '[' :: (content ++ [']']))) :=
          (Text.EndsVisibly.concat rfl ('[' :: content)).behind (c :: rest)
        exact ends.trim_eq (Text.visible_of_trim (trimmed.trans shape))
  have filled : cs ++ '[' :: (content ++ [']']) ≠ [] := by simp
  have more : cs ++ '[' :: (content ++ [']']) ≠ ['@'] := by
    intro here
    have lengths := congrArg List.length here
    simp only [List.length_append, List.length_cons, List.length_nil] at lengths
    omega
  rw [readPath_segments (by rwa [whole]) (by rwa [whole]), whole, segments.goesOn,
    readBehind_bracket _ (balanced.splitAtClosing [])]
  cases read : readBracket readPath (String.ofList (cs ++ '[' :: (content ++ [']']))) content with
  | error fault => rfl
  | ok step =>
      obtain ⟨other, same, -, named⟩ := (spells_of_readBracket (fun inner _ path =>
        readPath_eq_ok_iff_spells.mp) read).reads
      obtain rfl := List.singleton_inj.mp same
      have unnamed : (path.steps ++ [step]).any Step.isUnnamed = false := by
        rw [List.any_append, segments.reads.2]
        simpa using named
      simp [readBehind_nil, bind, Except.bind, Except.map, unnamed]

-----------------------------------------------------------------------------------------
-- A comparison in a bracket
-----------------------------------------------------------------------------------------

/-- The text of a path that can stand in front of an operator: it is trimmed, and both scanners pass
over it.
-/
structure Compared (text : String) (path : KeyPath) : Prop where
  read : parse text = .ok path
  trimmed : Text.trim text.toList = text.toList
  passed : Passed text.toList

/-- A text that can stand behind an operator: it is trimmed, its quotes are closed and its brackets
stand in pairs, and it does not lengthen the operator.
-/
structure Against (text : String) : Prop where
  trimmed : Text.trim text.toList = text.toList
  balanced : Balanced text.toList
  noEq : ∀ rest, text.toList ≠ '=' :: rest

theorem splitAtComparison_token (comparison : Comparison) {cs : List Char}
    (noEq : ∀ rest, cs ≠ '=' :: rest)
    : splitAtComparison none (comparison.token.toList ++ cs) = some ([], comparison, cs) := by
  cases cs with
  | nil => cases comparison <;> rfl
  | cons c rest =>
      have different : c ≠ '=' := fun same => noEq rest (by rw [same])
      cases comparison <;>
        simp [Comparison.token, splitAtComparison, comparisonAt?, isQuote]

theorem token_endsVisibly (comparison : Comparison) : Text.EndsVisibly comparison.token.toList := by
  cases comparison with
  | eq | ne | ge | le => exact .concat rfl [_]
  | gt | lt => exact .concat rfl []

theorem token_balanced (comparison : Comparison) : Balanced comparison.token.toList := by
  have all : comparison.token.toList.all isOrdinary = true := by cases comparison <;> rfl
  exact .ofAll (List.all_eq_true.mp all)

/-- What stands between the brackets of a selection. -/
def comparing (key : List Char) (comparison : Comparison) (right : List Char) : List Char :=
  '?' :: (key ++ (comparison.token.toList ++ right))

/-- All that stands behind the operator of a selection is its literal. -/
theorem readBracket_comparing {element literal : String} {path : KeyPath}
    (compared : Compared element path) (against : Against literal) (comparison : Comparison)
    (source : String)
    : readBracket readPath source (comparing element.toList comparison literal.toList)
      = match literal? literal.toList with
        | some value => .ok (.select path.steps (some (comparison, value)))
        | none => .error ⟨source, .invalidLiteral literal⟩ := by
  have spells := spells_of_parse compared.read
  have ends : Text.EndsVisibly (comparison.token.toList ++ literal.toList) := by
    by_cases empty : literal.toList = []
    · rw [empty, List.append_nil]
      exact token_endsVisibly comparison
    · exact (Text.endsVisibly_of_trim against.trimmed empty).behind _
  have content
      : Text.trim (comparing element.toList comparison literal.toList)
        = comparing element.toList comparison literal.toList :=
    (ends.behind ('?' :: element.toList)).trim_eq rfl
  have selector
      : Text.trim (element.toList ++ (comparison.token.toList ++ literal.toList))
        = element.toList ++ (comparison.token.toList ++ literal.toList) := by
    cases shape : element.toList with
    | nil => exact absurd (compared.trimmed.trans shape) spells.trim_ne_nil
    | cons c rest =>
        exact (ends.behind (c :: rest)).trim_eq
          (Text.visible_of_trim (compared.trimmed.trans shape))
  have found
      : splitAtComparison none (element.toList ++ (comparison.token.toList ++ literal.toList))
        = some (element.toList, comparison, literal.toList) := by
    rw [compared.passed.uncompared, splitAtComparison_token comparison against.noEq]
    simp [behind]
  have read : readPath (Text.trim element.toList) = .ok path.steps := by
    rw [compared.trimmed]
    exact spells.reads
  have compares := readSelector_comparing found spells.trim_ne_nil read source
  rw [against.trimmed, String.ofList_toList] at compares
  rw [readBracket_selector content, selector]
  exact compares

/-- The path to the elements of a list on which a comparison with a literal holds. -/
def selection (list element : String) (comparison : Comparison) (literal : String) : String :=
  list ++ "[?" ++ element ++ comparison.token ++ literal ++ "]"

/-- A selection is read exactly if all that stands behind its operator is read as a literal. -/
theorem parse_selection {list element literal : String} {front path : KeyPath}
    (leads : Leads list front) (compared : Compared element path) (against : Against literal)
    (comparison : Comparison)
    : parse (selection list element comparison literal)
      = match literal? literal.toList with
        | some value =>
            .ok
              ⟨selection list element comparison literal,
                front.steps ++ [.select path.steps (some (comparison, value))]⟩
        | none =>
            .error ⟨selection list element comparison literal, .invalidLiteral literal⟩ := by
  have shape
      : (selection list element comparison literal).toList
        = list.toList ++ '[' :: (comparing element.toList comparison literal.toList ++ [']']) := by
    simp [selection, comparing, String.toList_append]
  have mark : Balanced ['?'] := .single rfl
  have balanced : Balanced (comparing element.toList comparison literal.toList) :=
    mark.append (compared.passed.balanced.append
      ((token_balanced comparison).append against.balanced))
  rw [parse_eq, shape, readPath_bracket leads balanced, ← shape, String.ofList_toList,
    readBracket_comparing compared against]
  cases literal? literal.toList with
  | some value => rfl
  | none => rfl

end Remediation.KeyPath
