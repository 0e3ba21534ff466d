import Remediation.KeyPath.Resolve
import Remediation.Proofs.KeyPath.Composition
import Remediation.Proofs.KeyPath.Indexes
import Remediation.Proofs.KeyPath.Reading

/-! Selectors inside selectors. Brackets are matched by their depth, but the first comparison of a
selector is looked for at every depth: a path without comparisons can stand in a selector and keeps
the elements on which it is truthy, and a path with one is cut in two at the bracket around it.
-/

namespace Remediation

open Step (anyCompares)

namespace KeyPath

-----------------------------------------------------------------------------------------
-- Fields in double quotes
-----------------------------------------------------------------------------------------

/-- The parts of a path that are read one inside the other. -/
inductive Part where
  /-- A whole path. -/
  | path
  /-- A segment and what follows it. -/
  | segment
  /-- What stands behind a field or a bracket. -/
  | behind
  /-- What stands between brackets. -/
  | content

/-- Texts in which every field stands in double quotes, those of the paths in selectors too. -/
inductive FieldsQuoted : Part → List Char → Prop where
  | here {cs : List Char} (same : Text.trim cs = ['@']) : FieldsQuoted .path cs
  | path {cs : List Char} (segments : FieldsQuoted .segment (Text.trim cs)) : FieldsQuoted .path cs
  | field {name rest : List Char} (closed : '"' ∉ name) (others : FieldsQuoted .behind rest)
    : FieldsQuoted .segment ('"' :: (name ++ '"' :: rest))
  | unnamed {rest : List Char} (brackets : FieldsQuoted .behind ('[' :: rest))
    : FieldsQuoted .segment ('[' :: rest)
  | last : FieldsQuoted .behind []
  | dot {rest : List Char} (segments : FieldsQuoted .segment rest)
    : FieldsQuoted .behind ('.' :: rest)
  | bracket {rest content after : List Char}
      (closing : splitAtClosing none 1 rest = some (content, after))
      (inside : FieldsQuoted .content content) (others : FieldsQuoted .behind after)
    : FieldsQuoted .behind ('[' :: rest)
  | position {content : List Char} (noSelector : ∀ selector, Text.trim content ≠ '?' :: selector)
    : FieldsQuoted .content content
  | truthy {content selector : List Char} (shape : Text.trim content = '?' :: selector)
      (missing : splitAtComparison none (Text.trim selector) = none)
      (inside : FieldsQuoted .path (Text.trim selector))
    : FieldsQuoted .content content
  | comparing {content selector left right : List Char} {comparison : Comparison}
      (shape : Text.trim content = '?' :: selector)
      (found : splitAtComparison none (Text.trim selector) = some (left, comparison, right))
      (inside : FieldsQuoted .path left)
    : FieldsQuoted .content content

/-- White space means nothing to the scanners. -/
theorem isOrdinary_of_isBlank {c : Char} (blank : Text.isBlank c = true)
    : isOrdinary c = true ∧ isSign c = false := by
  have other {d : Char} (visible : Text.isBlank d = false) : c ≠ d := by
    rintro rfl
    rw [visible] at blank
    cases blank
  refine ⟨?_, ?_⟩
  · have quotes : c ≠ '\'' ∧ c ≠ '`' ∧ c ≠ '"' := ⟨other rfl, other rfl, other rfl⟩
    have brackets : c ≠ '[' ∧ c ≠ ']' := ⟨other rfl, other rfl⟩
    simp [isOrdinary, isQuote, quotes, brackets]
  · have signs : c ≠ '=' ∧ c ≠ '!' ∧ c ≠ '>' ∧ c ≠ '<' :=
      ⟨other rfl, other rfl, other rfl, other rfl⟩
    simp [isSign, signs]

theorem passed_of_blank {cs : List Char} (blank : ∀ c ∈ cs, Text.isBlank c = true) : Passed cs :=
  .ofAll (fun c member => isOrdinary_of_isBlank (blank c member))

theorem Balanced.of_trim {cs : List Char} (balanced : Balanced (Text.trim cs)) : Balanced cs := by
  obtain ⟨front, back, shape, before, after⟩ := Text.exists_trim cs
  rw [shape]
  exact (passed_of_blank before).balanced.append
    (balanced.append (passed_of_blank after).balanced)

/-- The brackets of a path with quoted fields stand in pairs. Witness: induction on the path. -/
theorem FieldsQuoted.balanced {part : Part} {cs : List Char} (quoted : FieldsQuoted part cs)
    (whole : part ≠ .content)
    : Balanced cs := by
  induction quoted with
  | here same =>
      refine .of_trim ?_
      rw [same]
      exact .single rfl
  | path segments ih => exact .of_trim (ih (by simp))
  | field closed others ih =>
      rename_i name rest
      have together := (Balanced.quoted rfl closed).append (ih (by simp))
      rwa [List.cons_append, List.append_assoc, List.singleton_append] at together
  | unnamed brackets ih => exact ih (by simp)
  | last => exact .nil
  | dot segments ih =>
      have dot : Balanced ['.'] := .single rfl
      exact dot.append (ih (by simp))
  | bracket closing inside others _ ih =>
      have together := (Balanced.bracketed closing).append (ih (by simp))
      rw [List.cons_append, List.append_assoc, List.singleton_append] at together
      rwa [eq_of_splitAtClosing closing]
  | position noSelector => contradiction
  | truthy shape missing inside => contradiction
  | comparing shape found inside => contradiction

-----------------------------------------------------------------------------------------
-- Comparisons of inner selectors
-----------------------------------------------------------------------------------------

/-- A text that is read as steps whether or not it holds a comparison. Without one the scanner for a
comparison passes over it. With one the text is split inside a bracket, and what stands in front of
the comparison is no path, for the bracket is not closed in it.
-/
structure Divided (reader : String → List Char → Except MalformedPath (List Step))
    (cs : List Char) (steps : List Step) : Prop where
  read : ∀ source, reader source cs = .ok steps
  divided :
    (anyCompares steps = false ∧ Uncompared cs)
    ∨ anyCompares steps = true
      ∧ ∃ front start comparison right,
          splitAtComparison none cs = some (front ++ '[' :: start, comparison, right)
          ∧ ∀ source cut, cut <+: start
            → reader source (front ++ '[' :: cut) = .error ⟨source, .unbalancedBracket⟩

namespace Divided

theorem nil : Divided readBehind [] [] where
  read := readBehind_nil
  divided := .inl ⟨rfl, .nil⟩

/-- A text that the scanner passes over can stand in front, if the reader goes on behind it. -/
theorem append {reader onward : String → List Char → Except MalformedPath (List Step)}
    {front cs : List Char} {steps : List Step} {f : List Step → List Step}
    (divided : Divided onward cs steps) (passed : Uncompared front)
    (same : anyCompares (f steps) = anyCompares steps)
    (further : ∀ source rest, reader source (front ++ rest) = (onward source rest).map f)
    : Divided reader (front ++ cs) (f steps) where
  read := by
    intro source
    rw [further, divided.read]
    rfl
  divided := by
    rw [same]
    rcases divided.divided with ⟨plain, uncompared⟩ | ⟨compares, inner, start, comparison, right,
      split, broken⟩
    · exact .inl ⟨plain, passed.append uncompared⟩
    · refine .inr ⟨compares, front ++ inner, start, comparison, right, ?_, ?_⟩
      · rw [passed, split, List.append_assoc]
        rfl
      · intro source cut less
        rw [List.append_assoc, further, broken source cut less]
        rfl

theorem dot {rest : List Char} {steps : List Step} (segments : Divided readWhole rest steps)
    : Divided readBehind ('.' :: rest) steps := by
  have dot : Uncompared ['.'] := .single rfl rfl
  refine segments.append dot (f := id) rfl (fun source rest => ?_)
  rw [List.singleton_append, readBehind_dot]
  cases readWhole source rest with
  | error fault => rfl
  | ok steps => rfl

theorem field {name rest : List Char} {steps : List Step} (closed : '"' ∉ name)
    (others : Divided readBehind rest steps)
    : Divided readWhole ('"' :: (name ++ '"' :: rest))
        (.field (String.ofList name) :: steps) := by
  have quoted : Uncompared ('"' :: (name ++ ['"'])) := .quoted rfl closed
  have shape (cs : List Char) : '"' :: (name ++ '"' :: cs) = '"' :: (name ++ ['"']) ++ cs := by
    simp
  rw [shape]
  refine others.append quoted (by simp [anyCompares, Step.compares]) (fun source rest => ?_)
  rw [← shape, readWhole_quoted source closed]

theorem unnamed {rest : List Char} {steps : List Step}
    (brackets : Divided readBehind ('[' :: rest) steps)
    : Divided readWhole ('[' :: rest) steps where
  read := by
    intro source
    rw [readWhole_bracket, brackets.read]
  divided := by
    rcases brackets.divided with passed | ⟨compares, front, start, comparison, right, split, broken⟩
    · exact .inl passed
    · refine .inr ⟨compares, front, start, comparison, right, split, ?_⟩
      intro source cut less
      have same : ∃ more, front ++ '[' :: cut = '[' :: more := by
        cases front with
        | nil => exact ⟨cut, rfl⟩
        | cons c others =>
            have first := isPrefix_of_splitAtComparison split
            rw [List.cons_append, List.cons_prefix_cons] at first
            exact ⟨others ++ '[' :: cut, by rw [first.1, List.cons_append]⟩
      have stopped := broken source cut less
      obtain ⟨more, same⟩ := same
      rw [same] at stopped ⊢
      rw [readWhole_bracket, stopped]

end Divided

/-- What stands between brackets is read as a step, and the scanner for a comparison finds one in it
exactly if the step compares.
-/
structure DividedContent (content : List Char) (step : Step) : Prop where
  read : ∀ source, readBracket readPath source content = .ok step
  divided :
    (step.compares = false ∧ splitAtComparison none content = none)
    ∨ step.compares = true
      ∧ ∃ left comparison right, splitAtComparison none content = some (left, comparison, right)

theorem Divided.bracket {rest content after : List Char} {step : Step} {steps : List Step}
    (closing : splitAtClosing none 1 rest = some (content, after))
    (inside : DividedContent content step) (others : Divided readBehind after steps)
    : Divided readBehind ('[' :: rest) (step :: steps) := by
  have shape (cs : List Char)
      : '[' :: (content ++ ']' :: cs) = '[' :: (content ++ [']']) ++ cs := by
    simp
  have further (source : String) (cs : List Char)
      : readBehind source ('[' :: (content ++ [']']) ++ cs)
        = (readBehind source cs).map (step :: ·) := by
    rw [← shape, readBehind_bracket source (splitAtClosing_replace closing cs), inside.read]
    cases readBehind source cs with
    | error fault => rfl
    | ok steps => rfl
  rw [eq_of_splitAtClosing closing]
  rcases inside.divided with ⟨noTest, missing⟩ | ⟨test, left, comparison, right, found⟩
  · have passed : Uncompared ('[' :: (content ++ [']'])) :=
      .bracketed (quoteBehind_of_splitAtClosing closing) missing
    rw [shape]
    exact others.append passed (by simp [anyCompares, noTest]) further
  · refine ⟨fun source => ?_, .inr ⟨by simp [anyCompares, test], [], left, comparison,
      right ++ ']' :: after, ?_, ?_⟩⟩
    · rw [shape, further, others.read]
      rfl
    · rw [splitAtComparison_plain rfl, comparisonAt?_eq_none rfl,
        splitAtComparison_append (by simp), found]
      rfl
    · intro source cut less
      have front := less.trans (isPrefix_of_splitAtComparison found)
      exact readBehind_unbalanced source (splitAtClosing_of_isPrefix closing front)

-----------------------------------------------------------------------------------------
-- What stands between brackets
-----------------------------------------------------------------------------------------

theorem Uncompared.of_trim {cs : List Char} (uncompared : Uncompared (Text.trim cs))
    : Uncompared cs := by
  obtain ⟨front, back, shape, before, after⟩ := Text.exists_trim cs
  rw [shape]
  exact (passed_of_blank before).uncompared.append
    (uncompared.append (passed_of_blank after).uncompared)

/-- White space around a text hides no comparison. -/
theorem exists_splitAtComparison {cs : List Char}
    (found : splitAtComparison none (Text.trim cs) ≠ none)
    : splitAtComparison none cs ≠ none := by
  obtain ⟨front, back, shape, before, after⟩ := Text.exists_trim cs
  obtain ⟨split, found⟩ := Option.ne_none_iff_exists'.mp found
  have noEq (rest : List Char) : back ≠ '=' :: rest := by
    rintro rfl
    exact absurd (after '=' List.mem_cons_self) (by decide)
  rw [shape, (passed_of_blank before).uncompared, splitAtComparison_append noEq, found]
  simp

/-- The digits of an index and its sign mean nothing to the scanners. -/
theorem uncompared_of_integer? {cs : List Char} {position : Int}
    (read : integer? cs = some position)
    : Uncompared cs := by
  have plain : Passed cs := by
    refine .ofAll (fun c member => ?_)
    rcases isDigit_or_sign_of_integer? read member with digit | rfl | rfl
    · have shown := plain_of_isDigit digit
      exact ⟨shown.1, shown.2.1⟩
    · decide
    · decide
  exact plain.uncompared

theorem readBracket_selector {content selector : List Char}
    (shape : Text.trim content = '?' :: selector) (inner : PathReader) (source : String)
    : readBracket inner source content = readSelector inner source (Text.trim selector) := by
  simp [readBracket, shape]

/-- A selector without a comparison is one for the truthy elements. -/
theorem of_readSelector_truthy {cs : List Char} {step : Step} {source : String}
    (missing : splitAtComparison none cs = none)
    (read : readSelector readPath source cs = .ok step)
    : ∃ steps,
        step = .select steps none ∧ readPath cs = .ok steps
        ∧ ∀ other, readSelector readPath other cs = .ok step := by
  unfold readSelector at read ⊢
  rw [missing] at read ⊢
  split at read
  · cases read
  · rename_i filled
    obtain ⟨steps, path, same⟩ := exceptBind_eq_ok_iff.mp read
    obtain rfl := Except.ok.inj same
    refine ⟨steps, rfl, path, fun other => ?_⟩
    rw [if_neg filled]
    exact exceptBind_eq_ok_iff.mpr ⟨steps, path, rfl⟩

/-- A selector with a comparison is one that compares. -/
theorem of_readSelector_comparing {cs left right : List Char} {comparison : Comparison}
    {step : Step} {source : String}
    (found : splitAtComparison none cs = some (left, comparison, right))
    (read : readSelector readPath source cs = .ok step)
    : step.compares = true ∧ ∀ other, readSelector readPath other cs = .ok step := by
  unfold readSelector at read ⊢
  rw [found] at read ⊢
  split at read
  · cases read
  · rename_i filled
    dsimp only at read ⊢
    split at read
    · cases read
    · rename_i compared
      obtain ⟨steps, path, rest⟩ := exceptBind_eq_ok_iff.mp read
      split at rest
      · obtain rfl := Except.ok.inj rest
        refine ⟨rfl, fun other => ?_⟩
        rw [if_neg filled, if_neg compared, exceptBind_eq_ok_iff]
        exact ⟨steps, path, rfl⟩
      · cases rest

theorem DividedContent.position {content : List Char} {step : Step} {source : String}
    (noSelector : ∀ selector, Text.trim content ≠ '?' :: selector)
    (read : readBracket readPath source content = .ok step)
    : DividedContent content step := by
  have plain (passed : Uncompared (Text.trim content)) : splitAtComparison none content = none :=
    (Uncompared.of_trim passed).splitAtComparison
  unfold readBracket at read
  split at read
  · rename_i empty
    obtain rfl := Except.ok.inj read
    refine ⟨fun source => by simp [readBracket, empty], .inl ⟨rfl, plain ?_⟩⟩
    rw [empty]
    exact .nil
  · rename_i star
    obtain rfl := Except.ok.inj read
    refine ⟨fun source => by simp [readBracket, star], .inl ⟨rfl, plain ?_⟩⟩
    rw [star]
    exact .single rfl rfl
  · rename_i selector shape
    exact absurd shape (noSelector selector)
  · rename_i notEmpty noStar noMark
    split at read
    · rename_i position digits
      obtain rfl := Except.ok.inj read
      refine ⟨fun source => ?_, .inl ⟨rfl, plain (uncompared_of_integer? digits)⟩⟩
      unfold readBracket
      split
      · contradiction
      · contradiction
      · rename_i selector shape
        exact absurd shape (noSelector selector)
      · rw [digits]
    · cases read

theorem DividedContent.truthy {content selector : List Char} {step : Step} {source : String}
    (shape : Text.trim content = '?' :: selector)
    (missing : splitAtComparison none (Text.trim selector) = none)
    (inside : ∀ steps, readPath (Text.trim selector) = .ok steps
      → anyCompares steps = false ∧ Uncompared (Text.trim selector))
    (read : readBracket readPath source content = .ok step)
    : DividedContent content step := by
  rw [readBracket_selector shape] at read
  obtain ⟨steps, rfl, path, again⟩ := of_readSelector_truthy missing read
  obtain ⟨plain, uncompared⟩ := inside steps path
  have mark : Uncompared ['?'] := .single rfl rfl
  refine ⟨fun source => by rw [readBracket_selector shape, again], .inl ⟨?_, ?_⟩⟩
  · simp [Step.compares, plain]
  · refine (Uncompared.of_trim ?_).splitAtComparison
    rw [shape]
    exact mark.append uncompared.of_trim

theorem DividedContent.comparing {content selector left right : List Char}
    {comparison : Comparison} {step : Step} {source : String}
    (shape : Text.trim content = '?' :: selector)
    (found : splitAtComparison none (Text.trim selector) = some (left, comparison, right))
    (read : readBracket readPath source content = .ok step)
    : DividedContent content step := by
  rw [readBracket_selector shape] at read
  obtain ⟨compares, again⟩ := of_readSelector_comparing found read
  have inSelector : splitAtComparison none selector ≠ none :=
    exists_splitAtComparison (by simp [found])
  have inContent : splitAtComparison none content ≠ none := by
    refine exists_splitAtComparison ?_
    rw [shape, splitAtComparison_plain rfl, comparisonAt?_eq_none rfl]
    simpa using inSelector
  obtain ⟨⟨front, sign, back⟩, split⟩ := Option.ne_none_iff_exists'.mp inContent
  exact ⟨fun source => by rw [readBracket_selector shape, again],
    .inr ⟨compares, front, sign, back, split⟩⟩

-----------------------------------------------------------------------------------------
-- Paths that are read
-----------------------------------------------------------------------------------------

/-- How the parts of a path that are read as steps are divided by the scanner for a comparison. -/
def Part.Divides (cs : List Char) : Part → Prop
  | .path =>
      ∀ steps, readPath cs = .ok steps
        → (Text.trim cs = ['@'] ∧ steps = []) ∨ Divided readWhole (Text.trim cs) steps
  | .segment => ∀ source steps, readWhole source cs = .ok steps → Divided readWhole cs steps
  | .behind => ∀ source steps, readBehind source cs = .ok steps → Divided readBehind cs steps
  | .content =>
      ∀ source step, readBracket readPath source cs = .ok step → DividedContent cs step

/-- A segment with quoted fields starts with a quote or a bracket. -/
theorem FieldsQuoted.starts {cs : List Char} (quoted : FieldsQuoted .segment cs)
    : ∃ first rest, cs = first :: rest ∧ (first = '"' ∨ first = '[') := by
  cases quoted with
  | field closed others => exact ⟨'"', _, rfl, .inl rfl⟩
  | unnamed brackets => exact ⟨'[', _, rfl, .inr rfl⟩

/-- Every part with quoted fields is divided inside a bracket or not at all. Witness: induction on
the path and the paths in its selectors.
-/
theorem FieldsQuoted.divides {part : Part} {cs : List Char} (quoted : FieldsQuoted part cs)
    : part.Divides cs := by
  induction quoted with
  | here same =>
      intro steps read
      rw [readPath_here same] at read
      exact .inl ⟨same, (Except.ok.inj read).symm⟩
  | path segments ih =>
      intro steps read
      obtain ⟨first, rest, shape, mark⟩ := segments.starts
      refine .inr (ih _ steps ((readPath_eq_ok_iff ?_ ?_).mp read).1)
      · simp [shape]
      · rw [shape]
        rcases mark with rfl | rfl <;> simp
  | field closed others ih =>
      intro source steps read
      rw [readWhole_quoted source closed] at read
      obtain ⟨found, behind, rfl⟩ := exceptMap_eq_ok_iff.mp read
      exact (ih source found behind).field closed
  | unnamed brackets ih =>
      intro source steps read
      rw [readWhole_bracket] at read
      exact (ih source steps read).unnamed
  | last =>
      intro source steps read
      obtain rfl := Except.ok.inj read
      exact .nil
  | dot segments ih =>
      intro source steps read
      rw [readBehind_dot] at read
      exact (ih source steps read).dot
  | bracket closing inside others ihInside ihOthers =>
      intro source steps read
      rw [readBehind_bracket source closing] at read
      obtain ⟨step, bracket, further⟩ := exceptBind_eq_ok_iff.mp read
      obtain ⟨found, behind, same⟩ := exceptBind_eq_ok_iff.mp further
      obtain rfl := Except.ok.inj same
      exact .bracket closing (ihInside source step bracket) (ihOthers source found behind)
  | position noSelector =>
      intro source step read
      exact .position noSelector read
  | truthy shape missing inside ih =>
      intro source step read
      refine .truthy shape missing (fun steps path => ?_) read
      have found := ih steps path
      rw [Text.trim_trim] at found
      rcases found with ⟨here, rfl⟩ | segments
      · rw [here]
        exact ⟨rfl, .single rfl rfl⟩
      · rcases segments.divided with plain | ⟨-, front, start, comparison, right, split, -⟩
        · exact plain
        · rw [missing] at split
          cases split
  | comparing shape found inside ih =>
      intro source step read
      exact .comparing shape found read

-----------------------------------------------------------------------------------------
-- A path in a selector
-----------------------------------------------------------------------------------------

/-- The path to the elements of an array on which another path is truthy. -/
def selecting (name path : String) : String :=
  "\"" ++ name ++ "\"[?" ++ path ++ "]"

theorem isUnnamed_of_readSelector {cs : List Char} {step : Step} {source : String}
    (read : readSelector readPath source cs = .ok step)
    : Step.isUnnamed step = false := by
  cases split : splitAtComparison none cs with
  | none =>
      obtain ⟨steps, rfl, -, -⟩ := of_readSelector_truthy split read
      rfl
  | some found =>
      obtain ⟨left, comparison, right⟩ := found
      obtain ⟨compares, -⟩ := of_readSelector_comparing split read
      cases step with
      | field name => cases compares
      | index position => rfl
      | project => rfl
      | flatten => rfl
      | select path test => rfl

/-- What is read from the path is what is read from the selector in it. -/
theorem readPath_selecting {name path : String} (named : name ≠ "") (noQuote : '"' ∉ name.toList)
    (quoted : FieldsQuoted .path path.toList)
    : readPath (selecting name path).toList
      = (readSelector readPath (selecting name path) (Text.trim path.toList)).map
          (fun step => [.field name, step]) := by
  have shape
      : (selecting name path).toList
        = '"' :: (name.toList ++ '"' :: '[' :: ('?' :: path.toList ++ [']'])) := by
    simp [selecting, String.toList_append]
  have trimmed : Text.trim (selecting name path).toList = (selecting name path).toList := by
    have ends : Text.EndsVisibly ('?' :: path.toList ++ [']']) := .concat rfl _
    have whole := ends.behind ('"' :: (name.toList ++ ['"', '[']))
    rw [List.cons_append, List.append_assoc] at whole
    rw [shape]
    exact whole.trim_eq rfl
  have selector (source : String)
      : readBracket readPath source ('?' :: path.toList)
        = readSelector readPath source (Text.trim path.toList) := by
    have content : Text.trim ('?' :: path.toList) = '?' :: Text.trimRight path.toList := by
      rw [Text.trim, Text.trimLeft_cons rfl, ← List.nil_append ('?' :: _),
        Text.trimRight_append rfl]
      rfl
    rw [readBracket_selector content, Text.trim_trimRight]
  have mark : Balanced ['?'] := .single rfl
  have closing
      : splitAtClosing none 1 ('?' :: path.toList ++ [']']) = some ('?' :: path.toList, []) :=
    (mark.append (quoted.balanced (by simp))).splitAtClosing []
  have whole
      : readWhole (selecting name path) (selecting name path).toList
        = (do
            let step ← readSelector readPath (selecting name path) (Text.trim path.toList)
            let steps ← readBehind (selecting name path) []
            .ok (step :: steps)).map (.field name :: ·) := by
    rw [shape, readWhole_quoted _ noQuote, readBehind_bracket _ closing, selector,
      String.ofList_toList]
  have notEmpty : Text.trim (selecting name path).toList ≠ [] := by
    rw [trimmed, shape]
    simp
  have notHere : Text.trim (selecting name path).toList ≠ ['@'] := by
    rw [trimmed, shape]
    simp
  rw [readPath_segments notEmpty notHere, trimmed, String.ofList_toList, whole]
  cases read : readSelector readPath (selecting name path) (Text.trim path.toList) with
  | error fault => rfl
  | ok step =>
      have unnamed : [Step.field name, step].any Step.isUnnamed = false := by
        rw [List.any_cons, List.any_cons, isUnnamed_of_readSelector read]
        simp [Step.isUnnamed, named]
      simp [readBehind_nil, bind, Except.bind, Except.map, unnamed]

/-- No element null is kept. -/
theorem keeps_null (steps : List Step) : Step.keeps steps none .null = false := by
  cases steps with
  | nil => simp [Step.keeps, Step.resolve, Json.truthy]
  | cons step rest =>
      cases step <;> simp [Step.keeps, Step.resolve, Json.fields?, Json.items?]

theorem keeps_eq (steps : List Step) (item : Json)
    : Step.keeps steps none item = (Step.resolve steps item).any Json.truthy := by
  simp only [Step.keeps]
  cases Step.resolve steps item with
  | none => rfl
  | some found => rfl

/-- A selector keeps the elements on which its path is truthy. -/
theorem resolve_selecting (name : String) (steps : List Step) (record : Json)
    : Step.resolve [.field name, .select steps none] record
      = ((record.field? name).bind Json.items?).map (fun items =>
          .array (items.filter (fun item => (Step.resolve steps item).any Json.truthy))) := by
  have kept (items : List Json)
      : Step.projected (Step.resolve []) (items.filter (Step.keeps steps none))
        = .array (items.filter (fun item => (Step.resolve steps item).any Json.truthy)) := by
    have noNull : ∀ item ∈ items.filter (Step.keeps steps none), item ≠ .null := by
      rintro item member rfl
      have kept := (List.mem_filter.mp member).2
      rw [keeps_null] at kept
      cases kept
    rw [Step.projected_here noNull]
    congr 1
    exact List.filter_congr (fun item _ => keeps_eq steps item)
  cases record with
  | object fields =>
      cases found : Table.get? fields name with
      | none => simp [Step.resolve, Json.fields?, Json.field?, found]
      | some value =>
          cases array : value.items? with
          | none => simp [Step.resolve, Json.fields?, Json.field?, found, array]
          | some items => simp [Step.resolve, Json.fields?, Json.field?, found, array, kept]
  | null => simp [Step.resolve, Json.fields?, Json.field?]
  | bool value => simp [Step.resolve, Json.fields?, Json.field?]
  | number value => simp [Step.resolve, Json.fields?, Json.field?]
  | string value => simp [Step.resolve, Json.fields?, Json.field?]
  | array value => simp [Step.resolve, Json.fields?, Json.field?]

/-- A path with quoted fields is read from its text without white space around it, and is divided
inside a bracket or not at all.
-/
theorem FieldsQuoted.readPath_trim {cs : List Char} {steps : List Step}
    (quoted : FieldsQuoted .path cs) (read : readPath cs = .ok steps)
    : Text.trim cs ≠ [] ∧ readPath (Text.trim cs) = .ok steps
      ∧ ((Text.trim cs = ['@'] ∧ steps = []) ∨ Divided readWhole (Text.trim cs) steps) := by
  have divides := quoted.divides steps read
  cases quoted with
  | here same =>
      have here : Text.trim (Text.trim cs) = ['@'] := by rw [Text.trim_trim, same]
      rw [readPath_here same] at read
      exact ⟨by simp [same], (readPath_here here).trans read, divides⟩
  | path segments =>
      obtain ⟨first, rest, shape, mark⟩ := segments.starts
      have some : Text.trim cs ≠ [] := by simp [shape]
      have more : Text.trim cs ≠ ['@'] := by
        rw [shape]
        rcases mark with rfl | rfl <;> simp
      refine ⟨some, ?_, divides⟩
      rcases divides with ⟨here, -⟩ | divided
      · contradiction
      · refine (readPath_eq_ok_iff (by rwa [Text.trim_trim]) (by rwa [Text.trim_trim])).mpr ?_
        rw [Text.trim_trim]
        exact ⟨divided.read _, ((readPath_eq_ok_iff some more).mp read).2⟩

/-- What stands in front of a comparison inside a bracket is no path. -/
theorem readPath_cut {cs front start right : List Char} {comparison : Comparison}
    (split : splitAtComparison none (Text.trim cs)
      = some (front ++ '[' :: start, comparison, right))
    (broken : ∀ source cut, cut <+: start
      → readWhole source (front ++ '[' :: cut) = .error ⟨source, .unbalancedBracket⟩)
    : Text.trim (front ++ '[' :: start) ≠ []
      ∧ readPath (Text.trim (front ++ '[' :: start))
        = .error
            ⟨String.ofList (Text.trim (front ++ '[' :: start)), .unbalancedBracket⟩ := by
  have left : Text.trimLeft (front ++ '[' :: start) = front ++ '[' :: start := by
    obtain ⟨more, shape⟩ := isPrefix_of_splitAtComparison split
    cases front with
    | nil => exact Text.trimLeft_cons rfl start
    | cons c others => exact Text.trimLeft_cons (Text.visible_of_trim shape.symm) _
  have cut : Text.trim (front ++ '[' :: start) = front ++ '[' :: Text.trimRight start := by
    rw [Text.trim, left, Text.trimRight_append rfl]
  have some : front ++ '[' :: Text.trimRight start ≠ [] := by simp
  have more : front ++ '[' :: Text.trimRight start ≠ ['@'] := by
    cases front with
    | nil => simp
    | cons c others => simp
  refine ⟨by rwa [cut], ?_⟩
  rw [readPath_segments (by rwa [Text.trim_trim, cut]) (by rwa [Text.trim_trim, cut]),
    Text.trim_trim, cut, broken _ _ (Text.isPrefix_trimRight start)]
  rfl

/-- A path that compares nothing stands in a selector as it is. -/
theorem readPath_selecting_plain {name text : String} {steps : List Step} (named : name ≠ "")
    (noQuote : '"' ∉ name.toList) (quoted : FieldsQuoted .path text.toList)
    (read : readPath text.toList = .ok steps) (plain : anyCompares steps = false)
    : readPath (selecting name text).toList = .ok [.field name, .select steps none] := by
  obtain ⟨filled, again, divides⟩ := quoted.readPath_trim read
  have missing : splitAtComparison none (Text.trim text.toList) = none := by
    rcases divides with ⟨here, -⟩ | divided
    · rw [here]
      rfl
    · rcases divided.divided with ⟨-, passed⟩ | ⟨compares, -⟩
      · exact passed.splitAtComparison
      · rw [plain] at compares
        cases compares
  have selector
      : readSelector readPath (selecting name text) (Text.trim text.toList)
        = .ok (.select steps none) := by
    unfold readSelector
    rw [List.isEmpty_eq_false_iff.mpr filled, missing, again]
    rfl
  rw [readPath_selecting named noQuote quoted, selector]
  rfl

/-- A path that compares is cut at its first comparison when it stands in a selector. -/
theorem readPath_selecting_compares {name text : String} {steps : List Step} (named : name ≠ "")
    (noQuote : '"' ∉ name.toList) (quoted : FieldsQuoted .path text.toList)
    (read : readPath text.toList = .ok steps) (compares : anyCompares steps = true)
    : ∃ left comparison right,
        splitAtComparison none (Text.trim text.toList) = some (left, comparison, right)
        ∧ readPath (selecting name text).toList
          = .error ⟨String.ofList (Text.trim left), .unbalancedBracket⟩ := by
  obtain ⟨filled, -, divides⟩ := quoted.readPath_trim read
  rcases divides with ⟨-, rfl⟩ | divided
  · cases compares
  · rcases divided.divided with ⟨plain, -⟩ | ⟨-, front, start, comparison, right, split, broken⟩
    · rw [plain] at compares
      cases compares
    · refine ⟨front ++ '[' :: start, comparison, right, split, ?_⟩
      obtain ⟨some, cut⟩ := readPath_cut split broken
      have selector
          : readSelector readPath (selecting name text) (Text.trim text.toList)
            = .error
                ⟨String.ofList (Text.trim (front ++ '[' :: start)), .unbalancedBracket⟩ := by
        unfold readSelector
        rw [List.isEmpty_eq_false_iff.mpr filled, split]
        simp only [List.isEmpty_eq_false_iff.mpr some, cut, Bool.false_eq_true, if_false, bind,
          Except.bind]
      rw [readPath_selecting named noQuote quoted, selector]
      rfl

/-- Whether a path can stand in a selector depends on comparisons in its own selectors. If it has
none, the selector keeps exactly the elements on which the path is truthy. If it has one, at any
depth, the first of them is taken for a comparison of the outer selector, whose left side is then a
text with an open bracket: the path is refused.
-/
theorem parse_selecting {name text : String} {path : KeyPath} (named : name ≠ "")
    (noQuote : '"' ∉ name.toList) (quoted : FieldsQuoted .path text.toList)
    (accepted : parse text = .ok path)
    : (anyCompares path.steps = false
        → ∃ outer,
            parse (selecting name text) = .ok outer
            ∧ ∀ record,
                outer.resolve record
                = ((record.field? name).bind Json.items?).map (fun items =>
                    .array (items.filter (fun item => (path.resolve item).any Json.truthy))))
      ∧ (anyCompares path.steps = true
        → ∃ left comparison right,
            splitAtComparison none (Text.trim text.toList) = some (left, comparison, right)
            ∧ parse (selecting name text)
              = .error ⟨String.ofList (Text.trim left), .unbalancedBracket⟩) := by
  obtain ⟨steps, read, rfl⟩ : ∃ steps, readPath text.toList = .ok steps ∧ path = ⟨text, steps⟩ := by
    obtain ⟨steps, read, same⟩ := exceptMap_eq_ok_iff.mp accepted
    exact ⟨steps, read, same.symm⟩
  constructor
  · intro plain
    have outer := readPath_selecting_plain named noQuote quoted read plain
    refine ⟨⟨selecting name text, [.field name, .select steps none]⟩, ?_, ?_⟩
    · rw [parse_eq, outer]
      rfl
    · exact resolve_selecting name steps
  · intro compares
    obtain ⟨left, comparison, right, split, outer⟩ :=
      readPath_selecting_compares named noQuote quoted read compares
    refine ⟨left, comparison, right, split, ?_⟩
    rw [parse_eq, outer]
    rfl

namespace Sample

/-- The records with a `c` of `x` among those at `b`. -/
def comparing : String := "\"b\"[?\"c\"=='x']"

theorem comparing_quoted : FieldsQuoted .path comparing.toList := by
  have name (c : Char) (other : '"' ≠ c) : '"' ∉ [c] := by simpa using other
  have left : FieldsQuoted .path ['"', 'c', '"'] :=
    .path (.field (name 'c' (by decide)) .last)
  have content : FieldsQuoted .content "?\"c\"=='x'".toList := .comparing rfl rfl left
  exact .path (.field (name 'b' (by decide)) (.bracket rfl content .last))

theorem comparing_accepted
    : parse comparing
      = .ok ⟨comparing, [.field "b", .select [.field "c"] (some (.eq, .string "x"))]⟩ := by
  rfl

end Sample

theorem parse_selecting_comparing
    : FieldsQuoted .path Sample.comparing.toList
      ∧ parse Sample.comparing
        = .ok ⟨Sample.comparing, [.field "b", .select [.field "c"] (some (.eq, .string "x"))]⟩
      ∧ parse "\"a\"[?\"b\"[?\"c\"=='x']]" = .error ⟨"\"b\"[?\"c\"", .unbalancedBracket⟩ := by
  have found
      : splitAtComparison none (Text.trim Sample.comparing.toList)
        = some ("\"b\"[?\"c\"".toList, .eq, "'x']".toList) := by rfl
  obtain ⟨left, comparison, right, split, refused⟩ :=
    (parse_selecting (by decide : "a" ≠ "") (by decide) Sample.comparing_quoted
      Sample.comparing_accepted).2 rfl
  rw [found] at split
  obtain ⟨rfl, -⟩ := Prod.mk.inj (Option.some.inj split)
  exact ⟨Sample.comparing_quoted, Sample.comparing_accepted, refused⟩

end KeyPath

end Remediation
