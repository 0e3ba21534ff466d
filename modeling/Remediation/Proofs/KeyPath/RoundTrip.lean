import Remediation.Json.Printer
import Remediation.KeyPath.Resolve
import Remediation.Proofs.Json.Backticks
import Remediation.Proofs.KeyPath.Indexes
import Remediation.Proofs.KeyPath.Reading

/-! Key paths written as text and read back. Names stand in double quotes and literals in backticks,
where neither brackets nor comparisons nor dots count, so that all scanners agree on where a step
ends.
-/

namespace Remediation

-----------------------------------------------------------------------------------------
-- Steps as text
-----------------------------------------------------------------------------------------

namespace Step

/-- The comparison of a selector; the backticks of its literal are escaped. -/
def testText : Option (Comparison × Json) → List Char
  | none => []
  | some (comparison, literal) =>
      ' ' :: comparison.token.toList
        ++ ' ' :: '`' :: (Json.withoutBackticks literal.text.toList ++ ['`'])

/-- The text of steps that stands for the value itself where there are none. -/
def orHere : List Char → List Char
  | [] => ['@']
  | cs => cs

mutual

/-- The text of a step, with a dot in front of a field that is not the first step. -/
def text (first : Bool) : Step → List Char
  | .field name => (if first then [] else ['.']) ++ '"' :: (name.toList ++ ['"'])
  | .index position => '[' :: ((toString position).toList ++ [']'])
  | .project => ['[', '*', ']']
  | .flatten => ['[', ']']
  | .select path test => '[' :: ('?' :: (orHere (texts true path) ++ testText test) ++ [']'])

/-- The text of steps, one behind the other. -/
def texts (first : Bool) : List Step → List Char
  | [] => []
  | step :: rest => text first step ++ texts false rest

end

/-- The text of the steps of a path. -/
def pathText (steps : List Step) : List Char :=
  orHere (texts true steps)

/-- The steps that can be written: names are not empty and hold no double quote, indexes are of 64
bits, the paths of selectors compare nothing, and literals are values whose text is read back.
-/
inductive Writable : Step → Prop where
  | field {name : String} (named : name ≠ "") (noQuote : '"' ∉ name.toList)
    : Writable (.field name)
  | index {position : Int} (least : -0x8000000000000000 ≤ position)
      (greatest : position < 0x8000000000000000)
    : Writable (.index position)
  | project : Writable .project
  | flatten : Writable .flatten
  | select {path : List Step} {test : Option (Comparison × Json)}
      (steps : ∀ step ∈ path, Writable step) (plain : anyCompares path = false)
      (literal : ∀ comparison value, test = some (comparison, value)
        → Json.read value.text = some value)
    : Writable (.select path test)

end Step

open Step (Writable testText orHere texts pathText anyCompares)

namespace KeyPath

-----------------------------------------------------------------------------------------
-- What the scanners pass over
-----------------------------------------------------------------------------------------

theorem anyCompares_eq_false_iff {steps : List Step}
    : anyCompares steps = false ↔ ∀ step ∈ steps, step.compares = false := by
  induction steps with
  | nil => simp [anyCompares]
  | cons step rest ih => simp [anyCompares, ih]

theorem passed_orHere {cs : List Char} (passed : Passed cs) : Passed (orHere cs) := by
  cases cs with
  | nil => exact .single rfl rfl
  | cons c rest => exact passed

theorem passed_texts {steps : List Step}
    (each : ∀ step ∈ steps, ∀ first, Passed (step.text first)) (first : Bool)
    : Passed (texts first steps) := by
  induction steps generalizing first with
  | nil => exact .nil
  | cons step rest ih =>
      simp only [texts]
      have behind := ih (fun other member => each other (List.mem_cons_of_mem step member)) false
      exact .append (each step List.mem_cons_self first) behind

/-- Both scanners pass over a step that compares nothing. Witness: induction on the steps that can
be written.
-/
theorem passed_text {step : Step} (writable : step.Writable) (plain : step.compares = false)
    (first : Bool)
    : Passed (step.text first) := by
  induction writable generalizing first with
  | field named noQuote =>
      have dot : Passed (if first then [] else ['.']) := by
        cases first with
        | true => exact .nil
        | false => exact .single rfl rfl
      simp only [Step.text]
      exact .append dot (.quoted rfl noQuote)
  | index least greatest =>
      simp only [Step.text]
      refine .inBrackets (.ofAll (fun c member => ?_))
      have shown := plain_of_mem_toString member
      exact ⟨shown.1, shown.2.1⟩
  | project =>
      have star : Passed ['*'] := .single rfl rfl
      exact star.inBrackets
  | flatten => exact .inBrackets .nil
  | select steps noneInside literal ih =>
      rename_i path test
      have noTest : test = none := by
        simp only [Step.compares, Bool.or_eq_false_iff] at plain
        simpa using plain.1
      subst noTest
      have inside : Passed (texts true path) := by
        refine passed_texts (fun step member => ih step member ?_) true
        exact anyCompares_eq_false_iff.mp noneInside step member
      have mark : Passed ['?'] := .single rfl rfl
      simp only [Step.text, testText, List.append_nil]
      exact .inBrackets (mark.append (passed_orHere inside))

-----------------------------------------------------------------------------------------
-- Steps that are read back
-----------------------------------------------------------------------------------------

/-- What the readers need of a step: the name of a field can stand in quotes, and every other step
is read from what stands in its brackets.
-/
inductive ReadBack : Step → Prop where
  | field {name : String} (named : name ≠ "") (noQuote : '"' ∉ name.toList)
    : ReadBack (.field name)
  | bracket {step : Step} {content : List Char}
      (shown : ∀ first, step.text first = '[' :: (content ++ [']']))
      (named : Step.isUnnamed step = false) (closed : Balanced content)
      (read : ∀ source, readBracket readPath source content = .ok step)
    : ReadBack step

theorem readBehind_texts {steps : List Step} (each : ∀ step ∈ steps, ReadBack step)
    (source : String)
    : readBehind source (texts false steps) = .ok steps := by
  induction steps with
  | nil => rfl
  | cons step rest ih =>
      have others := ih (fun other member => each other (List.mem_cons_of_mem step member))
      simp only [texts]
      cases each step List.mem_cons_self with
      | field named noQuote =>
          simp only [Step.text, Bool.false_eq_true, if_false, List.nil_append, List.cons_append,
            List.append_assoc]
          rw [readBehind_dot, readWhole_quoted source noQuote, others, String.ofList_toList]
          rfl
      | bracket shown named closed read =>
          rw [shown, List.cons_append, List.append_assoc, List.singleton_append,
            readBehind_bracket source (closed.splitAtClosing _), read, others]
          rfl

theorem readWhole_texts {step : Step} {rest : List Step}
    (each : ∀ other ∈ step :: rest, ReadBack other) (source : String)
    : readWhole source (texts true (step :: rest)) = .ok (step :: rest) := by
  have others := readBehind_texts
    (fun other member => each other (List.mem_cons_of_mem step member)) source
  simp only [texts]
  cases each step List.mem_cons_self with
  | field named noQuote =>
      simp only [Step.text, if_true, List.nil_append, List.cons_append, List.append_assoc]
      rw [readWhole_quoted source noQuote, others, String.ofList_toList]
      rfl
  | bracket shown named closed read =>
      rw [shown, List.cons_append, List.append_assoc, List.singleton_append, readWhole_bracket,
        readBehind_bracket source (closed.splitAtClosing _), read, others]
      rfl

/-- The text of steps ends with a quote or a bracket. -/
theorem endsVisibly_texts {steps : List Step} (each : ∀ step ∈ steps, ReadBack step)
    (filled : steps ≠ []) (first : Bool)
    : Text.EndsVisibly (texts first steps) := by
  induction steps generalizing first with
  | nil => contradiction
  | cons step rest ih =>
      simp only [texts]
      cases rest with
      | nil =>
          rw [texts, List.append_nil]
          cases each step List.mem_cons_self with
          | field named noQuote =>
              rename_i name
              simp only [Step.text]
              rw [← List.cons_append]
              exact (Text.EndsVisibly.concat rfl ('"' :: name.toList)).behind _
          | bracket shown named closed read =>
              rename_i content
              rw [shown, ← List.cons_append]
              exact .concat rfl ('[' :: content)
      | cons next others =>
          have member : ∀ other ∈ next :: others, ReadBack other :=
            fun other member => each other (List.mem_cons_of_mem step member)
          exact (ih member (by simp) false).behind _

/-- The text of steps starts with a quote or a bracket. -/
theorem pathText_starts {step : Step} {rest : List Step}
    (each : ∀ other ∈ step :: rest, ReadBack other)
    : ∃ first more,
        texts true (step :: rest) = first :: more ∧ pathText (step :: rest) = first :: more
        ∧ (first = '"' ∨ first = '[') := by
  have starts : ∃ first more,
      texts true (step :: rest) = first :: more ∧ (first = '"' ∨ first = '[') := by
    cases each step List.mem_cons_self with
    | field named noQuote => exact ⟨'"', _, rfl, .inl rfl⟩
    | bracket shown named closed read =>
        rename_i content
        refine ⟨'[', (content ++ [']']) ++ texts false rest, ?_, .inr rfl⟩
        rw [texts, shown, List.cons_append]
  obtain ⟨first, more, shown, mark⟩ := starts
  refine ⟨first, more, shown, ?_, mark⟩
  rw [pathText, shown]
  rfl

/-- The text of a path is one that is trimmed. -/
theorem pathText_trimmed {steps : List Step} (each : ∀ step ∈ steps, ReadBack step)
    : ∃ first rest,
        pathText steps = first :: rest ∧ Text.isBlank first = false
        ∧ Text.EndsVisibly (first :: rest) := by
  cases steps with
  | nil => exact ⟨'@', [], rfl, rfl, .concat rfl []⟩
  | cons step others =>
      have ends := endsVisibly_texts each (by simp) true
      obtain ⟨first, more, shown, same, mark⟩ := pathText_starts each
      rw [shown] at ends
      refine ⟨first, more, same, ?_, ends⟩
      rcases mark with rfl | rfl <;> rfl

/-- Steps that can be read back each are read back together. -/
theorem readPath_pathText {steps : List Step} (each : ∀ step ∈ steps, ReadBack step)
    : readPath (pathText steps) = .ok steps := by
  cases steps with
  | nil => exact readPath_here rfl
  | cons step others =>
      obtain ⟨first, more, shown, same, mark⟩ := pathText_starts each
      have whole := readWhole_texts each
      have ends := endsVisibly_texts each (by simp) true
      have noUnnamed : (step :: others).any Step.isUnnamed = false := by
        rw [List.any_eq_false]
        intro other member
        cases each other member with
        | field named noQuote => simpa [Step.isUnnamed] using named
        | bracket shown named closed read => simp [named]
      rw [shown] at ends
      have trimmed : Text.trim (first :: more) = first :: more :=
        ends.trim_eq (by rcases mark with rfl | rfl <;> rfl)
      have noHere : first :: more ≠ ['@'] := by
        rcases mark with rfl | rfl <;> simp
      have some : Text.trim (first :: more) ≠ [] := by simp [trimmed]
      rw [same]
      refine (readPath_eq_ok_iff some (by rwa [trimmed])).mpr ⟨?_, noUnnamed⟩
      rw [trimmed, ← shown, whole]

-----------------------------------------------------------------------------------------
-- Brackets
-----------------------------------------------------------------------------------------

theorem readBracket_index {position : Int} (least : -0x8000000000000000 ≤ position)
    (greatest : position < 0x8000000000000000) (inner : PathReader) (source : String)
    : readBracket inner source (toString position).toList = .ok (.index position) := by
  have value := integer?_toString least greatest
  have trimmed : Text.trim (toString position).toList = (toString position).toList :=
    Text.trim_of_visible (fun c member => (plain_of_mem_toString member).2.2)
  unfold readBracket
  rw [trimmed]
  split
  · rename_i empty
    rw [empty] at value
    cases value
  · rename_i star
    rw [star] at value
    cases value
  · rename_i mark
    rw [mark] at value
    cases value
  · rw [value]

/-- A literal in backticks is read back when its backticks are escaped. -/
theorem literal?_backticks {value : Json} (read : Json.read value.text = some value)
    : literal? ('`' :: (Json.withoutBackticks value.text.toList ++ ['`'])) = some value := by
  rw [literal?_ticked]
  exact Json.read_withoutBackticks read

/-- The comparison of a selector stands behind what is compared. -/
theorem splitAtComparison_testText {cs : List Char} (passed : Uncompared cs)
    (comparison : Comparison) (value : Json)
    : splitAtComparison none (cs ++ testText (some (comparison, value)))
      = some
          (cs ++ [' '], comparison,
            ' ' :: '`' :: (Json.withoutBackticks value.text.toList ++ ['`'])) := by
  have found (rest : List Char)
      : splitAtComparison none (comparison.token.toList ++ ' ' :: rest)
        = some ([], comparison, ' ' :: rest) := by
    cases comparison <;> rfl
  have blank : Uncompared [' '] := .single rfl rfl
  have front := passed.append blank
  have shape : cs ++ testText (some (comparison, value))
      = (cs ++ [' ']) ++ (comparison.token.toList
          ++ ' ' :: '`' :: (Json.withoutBackticks value.text.toList ++ ['`'])) := by
    simp [testText]
  rw [shape, front, found]
  simp [behind]

theorem balanced_testText (test : Option (Comparison × Json)) : Balanced (testText test) := by
  cases test with
  | none => exact .nil
  | some test =>
      obtain ⟨comparison, value⟩ := test
      have blank : Balanced [' '] := .single rfl
      have token : Balanced comparison.token.toList := by
        have all : comparison.token.toList.all isOrdinary = true := by
          cases comparison <;> rfl
        exact .ofAll (List.all_eq_true.mp all)
      have quoted := Balanced.quoted rfl
        (Json.backtick_notMem_withoutBackticks value.text.toList)
      simp only [testText]
      exact (blank.append token).append (blank.append quoted)

/-- A selector is read from its text. -/
theorem readSelector_text {path : List Step} (each : ∀ step ∈ path, ReadBack step)
    (passed : Uncompared (pathText path)) {test : Option (Comparison × Json)}
    (literal : ∀ comparison value, test = some (comparison, value)
      → Json.read value.text = some value) (source : String)
    : readSelector readPath source (pathText path ++ testText test)
      = .ok (.select path test) := by
  have read := readPath_pathText each
  obtain ⟨first, rest, shown, starts, ends⟩ := pathText_trimmed each
  have filled : (pathText path ++ testText test).isEmpty = false := by
    rw [shown]
    rfl
  unfold readSelector
  rw [filled]
  cases test with
  | none =>
      rw [testText, List.append_nil, passed.splitAtComparison, read]
      rfl
  | some test =>
      obtain ⟨comparison, value⟩ := test
      have left : Text.trim (pathText path ++ [' ']) = pathText path := by
        rw [shown, Text.trim, List.cons_append, Text.trimLeft_cons starts, ← List.cons_append,
          ends.trimRight_append]
        exact List.append_nil _
      have right
          : Text.trim (' ' :: '`' :: (Json.withoutBackticks value.text.toList ++ ['`']))
            = '`' :: (Json.withoutBackticks value.text.toList ++ ['`']) := by
        have dropped (cs : List Char) : Text.trim (' ' :: cs) = Text.trim cs := rfl
        have ends : Text.EndsVisibly ('`' :: (Json.withoutBackticks value.text.toList ++ ['`'])) :=
          .concat rfl ('`' :: Json.withoutBackticks value.text.toList)
        rw [dropped, ends.trim_eq rfl]
      have notEmpty : (pathText path).isEmpty = false := by
        rw [shown]
        rfl
      rw [splitAtComparison_testText passed]
      simp only [left, right, notEmpty, read, literal?_backticks (literal comparison value rfl),
        bind, Except.bind, Bool.false_eq_true, if_false]

/-- A selector is read from what stands in its brackets. -/
theorem readBracket_select {path : List Step} (each : ∀ step ∈ path, ReadBack step)
    (passed : Uncompared (pathText path)) {test : Option (Comparison × Json)}
    (literal : ∀ comparison value, test = some (comparison, value)
      → Json.read value.text = some value) (source : String)
    : readBracket readPath source ('?' :: (pathText path ++ testText test))
      = .ok (.select path test) := by
  obtain ⟨first, rest, shown, starts, ends⟩ := pathText_trimmed each
  have last : Text.EndsVisibly (pathText path ++ testText test) := by
    cases test with
    | none => rwa [testText, List.append_nil, shown]
    | some test =>
        have closed : Text.EndsVisibly (testText (some test)) := by
          simp only [testText]
          exact (Text.EndsVisibly.concat rfl (' ' :: '`' :: _)).behind _
        exact closed.behind _
  have whole
      : Text.trim ('?' :: (pathText path ++ testText test))
        = '?' :: (pathText path ++ testText test) :=
    (last.behind ['?']).trim_eq rfl
  have inside
      : Text.trim (pathText path ++ testText test) = pathText path ++ testText test := by
    rw [shown, List.cons_append] at last ⊢
    exact last.trim_eq starts
  unfold readBracket
  rw [whole]
  simp only [inside]
  exact readSelector_text each passed literal source

/-- Every step that can be written is read back. Witness: induction on the steps that can be
written.
-/
theorem readBack_of_writable {step : Step} (writable : step.Writable) : ReadBack step := by
  induction writable with
  | field named noQuote => exact .field named noQuote
  | index least greatest =>
      refine .bracket (fun first => rfl) rfl (.ofAll (fun c member => ?_)) (fun source => ?_)
      · exact (plain_of_mem_toString member).1
      · exact readBracket_index least greatest readPath source
  | project =>
      have star : Balanced ['*'] := .single rfl
      exact .bracket (fun first => rfl) rfl star (fun source => rfl)
  | flatten => exact .bracket (fun first => rfl) rfl .nil (fun source => rfl)
  | select steps plain literal ih =>
      rename_i path test
      have passed : Passed (pathText path) := by
        refine passed_orHere (passed_texts (fun step member => ?_) true)
        exact passed_text (steps step member) (anyCompares_eq_false_iff.mp plain step member)
      have mark : Balanced ['?'] := .single rfl
      have balanced := mark.append (passed.balanced.append (balanced_testText test))
      refine .bracket (fun first => rfl) rfl balanced (fun source => ?_)
      exact readBracket_select ih passed.uncompared literal source

/-- Key paths round-trip: steps that can be written are read back from their text, and what they
reach is what the path that is read reaches.
-/
theorem parse_pathText {steps : List Step} (writable : ∀ step ∈ steps, step.Writable)
    : ∃ path,
        parse (String.ofList (pathText steps)) = .ok path ∧ path.steps = steps
        ∧ ∀ record, path.resolve record = Step.resolve steps record := by
  have read : readPath (pathText steps) = .ok steps :=
    readPath_pathText (fun step member => readBack_of_writable (writable step member))
  refine ⟨⟨String.ofList (pathText steps), steps⟩, ?_, rfl, fun record => rfl⟩
  rw [parse_eq, String.toList_ofList, read]
  rfl

namespace Sample

/-- Steps with dots, brackets and signs in names, a selector in a selector, and a literal with a
backtick.
-/
def nestedSteps : List Step :=
  [
    .field "a.b",
    .select [.field "c]>", .select [.field "d"] none] (some (.ge, .string "`[")),
    .index (-1),
    .flatten
  ]

end Sample

example
    : String.ofList (pathText Sample.nestedSteps)
      = "\"a.b\"[?\"c]>\"[?\"d\"] >= `\"\\u0060[\"`][-1][]" := by
  decide

theorem writable_nestedSteps : ∀ step ∈ Sample.nestedSteps, step.Writable := by
  have field {name : String} (named : name ≠ "") (noQuote : '"' ∉ name.toList)
      : Step.Writable (.field name) := .field named noQuote
  have inner : Step.Writable (.select [.field "d"] none) := by
    refine .select ?_ rfl (by simp)
    simpa using field (by decide) (by decide)
  have outer
      : Step.Writable
          (.select [.field "c]>", .select [.field "d"] none] (some (.ge, .string "`["))) := by
    refine .select ?_ rfl ?_
    · simp only [List.forall_mem_cons]
      exact ⟨field (by decide) (by decide), inner, by simp⟩
    · rintro comparison value same
      obtain ⟨rfl, rfl⟩ := Prod.mk.inj (Option.some.inj same)
      rfl
  simp only [Sample.nestedSteps, List.forall_mem_cons]
  exact ⟨field (by decide) (by decide), outer, .index (by decide) (by decide), .flatten, by simp⟩

theorem parse_pathText_nested
    : (∀ step ∈ Sample.nestedSteps, step.Writable)
      ∧ ∃ path,
          parse (String.ofList (pathText Sample.nestedSteps)) = .ok path
          ∧ path.steps = Sample.nestedSteps
          ∧ ∀ record, path.resolve record = Step.resolve Sample.nestedSteps record :=
  ⟨writable_nestedSteps, parse_pathText writable_nestedSteps⟩

end KeyPath

end Remediation
