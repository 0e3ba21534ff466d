import Remediation.Filter.Matcher
import Remediation.Filter.Problem
import Remediation.Proofs.Regex.Wrapping

/-! Patterns of value filters. A matcher puts a pattern into a group behind an anchor, while what is
wrong with a filter is looked for in the pattern as it stands; here it is which patterns differ
between the two, and which of them the anchor does not bind.
-/

namespace Remediation

open Regex (ClosesEarly TakesIn Spans)

-----------------------------------------------------------------------------------------
-- Patterns by themselves and in the group
-----------------------------------------------------------------------------------------

namespace Regex

/-- Whether a pattern that is accepted by itself does not fit into the group: a comment takes in the
parenthesis, or the pattern is too deep or too large already. -/
def Outgrows (pattern : String) : Prop :=
  ∃ own tree, compile pattern = .ok own ∧ readTree pattern.toList = some tree
    ∧ (TakesIn pattern.toList ∨ greatestDepth < tree.depth + 2
      ∨ sizeLimit < stateSize + own.size)

/-- A pattern is refused in the group alone if it does not fit. -/
theorem outgrows_iff {pattern : String}
    : Outgrows pattern
      ↔ (∃ own, compile pattern = .ok own)
        ∧ ∃ rejection, compileAtStart pattern = .error rejection := by
  constructor
  · rintro ⟨own, tree, accepted, read, outgrows⟩
    obtain ⟨tree', read', compiled⟩ := compileAtStart_of_compile accepted
    obtain rfl := Option.some.inj (read.symm.trans read')
    refine ⟨⟨own, accepted⟩, ?_⟩
    rw [compiled]
    by_cases first : TakesIn pattern.toList ∨ greatestDepth < tree.depth + 2
    · exact ⟨_, if_pos first⟩
    · have large : sizeLimit < stateSize + own.size := by
        rw [← or_assoc] at outgrows
        exact outgrows.resolve_left first
      exact ⟨_, by rw [if_neg first, if_pos large]⟩
  · rintro ⟨⟨own, accepted⟩, rejection, refused⟩
    obtain ⟨tree, read, compiled⟩ := compileAtStart_of_compile accepted
    refine ⟨own, tree, accepted, read, ?_⟩
    rw [← or_assoc]
    refine Decidable.byContradiction (fun fits => ?_)
    obtain ⟨first, small⟩ := not_or.mp fits
    rw [compiled, if_neg first, if_neg small] at refused
    cases refused

/-- A pattern is refused by itself alone if it closes the group early. -/
theorem closesEarly_iff {pattern : String} {regex : Regex}
    (accepted : compileAtStart pattern = .ok regex)
    : (∃ behind, ClosesEarly pattern.toList behind)
      ↔ ∃ rejection, compile pattern = .error rejection := by
  constructor
  · rintro ⟨behind, early⟩
    exact ⟨.malformed, compile_of_closesEarly early⟩
  · rintro ⟨rejection, refused⟩
    rcases compile_of_compileAtStart accepted with ⟨own, bare, -⟩ | ⟨behind, _, _, early, -⟩
    · rw [refused] at bare
      cases bare
    · exact ⟨behind, early⟩

end Regex

-----------------------------------------------------------------------------------------
-- Reported patterns and patterns with a fault
-----------------------------------------------------------------------------------------

namespace ValueFilter

/-- Whether the pattern of a filter is reported before any record is matched. -/
def ReportsPattern (filter : ValueFilter) : Prop :=
  ∃ key rejection, .invalidPattern key rejection ∈ filter.problems

/-- Whether the pattern of the compiled filter has a fault. -/
def HasPatternFault (filter : ValueFilter) : Prop :=
  ∃ fault, (ValueMatcher.compile filter).pattern = .error fault

/-- Whether a pattern is reported that works: it closes the group early and goes on so that the
group's own parenthesis closes another one. -/
def FalselyReported (filter : ValueFilter) : Prop :=
  filter.operator = .regex
    ∧ ∃ pattern behind regex, filter.value = some (.string pattern)
      ∧ ClosesEarly pattern.toList behind ∧ Regex.compileAtStart pattern = .ok regex

/-- Whether a pattern is not reported that does not work: it is no text, or does not fit into the
group. -/
def Unreported (filter : ValueFilter) : Prop :=
  filter.operator = .regex
    ∧ ((∀ pattern, filter.value ≠ some (.string pattern))
      ∨ ∃ pattern, filter.value = some (.string pattern) ∧ Regex.Outgrows pattern)

theorem malformedPath_mem_problems {filter : ValueFilter} {malformed : MalformedPath}
    : .malformedPath malformed ∈ filter.problems
      ↔ KeyPath.parse filter.key = .error malformed := by
  unfold problems pathProblems
  rw [List.mem_append]
  constructor
  · rintro (path | pattern)
    · split at path
      · cases path
      · rename_i same
        cases List.mem_singleton.mp path
        exact same
    · split at pattern
      · split at pattern
        · cases pattern
        · cases List.mem_singleton.mp pattern
      · cases pattern
  · intro same
    rw [same]
    exact .inl (List.mem_singleton_self _)

theorem reportsPattern_iff {filter : ValueFilter}
    : filter.ReportsPattern
      ↔ filter.operator = .regex
        ∧ ∃ pattern rejection, filter.value = some (.string pattern)
          ∧ Regex.compile pattern = .error rejection := by
  unfold ReportsPattern problems pathProblems
  simp only [List.mem_append]
  constructor
  · rintro ⟨key, rejection, path | reported⟩
    · split at path
      · cases path
      · cases List.mem_singleton.mp path
    · split at reported
      · rename_i pattern operator value
        split at reported
        · cases reported
        · rename_i refused
          exact ⟨operator, pattern, _, value, refused⟩
      · cases reported
  · rintro ⟨operator, pattern, rejection, value, refused⟩
    refine ⟨filter.key, rejection, .inr ?_⟩
    rw [operator, value]
    simp only [refused]
    exact List.mem_singleton_self _

theorem compilePattern_error_iff {expected : Json}
    : (∃ fault, ValueMatcher.compilePattern expected = .error fault)
      ↔ (∀ pattern, expected ≠ .string pattern)
        ∨ ∃ pattern rejection, expected = .string pattern
          ∧ Regex.compileAtStart pattern = .error rejection := by
  unfold ValueMatcher.compilePattern
  split
  · rename_i pattern
    cases compiled : Regex.compileAtStart pattern <;> simp [compiled]
  · rename_i other
    simp only [Except.error.injEq, exists_eq', true_iff]
    exact .inl other

theorem hasPatternFault_iff {filter : ValueFilter}
    : filter.HasPatternFault
      ↔ filter.operator = .regex
        ∧ ((∀ pattern, filter.value ≠ some (.string pattern))
          ∨ ∃ pattern rejection, filter.value = some (.string pattern)
            ∧ Regex.compileAtStart pattern = .error rejection) := by
  have texts : ∀ pattern, filter.value.getD .null = .string pattern
      ↔ filter.value = some (.string pattern) := by
    intro pattern
    cases filter.value <;> simp
  unfold HasPatternFault ValueMatcher.compile
  simp only
  split
  · rename_i operator
    rw [compilePattern_error_iff]
    simp only [ne_eq, texts, operator, true_and]
  · rename_i operator
    simp [operator]

/-- A pattern is reported without a fault exactly if it closes the group early and works there, and
has a fault that is not reported exactly if it is no text or outgrows the group. -/
theorem reportsPattern_and_hasPatternFault (filter : ValueFilter)
    : (filter.ReportsPattern ∧ ¬filter.HasPatternFault ↔ filter.FalselyReported)
      ∧ (¬filter.ReportsPattern ∧ filter.HasPatternFault ↔ filter.Unreported) := by
  rw [reportsPattern_iff, hasPatternFault_iff]
  refine ⟨⟨?_, ?_⟩, ⟨?_, ?_⟩⟩
  · rintro ⟨⟨operator, pattern, rejection, value, refused⟩, works⟩
    cases compiled : Regex.compileAtStart pattern with
    | error fault => exact absurd ⟨operator, .inr ⟨pattern, fault, value, compiled⟩⟩ works
    | ok regex =>
        obtain ⟨behind, early⟩ := (Regex.closesEarly_iff compiled).mpr ⟨rejection, refused⟩
        exact ⟨operator, pattern, behind, regex, value, early, compiled⟩
  · rintro ⟨operator, pattern, behind, regex, value, early, accepted⟩
    obtain ⟨rejection, refused⟩ := (Regex.closesEarly_iff accepted).mp ⟨behind, early⟩
    refine ⟨⟨operator, pattern, rejection, value, refused⟩, ?_⟩
    rintro ⟨-, noText | ⟨other, fault, value', refused'⟩⟩
    · exact noText pattern value
    · cases value.symm.trans value'
      cases accepted.symm.trans refused'
  · rintro ⟨silent, operator, noText | ⟨pattern, fault, value, refused⟩⟩
    · exact ⟨operator, .inl noText⟩
    · refine ⟨operator, .inr ⟨pattern, value, Regex.outgrows_iff.mpr ⟨?_, fault, refused⟩⟩⟩
      cases compiled : Regex.compile pattern with
      | ok own => exact ⟨own, rfl⟩
      | error rejection => exact absurd ⟨operator, pattern, rejection, value, compiled⟩ silent
  · rintro ⟨operator, noText | ⟨pattern, value, outgrows⟩⟩
    · refine ⟨?_, operator, .inl noText⟩
      rintro ⟨-, pattern, -, value, -⟩
      exact noText pattern value
    · obtain ⟨⟨own, accepted⟩, fault, refused⟩ := Regex.outgrows_iff.mp outgrows
      refine ⟨?_, operator, .inr ⟨pattern, fault, value, refused⟩⟩
      rintro ⟨-, other, rejection, value', refused'⟩
      cases value.symm.trans value'
      cases accepted.symm.trans refused'

end ValueFilter

-----------------------------------------------------------------------------------------
-- Faults that come up when records are matched
-----------------------------------------------------------------------------------------

namespace ValueMatcher

variable {matcher : ValueMatcher} {record actual : Json}

theorem resolved_fault {fault : Fault} (faulty : matcher.resolved record = .error fault)
    : (∃ malformed, matcher.path = .error malformed ∧ fault = .malformedPath malformed)
      ∨ ∃ operation found, fault = .badOperand operation found := by
  unfold resolved at faulty
  split at faulty
  · rename_i malformed path
    cases faulty
    exact .inl ⟨malformed, path, rfl⟩
  · split at faulty
    · cases faulty
    · cases faulty
    · split at faulty
      · cases faulty
      · cases faulty
        exact .inr ⟨_, _, rfl⟩

theorem ordered_fault {test : Ordering → Bool} {expected : Json} {fault : Fault}
    (faulty : ordered test actual expected = .error fault)
    : ∃ values, fault = .unordered values := by
  unfold ordered at faulty
  split at faulty
  · cases faulty
  · cases faulty
    exact ⟨_, rfl⟩

theorem isMember_fault {expected : Json} {fault : Fault}
    (faulty : isMember actual expected = .error fault)
    : ∃ operation found, fault = .badOperand operation found := by
  unfold isMember at faulty
  split at faulty
  · cases faulty
  · cases faulty
    exact ⟨_, _, rfl⟩

theorem holds_fault {expected : Json} {fault : Fault}
    (faulty : holds actual expected = .error fault)
    : ∃ values, fault = .unordered values := by
  unfold holds at faulty
  split at faulty
  · cases faulty
  · cases faulty
  · cases faulty
  · cases faulty
    exact ⟨_, rfl⟩

theorem matchesPattern_fault {fault : Fault}
    (faulty : matcher.matchesPattern actual = .error fault)
    : matcher.pattern = .error fault ∨ ∃ operation found, fault = .badOperand operation found := by
  unfold matchesPattern at faulty
  split at faulty
  · rename_i broken
    cases faulty
    exact .inl broken
  · split at faulty
    · cases faulty
    · cases faulty
      exact .inr ⟨_, _, rfl⟩

theorem compare_fault {fault : Fault} (faulty : matcher.compare actual = .error fault)
    : matcher.operator = .regex ∧ matcher.pattern = .error fault
      ∨ (∃ values, fault = .unordered values)
      ∨ ∃ operation found, fault = .badOperand operation found := by
  unfold compare at faulty
  split at faulty
  case h_1 | h_2 | h_11 | h_12 | h_13 | h_14 => cases faulty
  case h_3 | h_4 | h_5 | h_6 => exact .inr (.inl (ordered_fault faulty))
  case h_7 => exact .inr (.inr (isMember_fault faulty))
  case h_8 =>
    cases found : isMember actual matcher.expected with
    | ok answer =>
        rw [found] at faulty
        cases faulty
    | error operand =>
        rw [found] at faulty
        cases faulty
        exact .inr (.inr (isMember_fault found))
  case h_9 => exact .inr (.inl (holds_fault faulty))
  case h_10 operator => exact (matchesPattern_fault faulty).imp (⟨operator, ·⟩) .inr

/-- What keeps a value filter from an answer: its path, its pattern, or a value of a type that it is
not for. -/
theorem evaluate_fault {fault : Fault} (faulty : matcher.evaluate record = .error fault)
    : (∃ malformed, matcher.path = .error malformed ∧ fault = .malformedPath malformed)
      ∨ matcher.operator = .regex ∧ matcher.pattern = .error fault
      ∨ (∃ values, fault = .unordered values)
      ∨ ∃ operation found, fault = .badOperand operation found := by
  unfold evaluate at faulty
  split at faulty
  · rename_i resolves
    cases faulty
    exact (resolved_fault resolves).imp_right (fun operand => .inr (.inr operand))
  · cases faulty
  · exact .inr (compare_fault faulty)

/-- A pattern with a fault comes up wherever there is a value. -/
theorem evaluate_eq_error_of_pattern {fault : Fault} (operator : matcher.operator = .regex)
    (faulty : matcher.pattern = .error fault) (found : matcher.resolved record = .ok (some actual))
    : matcher.evaluate record = .error fault := by
  unfold evaluate compare matchesPattern
  simp only [found, operator, faulty]

/-- A filter whose pattern has a fault accepts no record. -/
theorem accepts_eq_false_of_pattern {fault : Fault} (operator : matcher.operator = .regex)
    (faulty : matcher.pattern = .error fault) (record : Json)
    : matcher.accepts record = false := by
  unfold accepts
  cases found : matcher.resolved record with
  | error other => simp only [evaluate, found]
  | ok value =>
      cases value with
      | none =>
          simp only [evaluate, found, operator]
          rfl
      | some actual => rw [evaluate_eq_error_of_pattern operator faulty found]

/-- A filter whose path has a fault accepts no record. -/
theorem accepts_eq_false_of_path {malformed : MalformedPath}
    (faulty : matcher.path = .error malformed) (record : Json)
    : matcher.accepts record = false := by
  unfold accepts evaluate resolved
  rw [faulty]

end ValueMatcher

namespace ValueFilter

open ValueMatcher (compile)

theorem operator_of_hasPatternFault {filter : ValueFilter} (faulty : filter.HasPatternFault)
    : (compile filter).operator = .regex :=
  (hasPatternFault_iff.mp faulty).1

theorem pattern_of_hasPatternFault {filter : ValueFilter} (faulty : filter.HasPatternFault)
    : ∃ pattern fault, (compile filter).pattern = .error (.invalidPattern pattern fault) := by
  obtain ⟨fault, same⟩ := faulty
  rw [same]
  unfold compile at same
  simp only at same
  split at same
  · unfold ValueMatcher.compilePattern at same
    split at same
    · split at same
      · cases same
      · cases same
        exact ⟨_, _, rfl⟩
    · cases same
      exact ⟨_, _, rfl⟩
  · cases same

/-- A path with a fault is reported. -/
theorem malformedPath_mem_of_evaluate {filter : ValueFilter} {record : Json}
    {malformed : MalformedPath}
    (faulty : (compile filter).evaluate record = .error (.malformedPath malformed))
    : .malformedPath malformed ∈ filter.problems := by
  rcases ValueMatcher.evaluate_fault faulty with
    ⟨other, path, same⟩ | ⟨-, pattern⟩ | ⟨values, same⟩ | ⟨operation, found, same⟩
  · cases same
    exact malformedPath_mem_problems.mpr path
  · obtain ⟨text, fault, same⟩ := pattern_of_hasPatternFault ⟨_, pattern⟩
    cases pattern.symm.trans same
  · cases same
  · cases same

/-- A pattern with a fault that comes up is one that the compiled filter has. -/
theorem hasPatternFault_of_evaluate {filter : ValueFilter} {record : Json} {pattern : String}
    {fault : PatternFault}
    (faulty : (compile filter).evaluate record = .error (.invalidPattern pattern fault))
    : filter.HasPatternFault := by
  rcases ValueMatcher.evaluate_fault faulty with
    ⟨malformed, path, same⟩ | ⟨-, broken⟩ | ⟨values, same⟩ | ⟨operation, found, same⟩
  · cases same
  · exact ⟨_, broken⟩
  · cases same
  · cases same

/-- A filter that accepts a record has no fault. -/
theorem no_faults_of_accepts {filter : ValueFilter} {record : Json}
    (accepted : (compile filter).accepts record = true)
    : (∀ malformed, .malformedPath malformed ∉ filter.problems) ∧ ¬filter.HasPatternFault := by
  constructor
  · intro malformed reported
    have path := malformedPath_mem_problems.mp reported
    rw [ValueMatcher.accepts_eq_false_of_path path] at accepted
    cases accepted
  · intro faulty
    obtain ⟨pattern, fault, broken⟩ := pattern_of_hasPatternFault faulty
    rw [ValueMatcher.accepts_eq_false_of_pattern (operator_of_hasPatternFault faulty) broken]
      at accepted
    cases accepted

theorem problems_eq_nil {filter : ValueFilter}
    (sound : ∀ malformed, .malformedPath malformed ∉ filter.problems)
    (silent : ¬filter.ReportsPattern)
    : filter.problems = [] := by
  refine List.eq_nil_iff_forall_not_mem.mpr (fun problem member => ?_)
  cases problem with
  | malformedPath malformed => exact sound malformed member
  | invalidPattern key rejection => exact silent ⟨key, rejection, member⟩

/-- What is reported of a value filter and what comes up when records are matched. Paths agree; a
pattern is reported without a fault exactly if it closes the group early and works there, and has a
fault that is not reported exactly if it is no text or outgrows the group. So what comes up was
reported, apart from the second kind, and what was reported accepts nothing, apart from the
first. -/
theorem problems_and_faults (filter : ValueFilter)
    : (∀ malformed,
        .malformedPath malformed ∈ filter.problems ↔ (compile filter).path = .error malformed)
      ∧ (filter.ReportsPattern ∧ ¬filter.HasPatternFault ↔ filter.FalselyReported)
      ∧ (¬filter.ReportsPattern ∧ filter.HasPatternFault ↔ filter.Unreported)
      ∧ (∀ record malformed,
          (compile filter).evaluate record = .error (.malformedPath malformed)
            → .malformedPath malformed ∈ filter.problems)
      ∧ (∀ record pattern fault,
          (compile filter).evaluate record = .error (.invalidPattern pattern fault)
            → filter.ReportsPattern ∨ filter.Unreported)
      ∧ (∀ record actual, filter.HasPatternFault
          → (compile filter).resolved record = .ok (some actual)
            → ∃ pattern fault,
                (compile filter).evaluate record = .error (.invalidPattern pattern fault))
      ∧ ∀ record, (compile filter).accepts record = true
          → filter.problems = []
            ∨ filter.FalselyReported
              ∧ ∀ malformed, .malformedPath malformed ∉ filter.problems := by
  obtain ⟨falsely, silently⟩ := filter.reportsPattern_and_hasPatternFault
  refine ⟨fun _ => malformedPath_mem_problems, falsely, silently,
    fun _ _ => malformedPath_mem_of_evaluate, ?_, ?_, ?_⟩
  · intro record pattern fault faulty
    have broken := hasPatternFault_of_evaluate faulty
    by_cases reported : filter.ReportsPattern
    · exact .inl reported
    · exact .inr (silently.mp ⟨reported, broken⟩)
  · intro record actual faulty found
    obtain ⟨pattern, fault, broken⟩ := pattern_of_hasPatternFault faulty
    exact ⟨pattern, fault, ValueMatcher.evaluate_eq_error_of_pattern
      (operator_of_hasPatternFault faulty) broken found⟩
  · intro record accepted
    obtain ⟨sound, works⟩ := no_faults_of_accepts accepted
    by_cases reported : filter.ReportsPattern
    · exact .inr ⟨falsely.mp ⟨reported, works⟩, sound⟩
    · exact .inl (problems_eq_nil sound reported)

namespace Sample

/-- A filter on names. -/
def named (pattern : Json) : ValueFilter := ⟨"name", .regex, some pattern, none⟩

def record (name : String) : Json := .object [("name", .string name)]

theorem parse_name : KeyPath.parse "name" = .ok ⟨"name", [.field "name"]⟩ := by rfl

theorem resolved_name (pattern : Json) (name : String)
    : (compile (named pattern)).resolved (record name) = .ok (some (.string name)) := by
  have path : (compile (named pattern)).path = .ok ⟨"name", [.field "name"]⟩ := parse_name
  unfold ValueMatcher.resolved
  rw [path]
  simp [KeyPath.find?, KeyPath.resolve, Step.resolve, Json.fields?, record, Table.get?, compile,
    named]

theorem compileAtStart_early
    : Regex.compileAtStart "a)|(b"
      = .ok (.alt (.seq (.look .textStart) (.chars [(97, 97)])) (.chars [(98, 98)])) := by
  rfl

theorem closesEarly_early : ClosesEarly "a)|(b".toList "|(b".toList :=
  ⟨⟨false, [], [], [.literal ⟨'a', false⟩]⟩, by rfl⟩

theorem outgrows_comment : Regex.Outgrows "(?x)a # c" := by
  have takes : TakesIn "(?x)a # c".toList := by decide +kernel
  have accepted : Regex.compile "(?x)a # c" = .ok (.seq .empty (.chars [(97, 97)])) := by rfl
  obtain ⟨tree, read, -⟩ := Regex.compileAtStart_of_compile accepted
  exact ⟨_, tree, accepted, read, .inl takes⟩

end Sample

open Sample in
/-- A pattern that is reported and accepts a record, and two that are not reported and have a fault:
one whose comment takes in the parenthesis, and one that is a number. -/
theorem problems_and_faults_samples
    : (named (.string "a)|(b")).ReportsPattern
      ∧ (compile (named (.string "a)|(b"))).accepts (record "a") = true
      ∧ (¬(named (.string "(?x)a # c")).ReportsPattern
        ∧ ∃ pattern fault,
            (compile (named (.string "(?x)a # c"))).evaluate (record "a")
              = .error (.invalidPattern pattern fault))
      ∧ ¬(named (.ofInt 5)).ReportsPattern
      ∧ ∃ pattern fault,
          (compile (named (.ofInt 5))).evaluate (record "a")
            = .error (.invalidPattern pattern fault) := by
  obtain ⟨-, falsely, -⟩ := problems_and_faults (named (.string "a)|(b"))
  obtain ⟨-, -, taken, -, -, comment, -⟩ := problems_and_faults (named (.string "(?x)a # c"))
  obtain ⟨-, -, number, -, -, five, -⟩ := problems_and_faults (named (.ofInt 5))
  have reported := falsely.mpr ⟨rfl, _, _, _, rfl, closesEarly_early, compileAtStart_early⟩
  have inComment := taken.mpr ⟨rfl, .inr ⟨_, rfl, outgrows_comment⟩⟩
  have noText := number.mpr ⟨rfl, .inl (fun pattern => by simp [named, Json.ofInt])⟩
  refine ⟨reported.1, ?_, ⟨inComment.1, comment _ _ inComment.2 (resolved_name _ _)⟩, noText.1,
    five _ _ noText.2 (resolved_name _ _)⟩
  have pattern : (compile (named (.string "a)|(b"))).pattern
      = .ok (.alt (.seq (.look .textStart) (.chars [(97, 97)])) (.chars [(98, 98)])) := by
    rfl
  unfold ValueMatcher.accepts ValueMatcher.evaluate ValueMatcher.compare
    ValueMatcher.matchesPattern
  rw [resolved_name, pattern]
  rfl

end ValueFilter

-----------------------------------------------------------------------------------------
-- Where accepted patterns match
-----------------------------------------------------------------------------------------

namespace ValueMatcher

theorem compileAtStart_of_pattern {key pattern : String} {conversion : Option Conversion}
    {regex : Regex}
    (accepted : (compile ⟨key, .regex, some (.string pattern), conversion⟩).pattern = .ok regex)
    : Regex.compileAtStart pattern = .ok regex := by
  unfold compile compilePattern at accepted
  simp only [Option.getD_some, if_true] at accepted
  split at accepted
  · rename_i same
    rw [same, Except.ok.inj accepted]
  · cases accepted

/-- Where an accepted pattern matches. A pattern that is accepted by itself matches from the start
of the value alone. Any other one closes the group early; of what is then read, the first branch
matches from the start alone and the others anywhere. Without a bar behind the early parenthesis
there are no others. -/
theorem evaluate_pattern {key pattern : String} {conversion : Option Conversion} {regex : Regex}
    (accepted : (compile ⟨key, .regex, some (.string pattern), conversion⟩).pattern = .ok regex)
    : (∀ record text,
        (compile ⟨key, .regex, some (.string pattern), conversion⟩).resolved record
            = .ok (some (.string text))
          → (compile ⟨key, .regex, some (.string pattern), conversion⟩).evaluate record
              = .ok (regex.isMatch text.toList))
      ∧ ((∃ own, Regex.compile pattern = .ok own
            ∧ regex = .seq (.look .textStart) own
            ∧ ∀ text, regex.isMatch text = true ↔ ∃ stop, Spans text own 0 stop)
        ∨ ∃ behind first others, ClosesEarly pattern.toList behind
            ∧ regex = Regex.alts (.seq (.look .textStart) first :: others)
            ∧ ('|' ∉ behind → others = [])
            ∧ ∀ text, regex.isMatch text = true
                ↔ (∃ stop, Spans text first 0 stop)
                  ∨ ∃ other ∈ others, Regex.isMatch other text = true) := by
  constructor
  · intro record text found
    unfold evaluate compare matchesPattern
    rw [found, accepted]
    rfl
  · rcases Regex.compile_of_compileAtStart (compileAtStart_of_pattern accepted) with
      ⟨own, bare, rfl⟩ | ⟨behind, first, others, early, rfl, single⟩
    · refine .inl ⟨own, bare, rfl, fun text => ?_⟩
      refine Iff.trans (Regex.isMatch_alts_textStart : (Regex.alts [_]).isMatch text = true ↔ _) ?_
      simp
    · exact .inr ⟨behind, first, others, early, rfl, single,
        fun text => Regex.isMatch_alts_textStart⟩

open ValueFilter.Sample in
/-- A pattern whose second branch no anchor binds is found behind the start of a name, where what it
matches from the start is not. -/
theorem evaluate_pattern_secondBranch
    : (compile (named (.string "a)|(b"))).pattern
        = .ok (.alt (.seq (.look .textStart) (.chars [(97, 97)])) (.chars [(98, 98)]))
      ∧ (compile (named (.string "a)|(b"))).evaluate (record "xb") = .ok true
      ∧ (∃ behind, ClosesEarly "a)|(b".toList behind ∧ '|' ∈ behind)
      ∧ ¬∃ stop, Spans "xb".toList (.chars [(97, 97)]) 0 stop := by
  have accepted : (compile (named (.string "a)|(b"))).pattern
      = .ok (.alt (.seq (.look .textStart) (.chars [(97, 97)])) (.chars [(98, 98)])) := by
    rfl
  obtain ⟨matched, bound | ⟨behind, first, others, early, same, single, -⟩⟩ :=
    evaluate_pattern accepted
  · obtain ⟨own, bare, -⟩ := bound
    cases bare
  · refine ⟨accepted, ?_, ⟨behind, early, ?_⟩, ?_⟩
    · exact matched (record "xb") "xb" (resolved_name _ _)
    · refine Decidable.byContradiction (fun noBar => ?_)
      rw [single noBar] at same
      cases same
    · rintro ⟨stop, ⟨c, front, member⟩, -⟩
      cases front
      cases member

end ValueMatcher

end Remediation
