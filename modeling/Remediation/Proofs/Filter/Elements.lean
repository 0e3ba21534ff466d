import Remediation.Filter.Matcher
import Remediation.Proofs.Filter.Opposites
import Remediation.Proofs.KeyPath.Composition
import Remediation.Proofs.KeyPath.Selections

/-! Two ways to ask whether a list has an element on which a comparison holds: a filter on the
elements of the list, and a filter for what is not empty on a path that selects these elements. The
first one compares as filters do, where what cannot be compared is a fault, the second one as
selectors do, and then leaves out nulls.
-/

namespace Remediation

/-- The operator of a filter that compares as a selector does. -/
def Comparison.operator : Comparison → Operator
  | .eq => .eq
  | .ne => .ne
  | .ge => .ge
  | .le => .le
  | .gt => .gt
  | .lt => .lt

-----------------------------------------------------------------------------------------
-- One element
-----------------------------------------------------------------------------------------

namespace ValueMatcher

/-- An order that a test accepts is one on which the comparison of a selector holds; where a filter
has a fault since there is no order, the comparison does not hold.
-/
theorem ordered_holds (test : Ordering → Bool) (actual expected : Json)
    : ordered test actual expected = .ok (Comparison.holds.ordered actual expected test)
      ∨ (∃ fault, ordered test actual expected = .error fault)
        ∧ Comparison.holds.ordered actual expected test = false := by
  unfold ordered Comparison.holds.ordered
  cases actual.order expected with
  | ok order => exact .inl rfl
  | error values => exact .inr ⟨⟨_, rfl⟩, rfl⟩

/-- A filter answers what the comparison of a selector does, or has a fault where that does not
hold.
-/
theorem compare_holds {matcher : ValueMatcher} {comparison : Comparison}
    (compares : matcher.operator = comparison.operator) (actual : Json)
    : matcher.compare actual = .ok (comparison.holds actual matcher.expected)
      ∨ (∃ fault, matcher.compare actual = .error fault)
        ∧ comparison.holds actual matcher.expected = false := by
  unfold compare
  rw [compares]
  cases comparison with
  | eq => exact .inl rfl
  | ne => exact .inl rfl
  | gt => exact ordered_holds (· == .gt) actual matcher.expected
  | ge => exact ordered_holds (· != .lt) actual matcher.expected
  | lt => exact ordered_holds (· == .lt) actual matcher.expected
  | le => exact ordered_holds (· != .gt) actual matcher.expected

/-- A filter that compares matches the elements that a selector with its path keeps, but for those on
which the path reaches null: there a selector compares, and a filter is silent.
-/
theorem accepts_eq_keeps {matcher : ValueMatcher} {path : KeyPath} {comparison : Comparison}
    (read : matcher.path = .ok path) (compares : matcher.operator = comparison.operator)
    (unconverted : matcher.conversion = none) {item : Json}
    (noNull : path.resolve item ≠ some .null)
    : matcher.accepts item
      = Step.keeps path.steps (some (comparison, matcher.expected)) item := by
  rw [Step.keeps, ← KeyPath.resolve]
  cases reached : path.resolve item with
  | none =>
      have missing := KeyPath.find?_eq_none_iff.mpr (.inl reached)
      rw [accepts_of_ok (evaluate_of_missing read missing), compares]
      cases comparison <;> rfl
  | some found =>
      have there : path.find? item = some found := by
        unfold KeyPath.find?
        rw [reached]
        cases found with
        | null => exact absurd reached noNull
        | bool | number | string | array | object => rfl
      have compared := evaluate_of_found read unconverted there
      rcases compare_holds compares found with answered | ⟨⟨fault, faulty⟩, fails⟩
      · exact accepts_of_ok (compared.trans answered)
      · rw [accepts_of_error (compared.trans faulty)]
        exact fails.symm

end ValueMatcher

-----------------------------------------------------------------------------------------
-- The elements of a list
-----------------------------------------------------------------------------------------

/-- Whether a path leads to a list with an element that a selector keeps. -/
def Step.keepsSome (list path : List Step) (test : Comparison × Json) (record : Json) : Bool :=
  match (resolve list record).bind Json.items? with
  | some items => !(items.filter (keeps path (some test))).isEmpty
  | none => false

theorem Step.keepsSome_iff {list path : List Step} {test : Comparison × Json} {record : Json}
    : keepsSome list path test record = true
      ↔ ∃ items,
          resolve list record = some (.array items)
          ∧ ∃ item ∈ items, keeps path (some test) item = true := by
  unfold keepsSome
  cases resolve list record with
  | none => simp
  | some found => cases found <;> simp [Json.items?]

/-- Null is kept only where the path of the selector reaches null from it. -/
theorem Step.resolve_null_of_keeps {path : List Step} {test : Comparison × Json}
    (kept : keeps path (some test) .null = true)
    : resolve path .null = some .null := by
  obtain ⟨comparison, expected⟩ := test
  rw [keeps] at kept
  cases reached : resolve path .null with
  | none =>
      rw [reached] at kept
      cases kept
  | some found => rw [resolve_stopsAtNull path found reached]

/-- A path with a selector behind it reaches the elements that the selector keeps. -/
theorem Step.resolve_selected {list path : List Step} {test : Comparison × Json} {record : Json}
    (plain : ∀ step ∈ list, step.projects = false)
    (noNull : ∀ items, resolve list record = some (.array items)
      → ∀ item ∈ items, resolve path item ≠ some .null)
    : resolve (list ++ [.select path (some test)]) record
      = ((resolve list record).bind Json.items?).map (fun items =>
          .array (items.filter (keeps path (some test)))) := by
  rw [resolve_append_of_plain plain]
  cases reached : resolve list record with
  | none => rfl
  | some found =>
      cases found with
      | null | bool | number | string | object => simp [resolve, Json.items?]
      | array items =>
          have kept : ∀ item ∈ items.filter (keeps path (some test)), item ≠ .null := by
            rintro item member rfl
            obtain ⟨member, kept⟩ := List.mem_filter.mp member
            exact noNull items reached .null member (resolve_null_of_keeps kept)
          simp [resolve, Json.items?, projected_here kept]

section Lists

variable {listKey elementKey : String} {list element : KeyPath} {comparison : Comparison}
  {expected record : Json}
  (noNull : ∀ items, list.resolve record = some (.array items)
    → ∀ item ∈ items, element.resolve item ≠ some .null)

include noNull

/-- A filter on the elements of a list matches if a selector keeps one of them. -/
theorem Matcher.accepts_elements (readList : KeyPath.parse listKey = .ok list)
    (readElement : KeyPath.parse elementKey = .ok element)
    : (compileAlone
          (.listItem listKey [.value ⟨elementKey, comparison.operator, some expected, none⟩]
            none)).accepts record
      = Step.keepsSome list.steps element.steps (comparison, expected) record := by
  have one (item : Json) (notNull : element.resolve item ≠ some .null)
      : acceptsAll
          (compileAttributes [.value ⟨elementKey, comparison.operator, some expected, none⟩]) item
        = Step.keeps element.steps (some (comparison, expected)) item := by
    simp only [compileAttributes, compile, acceptsAll, accepts, Bool.and_true]
    exact ValueMatcher.accepts_eq_keeps readElement rfl rfl notNull
  simp only [compileAlone, compile, accepts, readList, Step.keepsSome]
  rw [← KeyPath.resolve]
  cases reached : list.resolve record with
  | none => rfl
  | some found =>
      cases found with
      | null | bool | number | string | object => rfl
      | array items =>
          have kept := List.filter_congr (fun item member =>
            one item (noNull items reached item member))
          simp only [kept, Option.bind_some, Json.items?]

/-- What a path with a selector behind its last step reaches is not empty if the selector keeps an
element.
-/
theorem Matcher.accepts_selection {key : String} {selected : KeyPath}
    (readKey : KeyPath.parse key = .ok selected)
    (plain : ∀ step ∈ list.steps, step.projects = false)
    (steps : selected.steps = list.steps ++ [.select element.steps (some (comparison, expected))])
    : (compileAlone (.value ⟨key, .notEmpty, none, none⟩)).accepts record
      = Step.keepsSome list.steps element.steps (comparison, expected) record := by
  have reaches
      : selected.resolve record
        = ((list.resolve record).bind Json.items?).map (fun items =>
            .array (items.filter (Step.keeps element.steps (some (comparison, expected))))) := by
    rw [KeyPath.resolve, steps]
    exact Step.resolve_selected plain noNull
  simp only [compileAlone, compile, accepts, Step.keepsSome]
  rw [← KeyPath.resolve]
  cases there : (list.resolve record).bind Json.items? with
  | none =>
      rw [there, Option.map_none] at reaches
      have missing := KeyPath.find?_eq_none_iff.mpr (.inl reaches)
      exact ValueMatcher.accepts_of_ok (ValueMatcher.evaluate_of_missing readKey missing)
  | some items =>
      rw [there, Option.map_some] at reaches
      have found
          : selected.find? record
            = some
                (.array
                  (items.filter (Step.keeps element.steps (some (comparison, expected))))) := by
        rw [KeyPath.find?, reaches]
      exact ValueMatcher.accepts_of_ok (ValueMatcher.evaluate_of_found readKey rfl found)

end Lists

-----------------------------------------------------------------------------------------
-- The selection as text
-----------------------------------------------------------------------------------------

namespace KeyPath

/-- A text in backticks. -/
def inBackticks (text : String) : String :=
  "`" ++ text ++ "`"

theorem toList_inBackticks (text : String)
    : (inBackticks text).toList = '`' :: (text.toList ++ ['`']) := by
  simp [inBackticks, String.toList_append]

theorem literal?_inBackticks (text : String)
    : literal? (inBackticks text).toList = Json.read text := by
  rw [toList_inBackticks, literal?_ticked, String.ofList_toList]

theorem against_inBackticks {text : String} (closed : '`' ∉ text.toList)
    : Against (inBackticks text) := by
  have ends : Text.EndsVisibly (inBackticks text).toList := by
    rw [toList_inBackticks]
    exact .concat rfl ('`' :: text.toList)
  constructor
  · rw [toList_inBackticks] at ends ⊢
    exact ends.trim_eq rfl
  · rw [toList_inBackticks]
    exact .quoted rfl closed
  · simp [toList_inBackticks]

end KeyPath

open KeyPath (Leads Compared selection inBackticks)

/-- The two ways to ask whether a list has an element agree: a filter on the elements of the list that
compares one key of theirs with a value matches the records that the filter for what is not empty
matches on the path of the list with a selector for these elements behind it. This holds of every
text of such a path, and the texts of the two keys with the value in backticks make one. Where the
path of the list does not lead to a list neither matches, and an element that cannot be compared
counts for neither; only null, which a selector compares and a filter does not, is left out.
-/
theorem Matcher.accepts_comparing {listKey elementKey : String} {list element : KeyPath}
    (readList : KeyPath.parse listKey = .ok list)
    (readElement : KeyPath.parse elementKey = .ok element)
    (plain : ∀ step ∈ list.steps, step.projects = false) (comparison : Comparison)
    (expected record : Json)
    (noNull : ∀ items, list.resolve record = some (.array items)
      → ∀ item ∈ items, element.resolve item ≠ some .null)
    : let elements := compileAlone
        (.listItem listKey [.value ⟨elementKey, comparison.operator, some expected, none⟩] none)
      (elements.accepts record = true
        ↔ ∃ items,
            list.resolve record = some (.array items)
            ∧ ∃ item ∈ items,
                Step.keeps element.steps (some (comparison, expected)) item = true)
      ∧ (∀ key selected,
        KeyPath.parse key = .ok selected
        → selected.steps = list.steps ++ [.select element.steps (some (comparison, expected))]
        → elements.accepts record
          = (compileAlone (.value ⟨key, .notEmpty, none, none⟩)).accepts record)
      ∧ (Leads listKey list → Compared elementKey element
        → ∀ literal, Json.read literal = some expected → '`' ∉ literal.toList
        → let key := selection listKey elementKey comparison (inBackticks literal)
          KeyPath.parse key
          = .ok
              ⟨key, list.steps ++ [.select element.steps (some (comparison, expected))]⟩
          ∧ elements.accepts record
            = (compileAlone (.value ⟨key, .notEmpty, none, none⟩)).accepts record) := by
  intro elements
  have meaning
      : elements.accepts record
        = Step.keepsSome list.steps element.steps (comparison, expected) record :=
    accepts_elements noNull readList readElement
  have agree {key : String} {selected : KeyPath} (readKey : KeyPath.parse key = .ok selected)
      (steps
        : selected.steps = list.steps ++ [.select element.steps (some (comparison, expected))])
      : elements.accepts record
        = (compileAlone (.value ⟨key, .notEmpty, none, none⟩)).accepts record := by
    rw [meaning, accepts_selection noNull readKey plain steps]
  refine ⟨?_, fun key selected readKey steps => agree readKey steps, ?_⟩
  · rw [meaning]
    exact Step.keepsSome_iff
  intro leads compared literal read closed key
  have readKey
      : KeyPath.parse key
        = .ok ⟨key, list.steps ++ [.select element.steps (some (comparison, expected))]⟩ := by
    rw [KeyPath.parse_selection leads compared (KeyPath.against_inBackticks closed),
      KeyPath.literal?_inBackticks, read]
  exact ⟨readKey, agree readKey rfl⟩

namespace Matcher.Sample

def level (value : Json) : Json :=
  .object [("level", value)]

/-- Elements with a level, without one, with one that is no number, and one that is no object. -/
def policies : List Json :=
  [level (.string "high"), .object [], level (.number (.int 3)), .bool true]

def record : Json :=
  .object [("policies", .array policies)]

theorem resolve_policies
    : KeyPath.resolve ⟨"policies", [.field "policies"]⟩ record = some (.array policies) := by
  simp [KeyPath.resolve, Step.resolve, Json.fields?, record, Table.get?]

theorem resolve_level (value : Json)
    : KeyPath.resolve ⟨"level", [.field "level"]⟩ (level value) = some value := by
  simp [KeyPath.resolve, Step.resolve, Json.fields?, level, Table.get?]

theorem noNull_policies
    : ∀ items,
      KeyPath.resolve ⟨"policies", [.field "policies"]⟩ record = some (.array items)
      → ∀ item ∈ items, KeyPath.resolve ⟨"level", [.field "level"]⟩ item ≠ some .null := by
  intro items reached
  obtain rfl := Json.array.inj (Option.some.inj (resolve_policies.symm.trans reached))
  simp only [policies, List.forall_mem_cons, resolve_level]
  simp [KeyPath.resolve, Step.resolve, Json.fields?, Table.get?]

theorem leads_policies : Leads "policies" ⟨"policies", [.field "policies"]⟩ where
  read := by rfl
  trimmed := by rfl
  notHere := by decide

theorem compared_level : Compared "level" ⟨"level", [.field "level"]⟩ where
  read := by rfl
  trimmed := by rfl
  passed := by
    have all
        : "level".toList.all (fun c => KeyPath.isOrdinary c && !KeyPath.isSign c) = true := by rfl
    exact .ofAll (by simpa using all)

theorem keeps_level
    : Step.keeps [.field "level"] (some (.ge, .number (.int 3))) (level (.number (.int 3)))
      = true := by
  have reached := resolve_level (.number (.int 3))
  rw [KeyPath.resolve] at reached
  rw [Step.keeps, reached]
  rfl

end Matcher.Sample

open Matcher.Sample

theorem Matcher.accepts_comparing_levels
    : (∀ step ∈ [Step.field "policies"], step.projects = false)
      ∧ (∀ items,
          KeyPath.resolve ⟨"policies", [.field "policies"]⟩ record = some (.array items)
          → ∀ item ∈ items, KeyPath.resolve ⟨"level", [.field "level"]⟩ item ≠ some .null)
      ∧ Leads "policies" ⟨"policies", [.field "policies"]⟩
      ∧ Compared "level" ⟨"level", [.field "level"]⟩
      ∧ Json.read "3" = some (.number (.int 3))
      ∧ (compileAlone
            (.listItem "policies" [.value ⟨"level", .ge, some (.number (.int 3)), none⟩]
              none)).accepts record
        = true
      ∧ (compileAlone (.value ⟨"policies[?level>=`3`]", .notEmpty, none, none⟩)).accepts record
        = true := by
  have plain : ∀ step ∈ [Step.field "policies"], step.projects = false := by simp [Step.projects]
  have read : Json.read "3" = some (.number (.int 3)) := by rfl
  obtain ⟨meaning, -, texts⟩ := accepts_comparing leads_policies.read compared_level.read plain .ge
    (.number (.int 3)) record noNull_policies
  obtain ⟨-, agree⟩ := texts leads_policies compared_level "3" read (by decide)
  have accepted := meaning.mpr
    ⟨policies, resolve_policies, level (.number (.int 3)), by simp [policies], keeps_level⟩
  exact ⟨plain, noNull_policies, leads_policies, compared_level, read, accepted,
    agree.symm.trans accepted⟩

end Remediation
