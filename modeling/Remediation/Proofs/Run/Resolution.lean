import Mathlib
import Remediation.Proofs.Policy.Loading
import Remediation.Proofs.Run.Evaluation
import Remediation.Proofs.Run.Selection

/-! How the filters for what is missing get their sets. Compiling takes the sets of a policy's
nested policies from the front of one list, and a filter that finds the list empty matches nothing.
There are as many sets as the search finds nested policies, so that a filter could only go without
one below a list, where the search does not look; filters that were read have none there.
-/

namespace Remediation

variable {σ ε α β : Type}

-----------------------------------------------------------------------------------------
-- The places of sets in a compiled tree
-----------------------------------------------------------------------------------------

namespace Matcher

/-- A compiled tree, and everything that it is made of. -/
inductive HasPart : Matcher → Matcher → Prop
  | self (matcher : Matcher) : HasPart matcher matcher
  | inAll {matchers : List Matcher} {matcher part : Matcher} (member : matcher ∈ matchers)
    (below : HasPart matcher part)
    : HasPart (.all matchers) part
  | inAny {matchers : List Matcher} {matcher part : Matcher} (member : matcher ∈ matchers)
    (below : HasPart matcher part)
    : HasPart (.any matchers) part
  | inNegation {matcher part : Matcher} (below : HasPart matcher part)
    : HasPart (.negation matcher) part
  | inList {path : Except MalformedPath KeyPath} {attributes : List Matcher}
    {count : Option (Operator × Nat)} {matcher part : Matcher} (member : matcher ∈ attributes)
    (below : HasPart matcher part)
    : HasPart (.listItem path attributes count) part

mutual

/-- The places of a tree at which a set is asked for, in the order of the tree: the field and the
set, or nothing where there was none left. -/
def places : Matcher → List (Option (String × IdentitySet))
  | .missing idField matched => [some (idField, matched)]
  | .unresolved => [none]
  | .value _ => []
  | .listItem _ attributes _ => placesOfAll attributes
  | .all matchers => placesOfAll matchers
  | .any matchers => placesOfAll matchers
  | .negation matcher => matcher.places

def placesOfAll : List Matcher → List (Option (String × IdentitySet))
  | [] => []
  | matcher :: rest => matcher.places ++ placesOfAll rest

end

/-- The places of a tree are among those of any trees that it is one of. -/
theorem places_subset_placesOfAll {matcher : Matcher} {matchers : List Matcher}
    (member : matcher ∈ matchers)
    : matcher.places ⊆ placesOfAll matchers := by
  induction matchers with
  | nil => cases member
  | cons first rest ih =>
      simp only [placesOfAll]
      rcases List.mem_cons.mp member with rfl | later
      · exact List.subset_append_left _ _
      · exact List.Subset.trans (ih later) (List.subset_append_right _ _)

/-- The places of a part are places of the tree. -/
theorem HasPart.places_subset {matcher part : Matcher} (inside : matcher.HasPart part)
    : part.places ⊆ matcher.places := by
  induction inside with
  | self => exact List.Subset.refl _
  | inAll member _ ih | inAny member _ ih | inList member _ ih =>
      simp only [places]
      exact List.Subset.trans ih (places_subset_placesOfAll member)
  | inNegation _ ih =>
      simp only [places]
      exact ih

/-- A tree with a set at each of its places has no filter without one. -/
theorem not_hasPart_unresolved {matcher : Matcher} {idField : String} {sets : List IdentitySet}
    (held : matcher.places = sets.map (fun set => some (idField, set)))
    : ¬matcher.HasPart .unresolved := by
  intro inside
  have lacking : none ∈ matcher.places :=
    inside.places_subset (by simp only [places, List.mem_singleton])
  rw [held] at lacking
  simp at lacking

mutual

/-- Given as many sets as there are nested policies, a tree takes them one after the other and
leaves those behind them. Witness: each tree of a list takes a part of its own from the front. -/
theorem compile_places (idField : String) (filter : Filter)
    (free : filter.isMissingFreeInLists = true) (sets behind : List IdentitySet)
    (enough : sets.length = filter.missingPolicies.length)
    : ∃ matcher,
        compile idField filter (sets ++ behind) = (matcher, behind)
        ∧ matcher.places = sets.map (fun set => some (idField, set)) := by
  cases filter with
  | missing policy =>
      obtain ⟨set, rfl⟩ := List.length_eq_one_iff.mp enough
      exact ⟨_, rfl, by simp only [places, List.map_cons, List.map_nil]⟩
  | value filter =>
      obtain rfl := List.length_eq_zero_iff.mp enough
      exact ⟨_, rfl, by simp only [places, List.map_nil]⟩
  | namespaceMetric namespaces metricNames =>
      obtain rfl := List.length_eq_zero_iff.mp enough
      exact ⟨_, rfl, by simp only [places, placesOfAll, ofKeyIn, List.append_nil, List.map_nil]⟩
  | listItem key attributes count =>
      obtain rfl := List.length_eq_zero_iff.mp enough
      refine ⟨_, rfl, ?_⟩
      rw [places, compileAttributes_places attributes
        (by simpa only [Filter.isMissingFreeInLists] using free), List.map_nil]
  | all filters =>
      obtain ⟨matchers, compiled, held⟩ := compileAll_places idField filters
        (by simpa only [Filter.isMissingFreeInLists] using free) sets behind enough
      exact ⟨.all matchers, by simp only [compile, compiled], by rw [places, held]⟩
  | any filters =>
      obtain ⟨matchers, compiled, held⟩ := compileAll_places idField filters
        (by simpa only [Filter.isMissingFreeInLists] using free) sets behind enough
      exact ⟨.any matchers, by simp only [compile, compiled], by rw [places, held]⟩
  | negation filter =>
      obtain ⟨matcher, compiled, held⟩ := compile_places idField filter
        (by simpa only [Filter.isMissingFreeInLists] using free) sets behind enough
      exact ⟨.negation matcher, by simp only [compile, compiled], by rw [places, held]⟩

theorem compileAll_places (idField : String) (filters : List Filter)
    (free : Filter.areMissingFreeInLists filters = true) (sets behind : List IdentitySet)
    (enough : sets.length = (Filter.missingPoliciesOfAll filters).length)
    : ∃ matchers,
        compileAll idField filters (sets ++ behind) = (matchers, behind)
        ∧ placesOfAll matchers = sets.map (fun set => some (idField, set)) := by
  cases filters with
  | nil =>
      obtain rfl := List.length_eq_zero_iff.mp enough
      exact ⟨[], rfl, rfl⟩
  | cons filter rest =>
      simp only [Filter.areMissingFreeInLists, Bool.and_eq_true] at free
      simp only [Filter.missingPoliciesOfAll, List.length_append] at enough
      obtain ⟨own, others, rfl, ownEnough⟩
          : ∃ own others, sets = own ++ others ∧ own.length = filter.missingPolicies.length :=
        ⟨sets.take _, sets.drop _, (List.take_append_drop _ sets).symm,
          List.length_take_of_le (by omega)⟩
      rw [List.length_append] at enough
      obtain ⟨matcher, compiled, held⟩ :=
        compile_places idField filter free.1 own (others ++ behind) ownEnough
      obtain ⟨matchers, compiledRest, heldInRest⟩ :=
        compileAll_places idField rest free.2 others behind (by omega)
      refine ⟨matcher :: matchers, ?_, ?_⟩
      · rw [List.append_assoc, compileAll, compiled]
        simp only [compiledRest]
      · rw [placesOfAll, held, heldInRest, List.map_append]

/-- The filters on the elements of a list take no sets if they need none. -/
theorem compileAttributes_places (attributes : List Filter)
    (free : Filter.areMissingFree attributes = true)
    : placesOfAll (compileAttributes attributes) = [] := by
  cases attributes with
  | nil => rfl
  | cons filter rest =>
      simp only [Filter.areMissingFree, Bool.and_eq_true] at free
      obtain ⟨noSets, lists⟩ := Filter.isMissingFree.lists free.1
      obtain ⟨matcher, compiled, held⟩ := compile_places "id" filter lists [] []
        (by rw [noSets]; rfl)
      rw [List.append_nil] at compiled
      rw [compileAttributes, placesOfAll, compiled, held,
        compileAttributes_places rest free.2]
      rfl

end

end Matcher

-----------------------------------------------------------------------------------------
-- The sets of an evaluation
-----------------------------------------------------------------------------------------

/-- A step for each element that succeeds gives one answer for each of them. -/
theorem length_of_outcomeOf_mapM {step : α → ExceptT ε (StateM σ) β} {list : List α}
    {state final : σ} {answers : List β}
    (succeeded : outcomeOf (list.mapM step) state = (.ok answers, final))
    : answers.length = list.length := by
  induction list generalizing state final answers with
  | nil =>
      cases succeeded
      rfl
  | cons first rest ih =>
      rw [List.mapM_cons] at succeeded
      obtain ⟨answer, middle, _, others⟩ := outcomeOf_bind_eq_ok_iff.mp succeeded
      obtain ⟨more, last, atRest, collected⟩ := outcomeOf_bind_eq_ok_iff.mp others
      cases collected
      rw [List.length_cons, List.length_cons, ih atRest]

/-- An evaluation that succeeds has fetched its records and evaluated the nested policies, and
split the records by the filters as they are compiled with the sets of these. -/
theorem Policy.compiled_of_evaluate_eq_ok {setting : RunSetting σ} {policy : Policy} {depth : Nat}
    {state final : σ} {evaluation : Evaluation}
    (evaluated : outcomeOf (policy.evaluate setting depth) state = (.ok evaluation, final))
    : ∃ resource records middle sets,
        setting.resources.get? policy.resource = some resource
        ∧ outcomeOf (setting.fetch resource) state = (.ok records, middle)
        ∧ outcomeOf (policy.nested.mapM (Policy.matchedIds setting (depth + 1))) middle
            = (.ok sets, final)
        ∧ evaluation
            = .ofTest records (Matcher.compile resource.idField policy.filterTree sets).1.accepts
    := by
  have within : depth ≤ setting.maxDepth := by
    by_contra beyond
    rw [evaluate_eq, RunSetting.checkDepth_of_lt (Nat.lt_of_not_le beyond)] at evaluated
    cases evaluated
  rw [evaluate_eq, RunSetting.checkDepth_of_le within, pure_bind] at evaluated
  obtain ⟨resource, start, found, evaluated⟩ := outcomeOf_bind_eq_ok_iff.mp evaluated
  unfold RunSetting.resource at found
  split at found
  · rename_i known
    cases found
    obtain ⟨records, middle, fetched, evaluated⟩ := outcomeOf_bind_eq_ok_iff.mp evaluated
    obtain ⟨sets, last, matched, evaluated⟩ := outcomeOf_bind_eq_ok_iff.mp evaluated
    simp only [Matcher.evaluation_eq_ofTest] at evaluated
    cases evaluated
    exact ⟨resource, records, middle, sets, known, fetched, matched, rfl⟩
  · cases found

/-- The filters of a policy with plain lists are compiled with the set of each nested policy, each
of which is in one place, in the order of the tree. -/
theorem Policy.HasPlainLists.compiled {policy : Policy} (plain : policy.HasPlainLists)
    (idField : String) {sets : List IdentitySet} (enough : sets.length = policy.nested.length)
    : ∃ matcher,
        Matcher.compile idField policy.filterTree sets = (matcher, [])
        ∧ matcher.places = sets.map (fun set => some (idField, set)) := by
  have free : policy.filterTree.isMissingFreeInLists = true :=
    Filter.HasPlainLists.areMissingFreeInLists policy.filters plain
  obtain ⟨matcher, compiled, held⟩ :=
    Matcher.compile_places idField policy.filterTree free sets [] enough
  rw [List.append_nil] at compiled
  exact ⟨matcher, compiled, held⟩

/-- Filters that are read have no filter for what is missing below a list, and neither have those of
the policies of a document, at every level. The tree that an evaluation of such a policy compiles
has a set at every place that asks for one: the sets of the nested policies, each in one place and
in their order, of which none is left.
-/
theorem PolicyDocument.missing_resolved
    : (∀ json filter, Filter.ofJson json = .ok filter → filter.HasPlainLists)
      ∧ ∀ format source document,
          parse format source = .ok document
          → ∀ policy ∈ document.policies, ∀ inner,
              policy.Contains inner
              → inner.HasPlainLists
                ∧ ∀ (setting : RunSetting σ) depth state evaluation final,
                    outcomeOf (inner.evaluate setting depth) state = (.ok evaluation, final)
                    → ∃ resource records middle sets matcher,
                        setting.resources.get? inner.resource = some resource
                        ∧ outcomeOf (setting.fetch resource) state = (.ok records, middle)
                        ∧ outcomeOf
                              (inner.nested.mapM (Policy.matchedIds setting (depth + 1)))
                              middle
                            = (.ok sets, final)
                        ∧ sets.length = inner.nested.length
                        ∧ Matcher.compile resource.idField inner.filterTree sets = (matcher, [])
                        ∧ evaluation = .ofTest records matcher.accepts
                        ∧ ¬matcher.HasPart .unresolved
                        ∧ matcher.places
                            = sets.map (fun set => some (resource.idField, set)) := by
  refine ⟨fun _ _ => Filter.readsPlain_ofJson, ?_⟩
  intro format source document read policy member inner contains
  have plain := (hasPlainLists_of_parse read policy member).contains contains
  refine ⟨plain, ?_⟩
  intro setting depth state evaluation final evaluated
  obtain ⟨resource, records, middle, sets, known, fetched, matched, split⟩ :=
    Policy.compiled_of_evaluate_eq_ok evaluated
  have enough := length_of_outcomeOf_mapM matched
  obtain ⟨matcher, compiled, held⟩ := plain.compiled resource.idField enough
  rw [compiled] at split
  exact ⟨resource, records, middle, sets, matcher, known, fetched, matched, enough, compiled, split,
    Matcher.not_hasPart_unresolved held, held⟩

-----------------------------------------------------------------------------------------
-- A negated filter for what is missing next to a filter on the elements of a list
-----------------------------------------------------------------------------------------

namespace Sample

/-- A filter on the elements of a list, as it is given. -/
def uncounted : Json :=
  .object
    [
      ("type", .string "list-item"),
      ("key", .string "policies"),
      ("attrs", .array [.object [("not", .object [("or", .array [])])]])
    ]

/-- A document with the filter behind a negated one for what is missing. -/
def guardedText : String :=
  "\x7b\"policies\": [\x7b\"name\": \"guarded\", \"resource\": \"alarm\", \"filters\": ["
    ++ "\x7b\"not\": \x7b\"type\": \"missing\", "
    ++ "\"policy\": \x7b\"resource\": \"alarm\"\x7d\x7d\x7d, "
    ++ "\x7b\"type\": \"list-item\", \"key\": \"policies\", "
    ++ "\"attrs\": [\x7b\"not\": \x7b\"or\": []\x7d\x7d]\x7d]\x7d]\x7d"

def everyAlarm : Policy :=
  ⟨"", "alarm", none, [], [], none, none⟩

def guarded : Policy :=
  ⟨
    "guarded", "alarm", none,
    [.negation (.missing everyAlarm), .listItem "policies" [.negation (.any [])] none],
    [], none, none
  ⟩

theorem guarded_parsed : PolicyDocument.parse .json guardedText = .ok ⟨[guarded]⟩ := by
  cbv

theorem fetch_alarms (state : Nat)
    : outcomeOf (setting.fetch .alarm) state = (.ok alarms, state + 1) := by
  rfl

theorem matchedIds_everyAlarm (state : Nat)
    : outcomeOf (everyAlarm.matchedIds setting 1) state = (.ok ["a", "b", "c"], state + 1) := by
  have known : setting.resources.get? everyAlarm.resource = some .alarm := alarm_known
  rw [Policy.matchedIds_eq, RunSetting.resource_of_known known, pure_bind, outcomeOf_bind,
    Policy.outcomeOf_evaluate_of_nested_eq_nil rfl (Nat.le_refl 1) known, fetch_alarms]
  cbv

theorem matchedIds_nested (state : Nat)
    : outcomeOf (guarded.nested.mapM (Policy.matchedIds setting 1)) state
      = (.ok [["a", "b", "c"]], state + 1) := by
  have nested : guarded.nested = [everyAlarm] := rfl
  simp only [nested, List.mapM_cons, List.mapM_nil, outcomeOf_bind, matchedIds_everyAlarm,
    outcomeOf_pure]

theorem guarded_evaluated
    : ∃ evaluation, outcomeOf (guarded.evaluate setting 0) 0 = (.ok evaluation, 2) := by
  have known : setting.resources.get? guarded.resource = some .alarm := alarm_known
  rw [Policy.outcomeOf_evaluate (Nat.zero_le 1) known, fetch_alarms]
  simp only [Nat.zero_add, matchedIds_nested]
  exact ⟨_, rfl⟩

end Sample

/-- The filter for what is missing holds the identities of all alarms. -/
theorem PolicyDocument.missing_resolved_guarded
    : (∃ filter, Filter.ofJson Sample.uncounted = .ok filter ∧ filter.HasPlainLists)
      ∧ ∃ evaluation matcher,
          PolicyDocument.parse .json Sample.guardedText = .ok ⟨[Sample.guarded]⟩
          ∧ outcomeOf (Sample.guarded.evaluate Sample.setting 0) 0 = (.ok evaluation, 2)
          ∧ Matcher.compile "alarm_id" Sample.guarded.filterTree [["a", "b", "c"]] = (matcher, [])
          ∧ evaluation = .ofTest Sample.alarms matcher.accepts
          ∧ ¬matcher.HasPart .unresolved
          ∧ matcher.places = [some ("alarm_id", ["a", "b", "c"])] := by
  obtain ⟨reading, loading⟩ := @PolicyDocument.missing_resolved Nat
  have read
      : Filter.ofJson Sample.uncounted
        = .ok (.listItem "policies" [.negation (.any [])] none) := by
    cbv
  refine ⟨⟨_, read, reading _ _ read⟩, ?_⟩
  obtain ⟨evaluation, evaluated⟩ := Sample.guarded_evaluated
  obtain ⟨_, resolved⟩ :=
    loading .json _ _ Sample.guarded_parsed _ List.mem_cons_self _ (.self Sample.guarded)
  obtain ⟨resource, records, middle, sets, matcher, known, fetched, matched, _, compiled, split,
    complete, held⟩ := resolved _ _ _ _ _ evaluated
  cases Sample.alarm_known.symm.trans known
  cases (Sample.fetch_alarms 0).symm.trans fetched
  cases (Sample.matchedIds_nested 1).symm.trans matched
  exact ⟨evaluation, matcher, Sample.guarded_parsed, evaluated, compiled, split, complete, held⟩

end Remediation
