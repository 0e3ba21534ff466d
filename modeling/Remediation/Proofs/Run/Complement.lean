import Remediation.Proofs.Run.Evaluation
import Remediation.Proofs.Run.Selection

/-! Filters for what is missing of the policy's own type. Such a filter turns the two parts of an
evaluation around, whatever the policy in it is; two of them, one inside of the other, leave it as
it is. What carries this is that all records of a fetch have identities, no two of them the same.
-/

namespace Remediation

variable {σ : Type}

-----------------------------------------------------------------------------------------
-- Evaluations that can be repeated
-----------------------------------------------------------------------------------------

/-- The same records, with those that matched and those that did not in each other's place. -/
def Evaluation.turned (evaluation : Evaluation) : Evaluation where
  population := evaluation.population
  matched := evaluation.excluded
  excluded := evaluation.matched

theorem Evaluation.turned_ofTest (records : List Json) (test : Json → Bool)
    : (ofTest records test).turned = ofTest records (fun record => !test record) := by
  simp only [turned, ofTest, Bool.not_not]

/-- A policy whose type is known and can be fetched from a state. -/
def Policy.IsFetchable (setting : RunSetting σ) (state : σ) (policy : Policy) : Prop :=
  ∃ resource records,
    setting.resources.get? policy.resource = some resource
    ∧ ((fetchAll setting.plane setting.pageBudget resource).run state).1 = .ok records

/-- From every state with a property, which this keeps, and at every level that leaves room for the
policies inside of it, the evaluation of a policy is the same one. -/
def Policy.EvaluatesTo (setting : RunSetting σ) (holds : σ → Prop) (policy : Policy)
    (evaluation : Evaluation)
    : Prop :=
  ∀ depth,
    depth + policy.nestingDepth ≤ setting.maxDepth
    → ∀ state,
        holds state
        → ∃ final,
            holds final
            ∧ outcomeOf (policy.evaluate setting depth) state = (.ok evaluation, final)

/-- In the same sense, the identities that a policy matches are always the same ones. -/
def Policy.MatchesIds (setting : RunSetting σ) (holds : σ → Prop) (policy : Policy)
    (ids : IdentitySet)
    : Prop :=
  ∀ depth,
    depth + policy.nestingDepth ≤ setting.maxDepth
    → ∀ state,
        holds state
        → ∃ final,
            holds final ∧ outcomeOf (policy.matchedIds setting depth) state = (.ok ids, final)

/-- The identities that a policy matches are the same whenever its evaluation is. -/
theorem Policy.EvaluatesTo.matchesIds {setting : RunSetting σ} {holds : σ → Prop}
    {policy : Policy} {evaluation : Evaluation} {resource : ResourceType}
    (evaluates : policy.EvaluatesTo setting holds evaluation)
    (known : setting.resources.get? policy.resource = some resource)
    : policy.MatchesIds setting holds (identities evaluation.matched resource.idField) := by
  intro depth within state atState
  obtain ⟨final, held, evaluated⟩ := evaluates depth within state atState
  refine ⟨final, held, ?_⟩
  rw [Policy.matchedIds_eq, RunSetting.resource_of_known known, pure_bind, outcomeOf_bind,
    evaluated]
  rfl

section Steady

variable {setting : RunSetting σ} {holds : σ → Prop}
  {answer : ResourceType → Option String → Except RemoteError Page}

/-- A policy evaluates to the records of its type split by its compiled filters, if the policies
right inside of it always match the same identities. -/
theorem Policy.evaluatesTo_compiled (steady : setting.plane.Steady holds answer) {start : σ}
    (atStart : holds start) {policy : Policy} {resource : ResourceType} {records : List Json}
    (known : setting.resources.get? policy.resource = some resource)
    (fetched
      : ((fetchAll setting.plane setting.pageBudget resource).run start).1 = .ok records)
    {ids : Policy → IdentitySet}
    (inner : ∀ inner ∈ policy.nested, inner.MatchesIds setting holds (ids inner))
    : policy.EvaluatesTo setting holds
        (.ofTest records
          (Matcher.compile resource.idField policy.filterTree
            (policy.nested.map ids)).1.accepts) := by
  intro depth within state atState
  obtain ⟨alike, kept⟩ := steady.fetchAll resource setting.pageBudget atState atStart
  obtain ⟨final, held, sets⟩ :=
    outcomeOf_mapM_eq_ok policy.nested
      (fun one nested =>
        inner one nested (depth + 1)
          (by have deeper := Policy.nestingDepth_nested nested; omega))
      _ kept
  refine ⟨final, held, ?_⟩
  rw [Policy.outcomeOf_evaluate (by omega) known, RunSetting.outcomeOf_fetch, alike, fetched]
  simp only [Except.mapError, sets]

/-- Where all types are known and can be fetched, a policy evaluates to the records of its type
split by some test. Witness: induction over the nesting; the test is that of the compiled filters,
whose sets are those of the policies right inside.
-/
theorem Policy.exists_evaluatesTo (steady : setting.plane.Steady holds answer) {start : σ}
    (atStart : holds start) (policy : Policy)
    (fetchable : ∀ inner, policy.Contains inner → inner.IsFetchable setting start)
    : ∃ resource records test,
        setting.resources.get? policy.resource = some resource
        ∧ ((fetchAll setting.plane setting.pageBudget resource).run start).1 = .ok records
        ∧ policy.EvaluatesTo setting holds (.ofTest records test) := by
  induction policy using Policy.nesting_induction with
  | step policy ih =>
      obtain ⟨resource, records, known, fetched⟩ := fetchable policy (.self policy)
      have inner (inner : Policy)
          : ∃ ids, inner ∈ policy.nested → inner.MatchesIds setting holds ids := by
        by_cases nested : inner ∈ policy.nested
        · obtain ⟨innerResource, _, _, innerKnown, _, evaluates⟩ :=
            ih inner nested (fun deeper below => fetchable deeper (.inside nested below))
          exact ⟨_, fun _ => evaluates.matchesIds innerKnown⟩
        · exact ⟨[], fun impossible => absurd impossible nested⟩
      choose ids always using inner
      exact ⟨resource, records, _, known, fetched,
        Policy.evaluatesTo_compiled steady atStart known fetched always⟩

-----------------------------------------------------------------------------------------
-- What is missing of the same type
-----------------------------------------------------------------------------------------

/-- A filter alone is as good as the list of it. -/
theorem Matcher.accepts_all_singleton (matcher : Matcher) (record : Json)
    : (Matcher.all [matcher]).accepts record = matcher.accepts record := by
  simp only [accepts, acceptsAll, Bool.and_true]

/-- A filter for what is missing among some records accepts those of them that are not chosen. -/
theorem Matcher.accepts_missing {idField : String} {records : List Json}
    (told : Distinguished idField records) (chosen : Json → Bool)
    : ∀ record ∈ records,
        (Matcher.missing idField (identities (records.filter chosen) idField)).accepts record
          = !chosen record := by
  intro record member
  obtain ⟨id, found⟩ := told.identified record member
  have decided := told.mem_identities_filter chosen member found
  simp only [Matcher.accepts, found]
  rw [Bool.not_inj_iff, Bool.eq_iff_iff, List.contains_iff_mem]
  exact decided

theorem Policy.nestingDepth_of_missing {policy outer : Policy}
    (filters : outer.filters = [.missing policy])
    : outer.nestingDepth = policy.nestingDepth + 1 := by
  cases outer
  cases filters
  simp [Policy.nestingDepth, Filter.nestingDepthOfAll, Filter.nestingDepth]

theorem Policy.nested_of_missing {policy outer : Policy}
    (filters : outer.filters = [.missing policy])
    : outer.nested = [policy] := by
  simp [Policy.nested, filters, Filter.missingPoliciesOfAll, Filter.missingPolicies]

/-- A policy for what is missing of its own type matches what the policy inside of it does not. -/
theorem Policy.EvaluatesTo.missing (steady : setting.plane.Steady holds answer) {start : σ}
    (atStart : holds start) {policy outer : Policy} {resource : ResourceType}
    {records : List Json} {test : Json → Bool}
    (evaluates : policy.EvaluatesTo setting holds (.ofTest records test))
    (known : setting.resources.get? policy.resource = some resource)
    (fetched
      : ((fetchAll setting.plane setting.pageBudget resource).run start).1 = .ok records)
    (sameType : setting.resources.get? outer.resource = setting.resources.get? policy.resource)
    (filters : outer.filters = [.missing policy])
    : outer.EvaluatesTo setting holds (.ofTest records (fun record => !test record)) := by
  have told : Distinguished resource.idField records := Listing.records_distinguished fetched
  have nested := Policy.nested_of_missing filters
  have always
      : ∀ inner ∈ outer.nested,
          inner.MatchesIds setting holds (identities (records.filter test) resource.idField) := by
    rw [nested]
    intro inner member
    cases List.mem_singleton.mp member
    exact evaluates.matchesIds known
  have evaluatesOuter :=
    Policy.evaluatesTo_compiled steady atStart (sameType.trans known) fetched always
  rwa [Evaluation.ofTest_congr] at evaluatesOuter
  intro record member
  simp only [Policy.filterTree, filters, nested, List.map_cons, List.map_nil, Matcher.compile,
    Matcher.compileAll, Matcher.accepts_all_singleton]
  exact Matcher.accepts_missing told test record member

-----------------------------------------------------------------------------------------
-- Alternation
-----------------------------------------------------------------------------------------

/-- A policy with some number of filters for what is missing around another policy of the same type:
the policy at each level has the one below as its only filter. -/
inductive Policy.Alternates (resources : ResourceRegistry) (inner : Policy) : Nat → Policy → Prop
  | nothing : Alternates resources inner 0 inner
  | around {count : Nat} {policy outer : Policy} (below : Alternates resources inner count policy)
    (sameType : resources.get? outer.resource = resources.get? inner.resource)
    (filters : outer.filters = [.missing policy])
    : Alternates resources inner (count + 1) outer

theorem Policy.Alternates.sameType {resources : ResourceRegistry} {inner outer : Policy}
    {count : Nat} (alternates : inner.Alternates resources count outer)
    : resources.get? outer.resource = resources.get? inner.resource := by
  cases alternates with
  | nothing => rfl
  | around _ sameType _ => exact sameType

/-- What is missing of what is missing, and so on for a number of levels, is what the innermost
policy matches or what it does not. Witness: induction on the levels, each of which turns the two
around.
-/
theorem Policy.EvaluatesTo.alternates (steady : setting.plane.Steady holds answer) {start : σ}
    (atStart : holds start) {policy outer : Policy} {resource : ResourceType}
    {records : List Json} {test : Json → Bool}
    (evaluates : policy.EvaluatesTo setting holds (.ofTest records test))
    (known : setting.resources.get? policy.resource = some resource)
    (fetched
      : ((fetchAll setting.plane setting.pageBudget resource).run start).1 = .ok records)
    {count : Nat} (alternates : policy.Alternates setting.resources count outer)
    : outer.EvaluatesTo setting holds
        (if count % 2 = 0 then .ofTest records test
          else .ofTest records (fun record => !test record)) := by
  induction alternates with
  | nothing => exact evaluates
  | @around count below outer inside sameType filters ih =>
      have missing {chosen : Json → Bool}
          (evaluatesBelow : below.EvaluatesTo setting holds (.ofTest records chosen))
          : outer.EvaluatesTo setting holds (.ofTest records (fun record => !chosen record)) :=
        evaluatesBelow.missing steady atStart (inside.sameType.trans known) fetched
          (sameType.trans inside.sameType.symm) filters
      rcases Nat.mod_two_eq_zero_or_one count with even | odd
      · rw [if_pos even] at ih
        rw [if_neg (by omega)]
        exact missing ih
      · rw [if_neg (by omega)] at ih
        rw [if_pos (by omega)]
        simpa only [Bool.not_not] using missing ih

theorem Policy.Alternates.nestingDepth {resources : ResourceRegistry} {inner outer : Policy}
    {count : Nat} (alternates : inner.Alternates resources count outer)
    : outer.nestingDepth = inner.nestingDepth + count := by
  induction alternates with
  | nothing => rfl
  | around _ _ filters ih => rw [Policy.nestingDepth_of_missing filters, ih, Nat.add_assoc]

/-- A policy for what is missing of its own type evaluates to the evaluation of the policy inside of
it with the two parts in each other's place, each in the order of the fetch. Every further level
turns the parts around again, so that an even number of levels selects what the innermost policy
selects, and an odd number what it leaves out.
-/
theorem Policy.evaluate_alternation (steady : setting.plane.Steady holds answer) {start : σ}
    (atStart : holds start) (policy : Policy)
    (fetchable : ∀ inner, policy.Contains inner → inner.IsFetchable setting start)
    : ∃ evaluation,
        policy.EvaluatesTo setting holds evaluation
        ∧ (∀ outer : Policy,
            setting.resources.get? outer.resource = setting.resources.get? policy.resource
            → outer.filters = [.missing policy]
            → outer.EvaluatesTo setting holds
                {
                  population := evaluation.population,
                  matched := evaluation.excluded,
                  excluded := evaluation.matched
                })
        ∧ ∀ count outer,
            policy.Alternates setting.resources count outer
            → outer.nestingDepth = policy.nestingDepth + count
              ∧ outer.EvaluatesTo setting holds
                  (if count % 2 = 0 then evaluation else evaluation.turned) := by
  obtain ⟨resource, records, test, known, fetched, evaluates⟩ :=
    policy.exists_evaluatesTo steady atStart fetchable
  refine ⟨_, evaluates, ?_, ?_⟩
  · intro outer sameType filters
    have turned := evaluates.missing steady atStart known fetched sameType filters
    rwa [← Evaluation.turned_ofTest] at turned
  · intro count outer alternates
    refine ⟨alternates.nestingDepth, ?_⟩
    rw [Evaluation.turned_ofTest]
    exact evaluates.alternates steady atStart known fetched alternates

end Steady

-----------------------------------------------------------------------------------------
-- Records with a repeated, a numeric and no identity
-----------------------------------------------------------------------------------------

namespace Sample

/-- An alarm whose identity is a number. -/
def numbered : Json :=
  .object [("alarm_id", .ofNat 7), ("namespace", .string "SYS.ECS")]

/-- Alarms of which one comes again in another namespace and one has no identity. -/
def mixedAlarms : List Json :=
  [
    alarm "a" "SYS.VPC", alarm "a" "SYS.ECS", .object [("namespace", .string "SYS.VPC")], numbered,
    alarm "b" "SYS.ECS"
  ]

def mixedSetting : RunSetting Nat :=
  {
    setting with
    plane := { plane with listPage := fun _ _ count => (.ok ⟨mixedAlarms, none⟩, count + 1) },
    maxDepth := 2
  }

/-- The alarms in a namespace, with a filter for what is missing below a list. -/
def plain : Policy :=
  {
    inSpace "SYS.VPC" with
    filters :=
      [
        .value ⟨"namespace", .eq, some (.string "SYS.VPC"), none⟩,
        .negation (.listItem "policies" [.missing (inSpace "SYS.VPC")] none)
      ]
  }

/-- What is missing of the alarms that a policy matches. -/
def lacking (policy : Policy) : Policy :=
  ⟨"", "huaweicloud.alarm", none, [.missing policy], [], none, none⟩

theorem mixed_steady
    : mixedSetting.plane.Steady (fun _ => True) (fun _ _ => .ok ⟨mixedAlarms, none⟩) where
  running := fun _ => rfl
  answers := fun _ _ _ => rfl
  kept := fun _ _ _ => trivial

theorem plain_fetchable (inner : Policy) (inside : plain.Contains inner)
    : inner.IsFetchable mixedSetting 0 := by
  cases inside with
  | self => exact ⟨.alarm, [alarm "a" "SYS.VPC", numbered, alarm "b" "SYS.ECS"], rfl, rfl⟩
  | inside nested _ => cases nested

theorem plain_evaluated
    : ∃ final,
        outcomeOf (plain.evaluate mixedSetting 0) 0
        = (.ok ⟨3, [alarm "a" "SYS.VPC"], [numbered, alarm "b" "SYS.ECS"]⟩, final) := by
  have known : mixedSetting.resources.get? plain.resource = some .alarm := rfl
  have fetched
      : outcomeOf (mixedSetting.fetch .alarm) 0
        = (.ok [alarm "a" "SYS.VPC", numbered, alarm "b" "SYS.ECS"], 1) := rfl
  have split
      : Evaluation.ofTest [alarm "a" "SYS.VPC", numbered, alarm "b" "SYS.ECS"]
          (plain.compiledTest .alarm)
        = ⟨3, [alarm "a" "SYS.VPC"], [numbered, alarm "b" "SYS.ECS"]⟩ := by
    cbv
  refine ⟨1, ?_⟩
  rw [Policy.outcomeOf_evaluate_of_nested_eq_nil rfl (Nat.zero_le _) known, fetched, ← split]

end Sample

/-- What is missing of the alarms in a namespace are the two others, and what is missing of these is
the one in the namespace again. -/
theorem Policy.evaluate_alternation_mixed
    : (∃ final,
        outcomeOf ((Sample.lacking Sample.plain).evaluate Sample.mixedSetting 0) 0
        = (.ok
            ⟨
              3,
              [Sample.numbered, Sample.alarm "b" "SYS.ECS"],
              [Sample.alarm "a" "SYS.VPC"]
            ⟩,
          final))
      ∧ ∃ final,
          outcomeOf
              ((Sample.lacking (Sample.lacking Sample.plain)).evaluate Sample.mixedSetting 0)
              0
            = (.ok
                ⟨
                  3,
                  [Sample.alarm "a" "SYS.VPC"],
                  [Sample.numbered, Sample.alarm "b" "SYS.ECS"]
                ⟩,
              final) := by
  obtain ⟨evaluation, evaluates, once, alternates⟩ :=
    Policy.evaluate_alternation Sample.mixed_steady trivial Sample.plain Sample.plain_fetchable
  obtain ⟨_, _, evaluated⟩ := evaluates 0 (by decide) 0 trivial
  obtain ⟨_, evaluatedTo⟩ := Sample.plain_evaluated
  cases (Prod.mk.inj (evaluated.symm.trans evaluatedTo)).1
  have one
      : Sample.plain.Alternates Sample.mixedSetting.resources 1 (Sample.lacking Sample.plain) :=
    .around .nothing rfl rfl
  have two
      : Sample.plain.Alternates Sample.mixedSetting.resources 2
          (Sample.lacking (Sample.lacking Sample.plain)) :=
    .around one rfl rfl
  obtain ⟨final, _, missing⟩ := once (Sample.lacking Sample.plain) rfl rfl 0 (by decide) 0 trivial
  obtain ⟨finalAgain, _, again⟩ := (alternates 2 _ two).2 0 (by decide) 0 trivial
  exact ⟨⟨final, missing⟩, finalAgain, again⟩

end Remediation
