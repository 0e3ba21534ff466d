import Remediation.Proofs.ControlPlane.Memory
import Remediation.Proofs.Policy.Limits
import Remediation.Proofs.Run.Reach

/-! Running a policy again that creates records for what is missing. A filter for what is missing
takes away the records that its own policy matches, and creating a record that this policy matches
leaves the others where they were; so the second run selects what the first one selected.
-/

namespace Remediation

-----------------------------------------------------------------------------------------
-- What is missing of the same type
-----------------------------------------------------------------------------------------

/-- Whether a record satisfies the filters of a policy that has no other one inside of it. -/
def Policy.admits (policy : Policy) (resource : ResourceType) (record : Json) : Bool :=
  policy.filterTree.holds ⟨.empty, fun _ => []⟩ resource.idField record

/-- A policy whose only filter is for what is missing of its own type selects the records that the
inner policy does not. -/
theorem Policy.selection_missing {inventory : Inventory} {policy wanted : Policy}
    {resource : ResourceType} (filters : policy.filters = [.missing wanted])
    (plain : wanted.filterTree.isMissingFree = true)
    (known : inventory.resources.get? wanted.resource = some resource)
    (told : Distinguished resource.idField (inventory.records resource))
    : (policy.selection inventory resource).matched
      = (inventory.records resource).filter (fun record => !wanted.admits resource record) := by
  have alone (record : Json)
      : wanted.filterTree.holds inventory resource.idField record
        = wanted.admits resource record :=
    Filter.holds_of_isMissingFree plain _ _ _ _
  refine List.filter_congr (fun record member => ?_)
  obtain ⟨id, found⟩ := told.identified record member
  have decided := told.mem_identities_filter (wanted.filterTree.holds inventory resource.idField)
    member found
  simp only [Policy.filterTree, filters, Filter.holds, Filter.allHold, found, Bool.and_true,
    Policy.selectedIds_eq known]
  rw [Bool.not_inj_iff, Bool.eq_iff_iff, List.contains_iff_mem, ← alone]
  exact decided

-----------------------------------------------------------------------------------------
-- One run
-----------------------------------------------------------------------------------------

/-- The new records that units of records are worth, one unit behind the other, are those that the
records are worth. -/
theorem ActionContext.flatMap_creations_split (context : ActionContext) {size : Nat}
    (positive : 0 < size) (records : List Json)
    : (WorkUnit.split size records).flatMap (fun unit => context.creations unit.records)
      = context.creations records := by
  unfold ActionContext.creations
  cases context.target? with
  | none => exact List.flatMap_eq_nil_iff.mpr (fun _ _ => rfl)
  | some target =>
      dsimp only
      rw [← List.filterMap_flatMap, WorkUnit.flatMap_split positive]

/-- No record is worth more than one new record. -/
theorem ActionContext.length_creations_le (context : ActionContext) (records : List Json)
    : (context.creations records).length ≤ records.length := by
  unfold ActionContext.creations
  cases context.target? with
  | none => exact Nat.zero_le _
  | some target => exact List.length_filterMap_le _ _

/-- A policy that creates records for what is missing: its only filter is for what another policy of
the same type does not match, and its only action creates records from a template. -/
structure CreatesMissing (resources : ResourceRegistry) (policy wanted : Policy)
    (resource : ResourceType) (params : Fields)
    : Prop where
  filters : policy.filters = [.missing wanted]
  actions : policy.actions = [⟨"create-alarm-rule", params⟩]
  known : resources.get? policy.resource = some resource
  inner : resources.get? wanted.resource = some resource
  plain : wanted.filterTree.isMissingFree = true

namespace CreatesMissing

variable {resources : ResourceRegistry} {policy wanted : Policy} {resource : ResourceType}
  {params : Fields}

/-- The policies to be evaluated are the policy itself and the one right inside of it. -/
theorem contains_cases (shape : CreatesMissing resources policy wanted resource params)
    {inner : Policy} (inside : policy.Contains inner)
    : inner = policy ∨ inner = wanted := by
  cases inside with
  | self => exact .inl rfl
  | @inside _ nested _ member below =>
      have same : nested = wanted := by
        simpa [Policy.nested, shape.filters, Filter.missingPoliciesOfAll, Filter.missingPolicies]
          using member
      subst same
      cases below with
      | self => exact .inr rfl
      | inside deeper _ =>
          have none : nested.nested = [] := (Filter.isMissingFree.lists shape.plain).1
          rw [none] at deeper
          cases deeper

/-- Evaluated in memory, the policy matches the records that the inner policy does not. -/
theorem evaluates (shape : CreatesMissing resources policy wanted resource params)
    {memory : Memory} (isOpen : memory.Open)
    (granted : memory.failure? resource "list" "list" [] = none) (options : ExecuteOptions)
    {maxDepth pageBudget : Nat} (within : policy.nestingDepth ≤ maxDepth)
    (enough : (memory.recordsOf resource).length < pageBudget)
    : ∃ evaluation final,
        outcomeOf
            (policy.evaluate (.recording Memory.plane resources options maxDepth pageBudget) 0)
            (.start memory)
          = (.ok evaluation, final)
        ∧ evaluation.population = (memory.fetched resource).length
        ∧ evaluation.matched
          = (memory.fetched resource).filter (fun record => !wanted.admits resource record) := by
  have fetched
      : ((fetchAll Memory.plane.recorded pageBudget resource).run (.start memory)).1
        = .ok (memory.fetched resource) := by
    rw [isOpen.fetchAll resource enough (Memory.Like.refl memory), granted]
  have inventory
      : ((RunSetting.recording Memory.plane resources options maxDepth pageBudget).inventory
          (.start memory)).records resource
        = memory.fetched resource := by
    change (((fetchAll Memory.plane.recorded pageBudget resource).run
      (.start memory)).1.toOption).getD [] = _
    rw [fetched]
    rfl
  have evaluable (inner : Policy) (inside : policy.Contains inner)
      : inner.Evaluable (.recording Memory.plane resources options maxDepth pageBudget)
          (.start memory) := by
    have ofType {one : Policy} (found : resources.get? one.resource = some resource)
        (lists : Filter.areMissingFreeInLists one.filters = true)
        : one.Evaluable (.recording Memory.plane resources options maxDepth pageBudget)
            (.start memory) := by
      refine ⟨⟨resource, found⟩, fun other known => ?_, lists⟩
      cases found.symm.trans known
      exact ⟨_, fetched⟩
    rcases shape.contains_cases inside with rfl | rfl
    · exact ofType shape.known (by rw [shape.filters]; rfl)
    · exact ofType shape.inner (Filter.isMissingFree.lists shape.plain).2
  have shallow
      : 0 + policy.nestingDepth
        ≤ (RunSetting.recording Memory.plane resources options maxDepth pageBudget).maxDepth := by
    simpa using within
  have steady
      : (RunSetting.recording Memory.plane resources options maxDepth pageBudget).plane.Steady
          (fun recorded => memory.Like recorded.state) memory.pageAt :=
    isOpen.steady
  have atStart : memory.Like (Recorded.start memory).state := Memory.Like.refl memory
  obtain ⟨final, _, evaluated⟩ :=
    policy.evaluate_selection steady atStart evaluable 0 shallow shape.known atStart
  refine ⟨_, final, evaluated, congrArg List.length inventory, ?_⟩
  rw [Policy.selection_missing shape.filters shape.plain shape.inner, inventory]
  rw [inventory]
  exact memory.fetched_distinguished resource

/-- A run in memory is refused by the limits, or it wants the changes of its action for the records
that the inner policy does not match. -/
theorem runs (shape : CreatesMissing resources policy wanted resource params) {memory : Memory}
    (isOpen : memory.Open) (granted : memory.failure? resource "list" "list" [] = none)
    (options : ExecuteOptions) {maxDepth pageBudget : Nat} (within : policy.nestingDepth ≤ maxDepth)
    (enough : (memory.recordsOf resource).length < pageBudget)
    : ∃ matched outcome final lists changes,
        matched = (memory.fetched resource).filter (fun record => !wanted.admits resource record)
        ∧ outcomeOf
              (policy.run (.recording Memory.plane resources options maxDepth pageBudget))
              (.start memory)
            = (outcome, final)
        ∧ final.exchanges = lists ++ changes
        ∧ Memory.plane.Leads memory (lists ++ changes) final.state
        ∧ (∀ exchange ∈ lists, exchange.isList = true)
        ∧ (∀ exchange ∈ changes, exchange.isList = false)
        ∧ match policy.checkLimits matched.length (memory.fetched resource).length with
          | .error refusal => outcome = .error (.limitExceeded refusal) ∧ changes = []
          | .ok _ =>
              (∃ report,
                outcome = .ok report
                ∧ report.matched = matched.length
                ∧ report.population = (memory.fetched resource).length)
              ∧ mutationsOf changes
                = policy.changes (ActionRegistry.builtin Memory.plane.recorded) resources
                    options resource matched := by
  obtain ⟨evaluation, middle, evaluated, population, matched⟩ :=
    shape.evaluates isOpen granted options within enough
  obtain ⟨outcome, final, lists, changes, ran, recorded, leads, reads, step⟩ :=
    policy.run_recorded Memory.plane resources options maxDepth pageBudget memory
  refine ⟨evaluation.matched, outcome, final, lists, changes, matched, ran, recorded, leads,
    reads.onlyLists, ?_, ?_⟩
  · rcases step with ⟨rfl, _⟩ | ⟨_, _, _, _, _, _, _, _, _, made⟩
    · simp
    · exact made.noLists
  rw [← population]
  have computed := ran
  rw [Policy.outcomeOf_run] at computed
  simp only [RunSetting.recording_resources, RunSetting.recording_maxDepth, shape.known,
    Nat.not_lt.mpr within, if_false, evaluated, Policy.outcomeOf_remediate] at computed
  cases limits : policy.checkLimits evaluation.matched.length evaluation.population with
  | error refusal =>
      rw [limits] at computed
      cases computed
      refine ⟨rfl, ?_⟩
      rcases step with ⟨rfl, _⟩ | ⟨_, _, _, _, _, _, _, _, impossible, _⟩
      · rfl
      · cases impossible
  | ok _ =>
      rw [limits] at computed
      cases computed
      refine ⟨⟨_, rfl, rfl, rfl⟩, ?_⟩
      have uncancelled := (isOpen.calm.leads leads).uncancelled
      rcases step with ⟨_, cancelled⟩ | ⟨other, again, _, _, found, _, evaluatedAgain, _, _, made⟩
      · have reported := (cancelled _ rfl).symm.trans uncancelled
        cases reported
      · cases shape.known.symm.trans found
        cases evaluated.symm.trans evaluatedAgain
        refine made.complete ?_
        rw [← cancelledAfter_append, ← leads.cancelled]
        exact uncancelled

/-- A run that comes to a report was deep enough for its policies and had its lists answered. -/
theorem passed_of_report (shape : CreatesMissing resources policy wanted resource params)
    {memory : Memory} (isOpen : memory.Open) {options : ExecuteOptions} {maxDepth pageBudget : Nat}
    (enough : (memory.recordsOf resource).length < pageBudget) {report : RunReport}
    {final : Recorded Memory}
    (ran
      : outcomeOf (policy.run (.recording Memory.plane resources options maxDepth pageBudget))
          (.start memory)
        = (.ok report, final))
    : policy.nestingDepth ≤ maxDepth ∧ memory.failure? resource "list" "list" [] = none := by
  rw [Policy.outcomeOf_run] at ran
  simp only [RunSetting.recording_resources, RunSetting.recording_maxDepth, shape.known] at ran
  by_cases beyond : maxDepth < policy.nestingDepth
  · simp only [beyond, if_true] at ran
    cases ran
  · refine ⟨Nat.le_of_not_lt beyond, ?_⟩
    cases failure : memory.failure? resource "list" "list" [] with
    | none => rfl
    | some source =>
        have atStart : memory.Like (Recorded.start memory).state := Memory.Like.refl memory
        have handed := isOpen.fetchAll resource enough atStart
        rw [failure] at handed
        have fetched :=
          RunSetting.outcomeOf_fetch
            (.recording Memory.plane resources options maxDepth pageBudget) resource (.start memory)
        have evaluated :=
          Policy.evaluate_eq_error (Nat.zero_le _) shape.known
            (fetched.trans (Prod.ext (congrArg (Except.mapError RunError.ofFetch) handed) rfl))
        simp only [beyond, if_false, evaluated] at ran
        cases ran

-----------------------------------------------------------------------------------------
-- What is created
-----------------------------------------------------------------------------------------

/-- The policy wants what its template makes of the records that matched if its parameters are
valid. -/
theorem changes_of_valid (shape : CreatesMissing resources policy wanted resource params)
    {σ : Type} {plane : ControlPlane σ}
    (valid : ActionSpec.IsValid (ActionRegistry.builtin plane) ⟨"create-alarm-rule", params⟩)
    {options : ExecuteOptions} (real : options.dryRun = false) (matched : List Json)
    : policy.changes (ActionRegistry.builtin plane) resources options resource matched
      = ActionContext.creations ⟨resource, resources, params, policy.name⟩ matched := by
  obtain ⟨action, found, checked⟩ := valid
  unfold Policy.changes
  rw [shape.actions, List.flatMap_singleton]
  simp only [real, Bool.false_eq_true, if_false]
  rw [ActionSpec.changes_of_valid found checked]
  exact ActionContext.flatMap_creations_split _ action.mode.unitSize_pos matched

/-- In a dry run and if its parameters are not valid the policy wants nothing. -/
theorem changes_cases (shape : CreatesMissing resources policy wanted resource params)
    {σ : Type} (plane : ControlPlane σ) (options : ExecuteOptions) (matched : List Json)
    : policy.changes (ActionRegistry.builtin plane) resources options resource matched = []
      ∨ policy.changes (ActionRegistry.builtin plane) resources options resource matched
        = ActionContext.creations ⟨resource, resources, params, policy.name⟩ matched := by
  cases dry : options.dryRun with
  | true => exact .inl (policy.changes_of_dryRun _ resources dry resource matched)
  | false =>
      by_cases valid
          : ActionSpec.IsValid (ActionRegistry.builtin plane) ⟨"create-alarm-rule", params⟩
      · exact .inr (shape.changes_of_valid valid dry matched)
      · left
        unfold Policy.changes
        rw [shape.actions, List.flatMap_singleton, ActionSpec.changes_of_invalid valid, ite_self]

/-- What the policy wants is created from its template, each time for a record that matched. -/
theorem exists_create (shape : CreatesMissing resources policy wanted resource params)
    {σ : Type} {plane : ControlPlane σ} {options : ExecuteOptions} {matched : List Json}
    {mutation : Mutation}
    (asked
      : mutation
        ∈ policy.changes (ActionRegistry.builtin plane) resources options resource matched)
    : ∃ target record body,
        ActionContext.target? ⟨resource, resources, params, policy.name⟩ = some target
        ∧ record ∈ matched
        ∧ ActionContext.body ⟨resource, resources, params, policy.name⟩ record = .ok body
        ∧ mutation = .create target body := by
  rcases shape.changes_cases plane options matched with nothing | creations
  · rw [nothing] at asked
    cases asked
  · rw [creations] at asked
    exact ActionContext.exists_create_of_mem_creations asked

/-- The policy wants no more records than matched. -/
theorem length_changes_le (shape : CreatesMissing resources policy wanted resource params)
    {σ : Type} (plane : ControlPlane σ) (options : ExecuteOptions) (matched : List Json)
    : (policy.changes (ActionRegistry.builtin plane) resources options resource
        matched).length ≤ matched.length := by
  rcases shape.changes_cases plane options matched with nothing | creations
  · rw [nothing]
    exact Nat.zero_le _
  · rw [creations]
    exact ActionContext.length_creations_le _ matched

end CreatesMissing

/-- What the template of a policy makes supplies what is missing: it satisfies the inner policy once
it is created, and new identities are not among those that are in memory already. Records that are
created are of the policy's type or have nothing to do with it.
-/
structure Supplies (memory : Memory) (context : ActionContext) (wanted : Policy) : Prop where
  apart
    : ∀ target,
        context.target? = some target
        → target = context.resource ∨ context.resource.key ≠ target.key
  fresh
    : ∀ number,
        memory.created < number
        → Memory.newId number
          ∉ identities (memory.recordsOf context.resource) context.resource.idField
  satisfied
    : ∀ record ∈ memory.recordsOf context.resource, ∀ body,
        context.body record = .ok body
        → ∀ number,
            memory.created < number
            → wanted.admits context.resource
                (Memory.stored context.resource.idField number body)
              = true

/-- What memory is like after records were created in it that are admitted by some check: the
records that a fetch handed out before are still handed out, with only admitted ones behind them.
-/
structure Memory.Grows (before after : Memory) (resource : ResourceType) (admits : Json → Bool)
    : Prop where
  isOpen : after.Open
  rules : after.rules = before.rules
  bounded : (after.recordsOf resource).length ≤ 2 * (before.recordsOf resource).length
  fetched
    : ∃ added,
        after.fetched resource = before.fetched resource ++ added
        ∧ ∀ record ∈ added, admits record = true

/-- Creating a record for each of some records of the same memory makes it grow. -/
theorem Supplies.grows {before after : Memory} {context : ActionContext} {wanted : Policy}
    (supplies : Supplies before context wanted) (isOpen : before.Open) {target : ResourceType}
    (apart : target = context.resource ∨ context.resource.key ≠ target.key) {bodies : List Json}
    (few : bodies.length ≤ (before.recordsOf context.resource).length)
    (filled
      : ∀ body ∈ bodies, ∃ record ∈ before.recordsOf context.resource,
          context.body record = .ok body)
    (like : (before.grown target bodies).Like after)
    : before.Grows after context.resource (wanted.admits context.resource) where
  isOpen := (isOpen.grown target bodies).like like
  rules := by
    obtain ⟨log, callCount, rfl⟩ := like
    exact before.grown_rules target bodies
  bounded := by
    have same : after.recordsOf context.resource
        = (before.grown target bodies).recordsOf context.resource := by
      obtain ⟨log, callCount, rfl⟩ := like
      rfl
    rw [same]
    rcases apart with rfl | different
    · rw [Memory.recordsOf_grown, List.length_append, Memory.length_storedAll]
      omega
    · rw [before.recordsOf_grown_of_ne different]
      omega
  fetched := by
    obtain ⟨added, behind, created⟩ :=
      Memory.fetched_grown apart supplies.fresh bodies
    refine ⟨added, (like.fetched context.resource).trans behind, fun record member => ?_⟩
    obtain ⟨rfl, among⟩ := created record member
    obtain ⟨body, inside, number, above, rfl⟩ := Memory.exists_of_mem_storedAll among
    obtain ⟨origin, there, expanded⟩ := filled body inside
    exact supplies.satisfied origin there body expanded number above

namespace CreatesMissing

variable {resources : ResourceRegistry} {policy wanted : Policy} {resource : ResourceType}
  {params : Fields}

/-- All that the policy wants is created as one type, which is its own or has nothing to do with it.
-/
theorem exists_target (shape : CreatesMissing resources policy wanted resource params)
    {memory : Memory}
    (supplies : Supplies memory ⟨resource, resources, params, policy.name⟩ wanted)
    {σ : Type} (plane : ControlPlane σ) (options : ExecuteOptions) (matched : List Json)
    : ∃ target,
        (target = resource ∨ resource.key ≠ target.key)
        ∧ ∀ mutation
            ∈ policy.changes (ActionRegistry.builtin plane) resources options resource matched,
            ∃ record ∈ matched, ∃ body,
              ActionContext.body ⟨resource, resources, params, policy.name⟩ record = .ok body
              ∧ mutation = .create target body := by
  cases known : ActionContext.target? ⟨resource, resources, params, policy.name⟩ with
  | none =>
      refine ⟨resource, .inl rfl, fun mutation asked => ?_⟩
      obtain ⟨_, _, _, impossible, _⟩ := shape.exists_create asked
      rw [known] at impossible
      cases impossible
  | some target =>
      refine ⟨target, supplies.apart target known, fun mutation asked => ?_⟩
      obtain ⟨other, record, body, found, member, filled, created⟩ := shape.exists_create asked
      rw [known] at found
      cases found
      exact ⟨record, member, body, filled, created⟩

/-- A run of the policy in which every change succeeds makes memory grow by what was missing. -/
theorem grows (shape : CreatesMissing resources policy wanted resource params)
    {memory after : Memory} (isOpen : memory.Open)
    (supplies : Supplies memory ⟨resource, resources, params, policy.name⟩ wanted)
    {σ : Type} {plane : ControlPlane σ} {options : ExecuteOptions} {matched : List Json}
    (there : matched.Sublist (memory.recordsOf resource)) {lists changes : List Exchange}
    (leads : Memory.plane.Leads memory (lists ++ changes) after)
    (onlyLists : ∀ exchange ∈ lists, exchange.isList = true)
    (noLists : ∀ exchange ∈ changes, exchange.isList = false)
    (succeeded : ∀ exchange ∈ changes, exchange.succeeded = true)
    (asked
      : mutationsOf changes
        = policy.changes (ActionRegistry.builtin plane) resources options resource matched)
    : memory.Grows after resource (wanted.admits resource) := by
  obtain ⟨middle, leadsLists, leadsChanges⟩ := leads.split
  have like := isOpen.leads_lists (Memory.Like.refl memory) leadsLists onlyLists
  obtain ⟨target, apart, creates⟩ := shape.exists_target supplies plane options matched
  rw [← asked] at creates
  obtain ⟨bodies, created, grown⟩ :=
    isOpen.leads_creates like target leadsChanges (fun exchange member => by
      obtain ⟨mutation, response, called⟩ :=
        Exchange.exists_of_succeeded (noLists exchange member) (succeeded exchange member)
      have among : mutation ∈ mutationsOf changes :=
        List.mem_filterMap.mpr ⟨exchange, member, by rw [Exchange.mutation?, called]⟩
      obtain ⟨_, _, body, _, rfl⟩ := creates mutation among
      exact ⟨body, response, called⟩)
  refine supplies.grows isOpen apart ?_ (fun body member => ?_) grown
  · calc
      bodies.length = (mutationsOf changes).length := by rw [created, List.length_map]
      _ ≤ matched.length := by
            rw [asked]
            exact shape.length_changes_le plane options matched
      _ ≤ (memory.recordsOf resource).length := there.length_le
  · have among : .create target body ∈ mutationsOf changes := by
      rw [created]
      exact List.mem_map_of_mem member
    obtain ⟨record, inside, _, filled, same⟩ := creates _ among
    cases same
    exact ⟨record, there.subset inside, filled⟩

end CreatesMissing

/-- Records that are admitted are not missing: memory that grew by them lacks what it lacked before.
-/
theorem Memory.Grows.filter_fetched {before after : Memory} {resource : ResourceType}
    {admits : Json → Bool} (grows : before.Grows after resource admits)
    : (after.fetched resource).filter (fun record => !admits record)
      = (before.fetched resource).filter (fun record => !admits record) := by
  obtain ⟨added, behind, admitted⟩ := grows.fetched
  rw [behind, List.filter_append]
  have none : added.filter (fun record => !admits record) = [] := by
    refine List.filter_eq_nil_iff.mpr (fun record member => ?_)
    simp [admitted record member]
  rw [none, List.append_nil]

theorem Memory.Grows.length_fetched_le {before after : Memory} {resource : ResourceType}
    {admits : Json → Bool} (grows : before.Grows after resource admits)
    : (before.fetched resource).length ≤ (after.fetched resource).length := by
  obtain ⟨added, behind, _⟩ := grows.fetched
  rw [behind, List.length_append]
  exact Nat.le_add_right _ _

-----------------------------------------------------------------------------------------
-- Two runs
-----------------------------------------------------------------------------------------

/-- A policy that creates records for what is missing repeats itself. After a run in which every
call succeeded, it matches as many records once more and creates for them what it created before,
call by call. So it creates nothing the second time only if there was nothing to create the first
time.
-/
theorem Policy.run_again {resources : ResourceRegistry} {policy wanted : Policy}
    {resource : ResourceType} {params : Fields} {memory : Memory} {options : ExecuteOptions}
    {maxDepth pageBudget : Nat} {report : RunReport} {middle : Recorded Memory}
    (shape : CreatesMissing resources policy wanted resource params)
    (isOpen : memory.Open)
    (supplies : Supplies memory ⟨resource, resources, params, policy.name⟩ wanted)
    (enough : 2 * (memory.recordsOf resource).length < pageBudget)
    (ran
      : outcomeOf
          (policy.run (.recording Memory.plane resources options maxDepth pageBudget))
          (.start memory)
        = (.ok report, middle))
    (succeeded : ∀ exchange ∈ middle.exchanges, exchange.succeeded = true)
    : ∃ again final,
        outcomeOf
            (policy.run (.recording Memory.plane resources options maxDepth pageBudget))
            (.start middle.state)
          = (.ok again, final)
        ∧ again.matched = report.matched
        ∧ mutationsOf final.exchanges = mutationsOf middle.exchanges
        ∧ ∀ mutation ∈ mutationsOf final.exchanges,
            ∃ target body, mutation = .create target body := by
  have room : (memory.recordsOf resource).length < pageBudget := by omega
  obtain ⟨within, granted⟩ := shape.passed_of_report isOpen room ran
  obtain ⟨matched, _, _, lists, changes, selected, ranFirst, exchanges, leads, onlyLists, noLists,
    first⟩ := shape.runs isOpen granted options within room
  cases ranFirst.symm.trans ran
  cases limits : policy.checkLimits matched.length (memory.fetched resource).length with
  | error refusal =>
      rw [limits] at first
      cases first.1
  | ok _ =>
      rw [limits] at first
      obtain ⟨⟨_, same, matchedBefore, _⟩, asked⟩ := first
      cases same
      have among : matched.Sublist (memory.fetched resource) := by
        rw [selected]
        exact List.filter_sublist
      have grows :=
        shape.grows isOpen supplies (among.trans (memory.fetched_sublist resource)) leads onlyLists
          noLists (fun exchange member => succeeded exchange (by simp [exchanges, member])) asked
      have grantedAgain : middle.state.failure? resource "list" "list" [] = none := by
        rw [← granted, Memory.failure?, grows.rules]
        rfl
      have roomAgain : (middle.state.recordsOf resource).length < pageBudget :=
        Nat.lt_of_le_of_lt grows.bounded enough
      obtain ⟨again, outcome, final, listsAgain, changesAgain, selectedAgain, ranAgain,
        exchangesAgain, _, onlyListsAgain, _, second⟩ :=
        shape.runs grows.isOpen grantedAgain options within roomAgain
      rw [grows.filter_fetched, ← selected] at selectedAgain
      subst selectedAgain
      have limitsAgain :=
        Policy.checkLimits_of_larger among.length_le grows.length_fetched_le limits
      rw [limitsAgain] at second
      obtain ⟨⟨reported, rfl, matchedAgain, _⟩, askedAgain⟩ := second
      have created : mutationsOf middle.exchanges = mutationsOf changes := by
        rw [exchanges, mutationsOf_lists_append changes onlyLists]
      have createdAgain : mutationsOf final.exchanges = mutationsOf changesAgain := by
        rw [exchangesAgain, mutationsOf_lists_append changesAgain onlyListsAgain]
      refine ⟨reported, final, ranAgain, matchedAgain.trans matchedBefore.symm, ?_, ?_⟩
      · rw [created, createdAgain, asked, askedAgain]
      · intro mutation member
        rw [createdAgain, askedAgain] at member
        obtain ⟨target, _, body, _, _, _, new⟩ := shape.exists_create member
        exact ⟨target, body, new⟩

-----------------------------------------------------------------------------------------
-- An alarm that is guarded twice
-----------------------------------------------------------------------------------------

namespace Sample

/-- A rule in a namespace, named after the alarm that it is made for. -/
def guardRule : Fields :=
  [("rule", .object [("name", .string "\x7balarm_id\x7d-guard"), ("namespace", .string "SYS.VPC")])]

/-- Creates a rule in a namespace for what has no alarm in it. -/
def guard : Policy :=
  ⟨
    "guard", "alarm", none, [.missing (inSpace "SYS.VPC")], [⟨"create-alarm-rule", guardRule⟩],
    none, none
  ⟩

/-- An alarm in the namespace and one outside of it. -/
def stock : Memory :=
  .ofRecords [("alarm", [alarm "a" "SYS.VPC", alarm "b" "SYS.ECS"])]

def guardSetting : RunSetting (Recorded Memory) :=
  .recording Memory.plane ⟨[("alarm", .alarm)]⟩ ⟨.inOrder 1, false⟩ 1 5

/-- The rule that is made for the alarm outside of the namespace. -/
def guarding : Json :=
  .object [("name", .string "b-guard"), ("namespace", .string "SYS.VPC")]

theorem guard_shape
    : CreatesMissing ⟨[("alarm", .alarm)]⟩ guard (inSpace "SYS.VPC") .alarm guardRule where
  filters := rfl
  actions := rfl
  known := rfl
  inner := rfl
  plain := rfl

theorem guard_valid
    : ActionSpec.IsValid (ActionRegistry.builtin Memory.plane.recorded)
        ⟨"create-alarm-rule", guardRule⟩ := by
  obtain ⟨_, _, _, _, create, _⟩ := ActionRegistry.get?_builtin Memory.plane.recorded
  exact ⟨_, create, rfl⟩

theorem stock_records
    : stock.recordsOf .alarm = [alarm "a" "SYS.VPC", alarm "b" "SYS.ECS"] := by
  rfl

theorem stock_missing
    : (stock.fetched .alarm).filter (fun record => !(inSpace "SYS.VPC").admits .alarm record)
      = [alarm "b" "SYS.ECS"] := by
  cbv

theorem guard_body_inside
    : ActionContext.body ⟨.alarm, ⟨[("alarm", .alarm)]⟩, guardRule, "guard"⟩ (alarm "a" "SYS.VPC")
      = .ok (.object [("name", .string "a-guard"), ("namespace", .string "SYS.VPC")]) := by
  cbv

theorem guard_body_outside
    : ActionContext.body ⟨.alarm, ⟨[("alarm", .alarm)]⟩, guardRule, "guard"⟩ (alarm "b" "SYS.ECS")
      = .ok guarding := by
  cbv

theorem guard_creations
    : ActionContext.creations ⟨.alarm, ⟨[("alarm", .alarm)]⟩, guardRule, "guard"⟩
        [alarm "b" "SYS.ECS"]
      = [.create .alarm guarding] := by
  have known
      : ActionContext.target? ⟨.alarm, ⟨[("alarm", .alarm)]⟩, guardRule, "guard"⟩
        = some .alarm := rfl
  simp [ActionContext.creations, known, guard_body_outside, Except.toOption]

theorem guard_admits (name : String) (number : Nat)
    : (inSpace "SYS.VPC").admits .alarm
        (Memory.stored "alarm_id" number
          (.object [("name", .string name), ("namespace", .string "SYS.VPC")]))
      = true := by
  cbv

theorem guard_supplies
    : Supplies stock ⟨.alarm, ⟨[("alarm", .alarm)]⟩, guardRule, "guard"⟩ (inSpace "SYS.VPC") where
  apart := by
    intro target known
    have same : ResourceType.alarm = target := Option.some.inj known
    exact .inl same.symm
  fresh := by
    intro number _ member
    have old : identities (stock.recordsOf .alarm) "alarm_id" = ["a", "b"] := by cbv
    change Memory.newId number ∈ identities (stock.recordsOf .alarm) "alarm_id" at member
    rw [old] at member
    have long := Memory.le_length_newId number
    rcases List.mem_cons.mp member with same | member
    · rw [same] at long
      exact absurd long (by decide)
    · rw [List.mem_singleton.mp member] at long
      exact absurd long (by decide)
  satisfied := by
    intro record member body expanded number _
    change record ∈ stock.recordsOf .alarm at member
    rw [stock_records] at member
    rcases List.mem_cons.mp member with rfl | member
    · cases guard_body_inside.symm.trans expanded
      exact guard_admits "a-guard" number
    · cases List.mem_singleton.mp member
      cases guard_body_outside.symm.trans expanded
      exact guard_admits "b-guard" number

/-- The first run creates one rule, and every call of it succeeds. -/
theorem guard_ran
    : ∃ report middle,
        outcomeOf (guard.run guardSetting) (.start stock) = (.ok report, middle)
        ∧ report.matched = 1
        ∧ (∀ exchange ∈ middle.exchanges, exchange.succeeded = true)
        ∧ mutationsOf middle.exchanges = [.create .alarm guarding] := by
  have isOpen : stock.Open := ⟨rfl, rfl, rfl⟩
  have granting : stock.Granting := ⟨rfl, rfl⟩
  obtain ⟨matched, _, middle, lists, changes, selected, ran, exchanges, leads, onlyLists, _,
    step⟩ :=
    guard_shape.runs isOpen (granting.failure? _ _ _ _) ⟨.inOrder 1, false⟩
      (by decide : _ ≤ 1) (by decide : _ < 5)
  rw [stock_missing] at selected
  subst selected
  have limits : guard.checkLimits 1 (stock.fetched .alarm).length = .ok () := rfl
  rw [List.length_singleton, limits] at step
  obtain ⟨⟨report, rfl, matched, _⟩, asked⟩ := step
  refine ⟨report, middle, ran, matched, ?_, ?_⟩
  · rw [exchanges]
    exact granting.succeeded leads
  · rw [exchanges, mutationsOf_lists_append changes onlyLists, asked,
      guard_shape.changes_of_valid guard_valid rfl]
    exact guard_creations

end Sample

/-- Two alarms, one of them outside of the namespace, and two runs that create the same rule. -/
theorem Policy.run_again_guard
    : ∃ report middle again final,
        outcomeOf (Sample.guard.run Sample.guardSetting) (.start Sample.stock)
          = (.ok report, middle)
        ∧ mutationsOf middle.exchanges = [.create .alarm Sample.guarding]
        ∧ outcomeOf (Sample.guard.run Sample.guardSetting) (.start middle.state)
          = (.ok again, final)
        ∧ again.matched = 1
        ∧ mutationsOf final.exchanges = [.create .alarm Sample.guarding] := by
  obtain ⟨report, middle, ran, matched, succeeded, created⟩ := Sample.guard_ran
  obtain ⟨again, final, ranAgain, matchedAgain, repeated, _⟩ :=
    Policy.run_again Sample.guard_shape ⟨rfl, rfl, rfl⟩ Sample.guard_supplies (by decide) ran
      succeeded
  exact ⟨report, middle, again, final, ran, created, ranAgain, matchedAgain.trans matched,
    repeated.trans created⟩

end Remediation
