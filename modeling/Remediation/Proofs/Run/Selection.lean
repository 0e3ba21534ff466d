import Mathlib
import Remediation.Proofs.Filter.Meaning
import Remediation.Proofs.Resource.Fetch
import Remediation.Proofs.Run.Steps

/-! What evaluating a policy selects. On a control plane whose lists do not change while they are
read, the evaluation is the meaning of the policy's filters on what its fetch hands out, and every
filter for what is missing is decided by the evaluation of its own policy.
-/

namespace Remediation

variable {σ : Type}

-----------------------------------------------------------------------------------------
-- Lists that stay what they are
-----------------------------------------------------------------------------------------

/-- While a property of its state holds, which asking for a page does not break, a control plane is
not cancelled and answers a request for a page by the type and the cursor alone.
-/
structure ControlPlane.Steady (plane : ControlPlane σ) (holds : σ → Prop)
    (answer : ResourceType → Option String → Except RemoteError Page)
    : Prop where
  running : ∀ {state}, holds state → plane.cancelled state = false
  answers
    : ∀ {state} (resource : ResourceType) (cursor : Option String),
        holds state
        → ((plane.listPage resource cursor).run state).1 = answer resource cursor
  kept
    : ∀ {state} (resource : ResourceType) (cursor : Option String),
        holds state
        → holds ((plane.listPage resource cursor).run state).2

/-- Steady lists are read alike from any two states, and reading keeps the state steady.
Witness: induction on the budget; both readings get the same page and go on from the same cursor.
-/
theorem ControlPlane.Steady.read {plane : ControlPlane σ} {holds : σ → Prop}
    {answer : ResourceType → Option String → Except RemoteError Page}
    (steady : plane.Steady holds answer) (resource : ResourceType) (budget : Nat)
    (cursor : Option String) {first second : σ} (atFirst : holds first) (atSecond : holds second)
    : ((Listing.read plane resource budget cursor).run first).1
          = ((Listing.read plane resource budget cursor).run second).1
        ∧ holds ((Listing.read plane resource budget cursor).run first).2 := by
  induction budget generalizing cursor first second with
  | zero => exact ⟨rfl, atFirst⟩
  | succ budget ih =>
      have keptFirst := steady.kept resource cursor atFirst
      have keptSecond := steady.kept resource cursor atSecond
      have same := (steady.answers resource cursor atFirst).trans
        (steady.answers resource cursor atSecond).symm
      rw [Listing.run_read_succ, Listing.run_read_succ, steady.running atFirst,
        steady.running atSecond]
      simp only [Bool.false_eq_true, if_false]
      cases readFirst : (plane.listPage resource cursor).run first with
      | mk page middle =>
          cases readSecond : (plane.listPage resource cursor).run second with
          | mk otherPage otherMiddle =>
              simp only [readFirst, readSecond] at keptFirst keptSecond same
              subst same
              cases page with
              | error source => exact ⟨rfl, keptFirst⟩
              | ok page =>
                  dsimp only
                  cases page.next? with
                  | none => exact ⟨rfl, keptFirst⟩
                  | some next =>
                      dsimp only
                      by_cases repeated : cursor = some next
                      · simp only [repeated, if_true]
                        exact ⟨trivial, keptFirst⟩
                      · simp only [repeated, if_false]
                        obtain ⟨alike, kept⟩ := ih (some next) keptFirst keptSecond
                        exact ⟨by rw [alike], kept⟩

/-- A steady page is followed by what stands behind it, if it names a cursor of its own. -/
theorem ControlPlane.Steady.read_succ {plane : ControlPlane σ} {holds : σ → Prop}
    {answer : ResourceType → Option String → Except RemoteError Page}
    (steady : plane.Steady holds answer) {resource : ResourceType} {cursor : Option String}
    {page : Page} (answered : answer resource cursor = .ok page) (budget : Nat) {state : σ}
    (atState : holds state)
    : ∃ after,
        holds after
        ∧ ((Listing.read plane resource (budget + 1) cursor).run state).1
          = match page.next? with
            | none => ⟨[page], .complete⟩
            | some next =>
                if cursor = some next then ⟨[page], .repeatedCursor⟩
                else
                  ((Listing.read plane resource budget (some next)).run after).1.after page := by
  have kept := steady.kept resource cursor atState
  have first := (steady.answers resource cursor atState).trans answered
  rw [Listing.run_read_succ, steady.running atState]
  simp only [Bool.false_eq_true, if_false]
  cases read : (plane.listPage resource cursor).run state with
  | mk outcome after =>
      simp only [read] at kept first
      subst first
      refine ⟨after, kept, ?_⟩
      dsimp only
      cases page.next? with
      | none => rfl
      | some next =>
          dsimp only
          split <;> rfl

/-- Steady lists are fetched alike from any two states. -/
theorem ControlPlane.Steady.fetchAll {plane : ControlPlane σ} {holds : σ → Prop}
    {answer : ResourceType → Option String → Except RemoteError Page}
    (steady : plane.Steady holds answer) (resource : ResourceType) (budget : Nat)
    {first second : σ} (atFirst : holds first) (atSecond : holds second)
    : ((fetchAll plane budget resource).run first).1
          = ((fetchAll plane budget resource).run second).1
        ∧ holds ((fetchAll plane budget resource).run first).2 := by
  obtain ⟨alike, kept⟩ := steady.read resource budget none atFirst atSecond
  exact ⟨congrArg (Listing.records resource) alike, kept⟩

-----------------------------------------------------------------------------------------
-- Evaluation
-----------------------------------------------------------------------------------------

/-- What a run can select from, as the fetches from a state hand it out. -/
def RunSetting.inventory (setting : RunSetting σ) (state : σ) : Inventory where
  resources := setting.resources
  records := fun resource =>
    ((fetchAll setting.plane setting.pageBudget resource).run state).1.toOption.getD []

/-- The records of a policy's type, split by the meaning of its filters. -/
def Policy.selection (inventory : Inventory) (policy : Policy) (resource : ResourceType)
    : Evaluation where
  population := (inventory.records resource).length
  matched :=
    (inventory.records resource).filter
      (policy.filterTree.holds inventory resource.idField)
  excluded :=
    (inventory.records resource).filter
      (fun record => !policy.filterTree.holds inventory resource.idField record)

/-- What a run has to be able to do from a state for the sake of a policy: know its type, fetch its
records, and see no filter for what is missing below a list. -/
structure Policy.Evaluable (setting : RunSetting σ) (state : σ) (policy : Policy) : Prop where
  known : ∃ resource, setting.resources.get? policy.resource = some resource
  fetched
    : ∀ resource,
        setting.resources.get? policy.resource = some resource
        → ∃ records,
            ((fetchAll setting.plane setting.pageBudget resource).run state).1 = .ok records
  lists : Filter.areMissingFreeInLists policy.filters = true

/-- The identities that a policy selects are those of its selection. -/
theorem Policy.selectedIds_eq {inventory : Inventory} {policy : Policy}
    {resource : ResourceType} (known : inventory.resources.get? policy.resource = some resource)
    : policy.selectedIds inventory
      = identities (policy.selection inventory resource).matched resource.idField := by
  cases policy
  simp only [Policy.selectedIds, Policy.selection, Policy.filterTree] at known ⊢
  rw [known]
  simp only [Filter.holds]

/-- A policy's compiled tree splits records like the meaning of its filters. -/
theorem Policy.partition_compiled {policy : Policy}
    (lists : Filter.areMissingFreeInLists policy.filters = true) (inventory : Inventory)
    (resource : ResourceType)
    : (Matcher.compile resource.idField policy.filterTree
          (policy.nested.map (Policy.selectedIds inventory))).1.partition
          (inventory.records resource)
      = ((policy.selection inventory resource).matched,
        (policy.selection inventory resource).excluded) := by
  obtain ⟨matcher, compiled, meaning⟩ :=
    Matcher.compile_meaning inventory resource.idField policy.filterTree
      (by simpa only [Policy.filterTree, Filter.isMissingFreeInLists] using lists) []
  have sets
      : policy.filterTree.ownSets inventory ++ []
        = policy.nested.map (Policy.selectedIds inventory) := by
    simp only [Filter.ownSets, Policy.filterTree, Filter.missingPolicies, Policy.nested,
      List.append_nil]
  rw [sets] at compiled
  rw [compiled]
  have accepts
      : matcher.accepts = policy.filterTree.holds inventory resource.idField :=
    funext meaning
  simp only [Matcher.partition, accepts, List.partition_eq_filter_filter, Policy.selection]
  rfl

/-- A policy is evaluated to its selection wherever its type and the types inside of it are known
and can be fetched, as long as the lists are steady.
Witness: induction over the nesting; the sets of the policies right inside of a policy are those
that its meaning asks for, so the compiled filters mean what the filters mean.
-/
theorem Policy.evaluate_selection {setting : RunSetting σ} {holds : σ → Prop}
    {answer : ResourceType → Option String → Except RemoteError Page}
    (steady : setting.plane.Steady holds answer) {start : σ} (atStart : holds start)
    (policy : Policy)
    (evaluable : ∀ inner, policy.Contains inner → inner.Evaluable setting start)
    (depth : Nat) (within : depth + policy.nestingDepth ≤ setting.maxDepth)
    {resource : ResourceType}
    (known : setting.resources.get? policy.resource = some resource)
    {state : σ} (atState : holds state)
    : ∃ final,
        holds final
        ∧ outcomeOf (policy.evaluate setting depth) state
            = (.ok (policy.selection (setting.inventory start) resource), final) := by
  induction policy using Policy.nesting_induction generalizing depth resource state with
  | step policy ih =>
      have evaluableHere := evaluable policy (.self policy)
      obtain ⟨records, fetched⟩ := evaluableHere.fetched resource known
      obtain ⟨alike, kept⟩ :=
        steady.fetchAll resource setting.pageBudget atState atStart
      have inner
          : ∀ inner ∈ policy.nested,
              ∀ state,
                holds state
                → ∃ final,
                    holds final
                    ∧ outcomeOf (inner.matchedIds setting (depth + 1)) state
                        = (.ok (inner.selectedIds (setting.inventory start)), final) := by
        intro inner nested state atState
        have deeper := Policy.nestingDepth_nested nested
        obtain ⟨innerResource, innerKnown⟩ :=
          (evaluable inner (.inside nested (.self inner))).known
        obtain ⟨final, held, evaluated⟩ :=
          ih inner nested
            (fun deepest contained => evaluable deepest (.inside nested contained))
            (depth + 1) (by omega) innerKnown atState
        refine ⟨final, held, ?_⟩
        rw [Policy.matchedIds_eq, RunSetting.resource_of_known innerKnown, pure_bind,
          outcomeOf_bind, evaluated, Policy.selectedIds_eq innerKnown]
        rfl
      obtain ⟨final, held, sets⟩ := outcomeOf_mapM_eq_ok policy.nested inner _ kept
      refine ⟨final, held, ?_⟩
      have handed
          : (setting.inventory start).records resource = records := by
        simp only [RunSetting.inventory, fetched, Except.toOption, Option.getD_some]
      rw [Policy.evaluate_eq, RunSetting.checkDepth_of_le (by omega), pure_bind,
        RunSetting.resource_of_known known, pure_bind, outcomeOf_bind,
        RunSetting.outcomeOf_fetch, alike, fetched]
      simp only [Except.mapError, outcomeOf_bind, sets, outcomeOf_pure]
      rw [← handed, Policy.partition_compiled evaluableHere.lists]
      rfl

/-- Evaluating a policy answers the number of the records of its type, those of them in the order of
the fetch that satisfy its filters, and the others in that order. Each of these records has an
identity, and the set that decides a filter for what is missing, at whatever level, is the one of
the identities that the evaluation of its own policy matches.
-/
theorem Policy.evaluate_meaning {setting : RunSetting σ} {holds : σ → Prop}
    {answer : ResourceType → Option String → Except RemoteError Page}
    (steady : setting.plane.Steady holds answer) {state : σ} (start : holds state)
    (policy : Policy)
    (evaluable : ∀ inner, policy.Contains inner → inner.Evaluable setting state)
    (depth : Nat) (within : depth + policy.nestingDepth ≤ setting.maxDepth)
    : ∃ resource records final,
        setting.resources.get? policy.resource = some resource
        ∧ ((fetchAll setting.plane setting.pageBudget resource).run state).1 = .ok records
        ∧ Distinguished resource.idField records
        ∧ outcomeOf (policy.evaluate setting depth) state
            = (.ok
                {
                  population := records.length,
                  matched :=
                    records.filter
                      (policy.filterTree.holds (setting.inventory state) resource.idField),
                  excluded :=
                    records.filter (fun record =>
                      !policy.filterTree.holds (setting.inventory state) resource.idField record)
                },
              final)
        ∧ ∀ inner,
            policy.Contains inner
            → ∀ level,
                level + inner.nestingDepth ≤ setting.maxDepth
                → ∃ innerResource evaluation after,
                    setting.resources.get? inner.resource = some innerResource
                    ∧ outcomeOf (inner.evaluate setting level) state = (.ok evaluation, after)
                    ∧ inner.selectedIds (setting.inventory state)
                        = identities evaluation.matched innerResource.idField := by
  obtain ⟨resource, known⟩ := (evaluable policy (.self policy)).known
  obtain ⟨records, fetched⟩ := (evaluable policy (.self policy)).fetched resource known
  obtain ⟨final, _, evaluated⟩ :=
    policy.evaluate_selection steady start evaluable depth within known start
  have handed : (setting.inventory state).records resource = records := by
    simp only [RunSetting.inventory, fetched, Except.toOption, Option.getD_some]
  refine ⟨resource, records, final, known, fetched, Listing.records_distinguished fetched, ?_, ?_⟩
  · rw [evaluated, Policy.selection, handed]
  · intro inner inside level innerWithin
    obtain ⟨innerResource, innerKnown⟩ := (evaluable inner inside).known
    obtain ⟨after, _, innerEvaluated⟩ :=
      inner.evaluate_selection steady start
        (fun deeper contained => evaluable deeper (inside.trans contained)) level innerWithin
        innerKnown start
    exact ⟨innerResource, _, after, innerKnown, innerEvaluated, Policy.selectedIds_eq innerKnown⟩

-----------------------------------------------------------------------------------------
-- Two filters for what is missing side by side, one of them negated
-----------------------------------------------------------------------------------------

namespace Sample

/-- An alarm in a namespace. -/
def alarm (id space : String) : Json :=
  .object [("alarm_id", .string id), ("namespace", .string space)]

def alarms : List Json :=
  [alarm "a" "SYS.VPC", alarm "b" "SYS.ECS", alarm "c" "SYS.OBS"]

/-- A control plane that counts the requests for pages and answers each with all alarms. -/
def plane : ControlPlane Nat :=
  { ControlPlane.vacant with listPage := fun _ _ count => (.ok ⟨alarms, none⟩, count + 1) }

def setting : RunSetting Nat :=
  {
    plane := plane,
    resources := ⟨[("alarm", .alarm)]⟩,
    actions := [],
    options := ⟨.inOrder 8, false⟩,
    maxDepth := 1,
    pageBudget := 1
  }

/-- The alarms in a namespace. -/
def inSpace (space : String) : Policy :=
  ⟨"", "alarm", none, [.value ⟨"namespace", .eq, some (.string space), none⟩], [], none, none⟩

/-- The alarms that are not in one namespace, and those in another one. -/
def twoMissing : Policy :=
  ⟨
    "two", "alarm", none,
    [.any [.missing (inSpace "SYS.VPC"), .negation (.missing (inSpace "SYS.ECS"))]],
    [], none, none
  ⟩

theorem plane_steady
    : plane.Steady (fun _ => True) (fun _ _ => .ok ⟨alarms, none⟩) where
  running := fun _ => rfl
  answers := fun _ _ _ => rfl
  kept := fun _ _ _ => trivial

theorem alarm_known : setting.resources.get? "alarm" = some .alarm := by
  rfl

theorem alarms_fetched
    : ((fetchAll setting.plane setting.pageBudget .alarm).run 0).1 = .ok alarms := by
  rfl

theorem inventory_records : (setting.inventory 0).records .alarm = alarms := by
  simp only [RunSetting.inventory, alarms_fetched, Except.toOption, Option.getD_some]

theorem selectedIds_vpc : (inSpace "SYS.VPC").selectedIds (setting.inventory 0) = ["a"] := by
  rw [Policy.selectedIds_eq alarm_known, Policy.selection, inventory_records]
  cbv

theorem selectedIds_ecs : (inSpace "SYS.ECS").selectedIds (setting.inventory 0) = ["b"] := by
  rw [Policy.selectedIds_eq alarm_known, Policy.selection, inventory_records]
  cbv

theorem inSpace_evaluable (space : String) : (inSpace space).Evaluable setting 0 where
  known := ⟨.alarm, alarm_known⟩
  fetched := fun _ _ => ⟨_, rfl⟩
  lists := rfl

theorem twoMissing_evaluable (inner : Policy) (inside : twoMissing.Contains inner)
    : inner.Evaluable setting 0 := by
  have leaf (space : String) (deeper : Policy) (below : (inSpace space).Contains deeper)
      : deeper.Evaluable setting 0 := by
    cases below with
    | self => exact inSpace_evaluable space
    | inside nested _ => cases nested
  cases inside with
  | self => exact ⟨⟨.alarm, alarm_known⟩, (inSpace_evaluable "").fetched, rfl⟩
  | inside nested below =>
      rcases List.mem_cons.mp nested with rfl | nested
      · exact leaf _ _ below
      · rcases List.mem_cons.mp nested with rfl | nested
        · exact leaf _ _ below
        · cases nested

end Sample

/-- Each of the two filters is decided by the set of its own policy: with the sets exchanged, the
first alarm would match and the second one would not. -/
theorem Policy.evaluate_meaning_twoMissing
    : (∀ inner, Sample.twoMissing.Contains inner → inner.Evaluable Sample.setting 0)
      ∧ ∃ final,
          outcomeOf (Sample.twoMissing.evaluate Sample.setting 0) 0
            = (.ok
                {
                  population := 3,
                  matched := [Sample.alarm "b" "SYS.ECS", Sample.alarm "c" "SYS.OBS"],
                  excluded := [Sample.alarm "a" "SYS.VPC"]
                },
              final) := by
  refine ⟨Sample.twoMissing_evaluable, ?_⟩
  obtain ⟨resource, records, final, known, fetched, _, evaluated, _⟩ :=
    Policy.evaluate_meaning Sample.plane_steady trivial Sample.twoMissing
      Sample.twoMissing_evaluable 0 (Nat.le_refl 1)
  cases Sample.alarm_known.symm.trans known
  cases Sample.alarms_fetched.symm.trans fetched
  refine ⟨final, evaluated.trans ?_⟩
  simp only [Sample.twoMissing, Policy.filterTree, Filter.holds, Filter.allHold, Filter.anyHolds,
    Sample.selectedIds_vpc, Sample.selectedIds_ecs]
  rfl

end Remediation
