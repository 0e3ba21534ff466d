import Remediation.Proofs.Policy.Erasure
import Remediation.Proofs.Run.Transparency

/-! The phases of a run. Evaluating a policy asks for pages only, at every level of nesting, and
acting on what matched asks for changes only; nothing is changed unless all pages came and all
checks passed.
-/

namespace Remediation

variable {σ α β : Type}

-----------------------------------------------------------------------------------------
-- Calls that ask for pages
-----------------------------------------------------------------------------------------

/-- Calls of a step that reads: each asks for a page while the run is not cancelled, and if one of
them is refused, then something is the case. -/
structure Reads (refused : Prop) (cancelled : Bool) (made : List Exchange) : Prop where
  onlyLists : ∀ exchange ∈ made, exchange.isList = true
  running : madeWhileRunning cancelled made = true
  ifFailed : ∀ exchange ∈ made, exchange.isFailedList = true → refused

namespace Reads

variable {refused overall : Prop} {cancelled : Bool} {made more : List Exchange}

theorem nothing (refused : Prop) (cancelled : Bool) : Reads refused cancelled [] where
  onlyLists := by simp
  running := rfl
  ifFailed := by simp

theorem weaken (reads : Reads refused cancelled made) (follows : refused → overall)
    : Reads overall cancelled made where
  onlyLists := reads.onlyLists
  running := reads.running
  ifFailed := fun exchange member failed => follows (reads.ifFailed exchange member failed)

/-- One request for a page is refused if it is answered with an error. -/
theorem page (resource : ResourceType) (cursor : Option String)
    (answer : Except RemoteError Page) (after : Bool)
    : Reads (∃ source, answer = .error source) false [⟨.list resource cursor answer, after⟩] where
  onlyLists := by simp [Exchange.isList]
  running := rfl
  ifFailed := by
    intro exchange member failed
    rw [List.mem_singleton] at member
    subst member
    cases answer with
    | ok page => cases failed
    | error source => exact ⟨source, rfl⟩

/-- Reading goes on only behind pages that were all answered. -/
theorem append (reads : Reads refused cancelled made) (answered : ¬refused)
    (readsMore : Reads overall (cancelledAfter cancelled made) more)
    : Reads overall cancelled (made ++ more) where
  onlyLists := by
    intro exchange member
    rcases List.mem_append.mp member with before | after
    · exact reads.onlyLists exchange before
    · exact readsMore.onlyLists exchange after
  running := by
    rw [madeWhileRunning_append, reads.running, readsMore.running]
    rfl
  ifFailed := by
    intro exchange member failed
    rcases List.mem_append.mp member with before | after
    · exact absurd (reads.ifFailed exchange before failed) answered
    · exact readsMore.ifFailed exchange after failed

end Reads

/-- The outcome of a run, or of a step of it, for which a page was refused. -/
def IsRefused (outcome : Except RunError α) : Prop :=
  ∃ resource source, outcome = .error (.fetch (.remote resource source))

/-- A step of a run reads if it asks for pages only and fails as soon as one of them is refused. -/
def ControlPlane.OnlyReads (plane : ControlPlane σ) (step : RunM (Recorded σ) α) : Prop :=
  plane.Makes (fun cancelled made outcome => Reads (IsRefused outcome) cancelled made) step.run

namespace ControlPlane.OnlyReads

variable {plane : ControlPlane σ}

theorem pure (answer : α) : plane.OnlyReads (pure answer : RunM (Recorded σ) α) :=
  Makes.pure (Reads.nothing _)

theorem throw (error : RunError) : plane.OnlyReads (throw error : RunM (Recorded σ) α) :=
  Makes.pure (Reads.nothing _)

theorem bind {step : RunM (Recorded σ) α} {next : α → RunM (Recorded σ) β}
    (reads : plane.OnlyReads step) (goesOn : ∀ answer, plane.OnlyReads (next answer))
    : plane.OnlyReads (step >>= next) := by
  refine Makes.bindStep _ reads goesOn ?_ ?_
  · intro cancelled made error reads
    refine reads.weaken ?_
    rintro ⟨resource, source, same⟩
    cases same
    exact ⟨resource, source, rfl⟩
  · intro cancelled made answer more result reads readsMore
    refine reads.append ?_ readsMore
    rintro ⟨_, _, impossible⟩
    cases impossible

theorem mapM {step : α → RunM (Recorded σ) β} (list : List α)
    (each : ∀ element ∈ list, plane.OnlyReads (step element))
    : plane.OnlyReads (list.mapM step) := by
  induction list with
  | nil => exact .pure _
  | cons element rest ih =>
      rw [List.mapM_cons]
      refine (each element List.mem_cons_self).bind (fun first => ?_)
      exact (ih (fun other member => each other (List.mem_cons_of_mem _ member))).bind
        (fun others => .pure _)

/-- Once a step that reads is over, the calls of the run so far are those that it made. -/
theorem fromStart {step : RunM (Recorded σ) α} (reads : plane.OnlyReads step) {start : σ}
    {outcome : Except RunError α} {final : Recorded σ}
    (ended : outcomeOf step (.start start) = (outcome, final))
    : plane.Leads start final.exchanges final.state
      ∧ Reads (IsRefused outcome) (plane.cancelled start) final.exchanges := by
  obtain ⟨made, recorded, leads, holds⟩ := reads (.start start)
  change (outcomeOf step (.start start)).2.exchanges = made at recorded
  change plane.Leads start made (outcomeOf step (.start start)).2.state at leads
  change Reads (IsRefused (outcomeOf step (.start start)).1) (plane.cancelled start) made at holds
  rw [ended] at recorded leads holds
  subst recorded
  exact ⟨leads, holds⟩

end ControlPlane.OnlyReads

-----------------------------------------------------------------------------------------
-- Evaluation reads
-----------------------------------------------------------------------------------------

/-- Reading a list asks for its pages and ends at the first one that is refused. Witness: induction
on the budget.
-/
theorem Listing.read_makes (plane : ControlPlane σ) (resource : ResourceType) (budget : Nat)
    (cursor : Option String)
    : plane.Makes
        (fun cancelled made listing =>
          Reads (∃ source, listing.ending = .failed (.remote resource.key source)) cancelled made)
        (Listing.read plane.recorded resource budget cursor) := by
  induction budget generalizing cursor with
  | zero => exact .pure (Reads.nothing _)
  | succ budget ih =>
      rw [Listing.read_succ]
      refine .ofCancelled (.pure (fun cancelled _ => Reads.nothing _ _)) ?_
      have goesOn (answer : Except RemoteError Page)
          : plane.Makes
              (fun cancelled made listing =>
                (∀ source,
                  answer = .error source
                  → made = [] ∧ listing.ending = .failed (.remote resource.key source))
                ∧ (answer.isOk = true
                  → Reads (∃ source, listing.ending = .failed (.remote resource.key source))
                      cancelled made))
              (Listing.goOn plane.recorded resource budget cursor answer) := by
        cases answer with
        | error source =>
            refine .pure (fun _ => ⟨?_, fun impossible => by cases impossible⟩)
            intro _ same
            cases same
            exact ⟨rfl, rfl⟩
        | ok page =>
            suffices reads
                : plane.Makes
                    (fun cancelled made listing =>
                      Reads (∃ source, listing.ending = .failed (.remote resource.key source))
                        cancelled made)
                    (Listing.goOn plane.recorded resource budget cursor (.ok page)) from
              reads.weaken (fun holds => ⟨by simp, fun _ => holds⟩)
            unfold Listing.goOn
            dsimp only
            cases page.next? with
            | none => exact .pure (Reads.nothing _)
            | some next =>
                dsimp only
                split
                · exact .pure (Reads.nothing _)
                · exact (ih (some next)).map (Listing.after page)
      refine (ControlPlane.Makes.listPage resource cursor).bind goesOn ?_
      rintro cancelled made answer more listing ⟨after, rfl⟩ holds rfl
      have first := Reads.page resource cursor answer after
      cases answer with
      | error source =>
          obtain ⟨rfl, ending⟩ := holds.1 source rfl
          rw [List.append_nil]
          exact first.weaken (fun _ => ⟨source, ending⟩)
      | ok page =>
          refine first.append ?_ (holds.2 rfl)
          rintro ⟨_, impossible⟩
          cases impossible

/-- Fetching reads. -/
theorem RunSetting.fetch_onlyReads {plane : ControlPlane σ} {setting : RunSetting (Recorded σ)}
    (sameCalls : setting.plane = plane.recorded) (resource : ResourceType)
    : plane.OnlyReads (setting.fetch resource) := by
  intro before
  obtain ⟨made, recorded, leads, reads⟩ :=
    Listing.read_makes plane resource setting.pageBudget none before
  change ∃ made,
    (outcomeOf (setting.fetch resource) before).2.exchanges = before.exchanges ++ made
    ∧ plane.Leads before.state made (outcomeOf (setting.fetch resource) before).2.state
    ∧ Reads (IsRefused (outcomeOf (setting.fetch resource) before).1)
        (plane.cancelled before.state) made
  rw [RunSetting.outcomeOf_fetch, sameCalls]
  refine ⟨made, recorded, leads, reads.weaken ?_⟩
  rintro ⟨source, ending⟩
  refine ⟨resource.key, source, ?_⟩
  exact congrArg (Except.mapError RunError.ofFetch) (Listing.records_eq_error ending)

/-- Evaluating a policy reads, at every level of nesting. Witness: induction over the nesting.
-/
theorem Policy.evaluate_onlyReads {plane : ControlPlane σ} {setting : RunSetting (Recorded σ)}
    (sameCalls : setting.plane = plane.recorded) (policy : Policy) (depth : Nat)
    : plane.OnlyReads (policy.evaluate setting depth) := by
  induction policy using Policy.nesting_induction generalizing depth with
  | step policy ih =>
      rw [Policy.evaluate_eq]
      have checked : plane.OnlyReads (setting.checkDepth depth) := by
        unfold RunSetting.checkDepth
        split
        · exact .throw _
        · exact .pure _
      have known (name : String) : plane.OnlyReads (setting.resource name) := by
        unfold RunSetting.resource
        split
        · exact .pure _
        · exact .throw _
      refine checked.bind (fun _ => (known _).bind (fun resource => ?_))
      refine (setting.fetch_onlyReads sameCalls resource).bind (fun records => ?_)
      refine (ControlPlane.OnlyReads.mapM _ (fun inner nested => ?_)).bind (fun sets => .pure _)
      rw [Policy.matchedIds_eq]
      exact (known _).bind (fun innerResource =>
        (ih inner nested (depth + 1)).bind (fun evaluation => .pure _))

/-- An evaluation that succeeds found the type of every policy in the tree. Witness: induction over
the nesting; the evaluation of each policy right inside of it succeeded as well.
-/
theorem Policy.known_of_evaluate_eq_ok {setting : RunSetting σ} {policy : Policy} {depth : Nat}
    {state final : σ} {evaluation : Evaluation}
    (evaluated : outcomeOf (policy.evaluate setting depth) state = (.ok evaluation, final))
    : ∀ inner,
        policy.Contains inner
        → ∃ resource, setting.resources.get? inner.resource = some resource := by
  induction policy using Policy.nesting_induction generalizing depth state final evaluation with
  | step policy ih =>
      rw [Policy.evaluate_eq] at evaluated
      obtain ⟨_, _, _, evaluated⟩ := outcomeOf_bind_eq_ok_iff.mp evaluated
      obtain ⟨resource, _, found, evaluated⟩ := outcomeOf_bind_eq_ok_iff.mp evaluated
      obtain ⟨_, _, _, evaluated⟩ := outcomeOf_bind_eq_ok_iff.mp evaluated
      obtain ⟨_, _, sets, _⟩ := outcomeOf_bind_eq_ok_iff.mp evaluated
      intro inner inside
      cases inside with
      | self =>
          cases known : setting.resources.get? policy.resource with
          | none =>
              rw [RunSetting.resource_of_unknown known] at found
              cases found
          | some resource => exact ⟨resource, rfl⟩
      | @inside _ nestedPolicy _ nested below =>
          obtain ⟨_, _, _, matchedIds⟩ :=
            exists_of_outcomeOf_mapM_eq_ok sets nestedPolicy nested
          rw [Policy.matchedIds_eq] at matchedIds
          obtain ⟨_, _, _, matchedIds⟩ := outcomeOf_bind_eq_ok_iff.mp matchedIds
          obtain ⟨_, _, evaluatedInner, _⟩ := outcomeOf_bind_eq_ok_iff.mp matchedIds
          exact ih nestedPolicy nested evaluatedInner inner below

-----------------------------------------------------------------------------------------
-- Runs
-----------------------------------------------------------------------------------------

/-- The changes that a policy wants on behalf of the records that matched. -/
def Policy.changes (policy : Policy) (actions : ActionRegistry σ) (resources : ResourceRegistry)
    (options : ExecuteOptions) (resource : ResourceType) (matched : List Json)
    : List Mutation :=
  policy.actions.flatMap (fun spec =>
    if options.dryRun then []
    else spec.changes actions resources policy.name resource matched)

/-- Without records there is nothing to change. -/
theorem Policy.changes_nil (policy : Policy) (actions : ActionRegistry σ)
    (resources : ResourceRegistry) (options : ExecuteOptions) (resource : ResourceType)
    : policy.changes actions resources options resource [] = [] := by
  refine List.flatMap_eq_nil_iff.mpr (fun spec _ => ?_)
  unfold ActionSpec.changes
  cases options.dryRun with
  | true => rfl
  | false =>
      simp only [Bool.false_eq_true, if_false]
      cases Table.get? actions spec.name with
      | none => rfl
      | some action =>
          dsimp only
          cases spec.check action.schema with
          | error error => rfl
          | ok _ => rfl

/-- In a dry run nothing is to be changed. -/
theorem Policy.changes_of_dryRun (policy : Policy) (actions : ActionRegistry σ)
    (resources : ResourceRegistry) {options : ExecuteOptions} (dry : options.dryRun = true)
    (resource : ResourceType) (matched : List Json)
    : policy.changes actions resources options resource matched = [] := by
  simp [Policy.changes, dry]

/-- Acting on what matched asks for the changes that the policy wants. -/
theorem Policy.actOnMatched_makes (plane : ControlPlane σ) (resources : ResourceRegistry)
    (options : ExecuteOptions) (maxDepth pageBudget : Nat) (policy : Policy)
    (resource : ResourceType) (matched : List Json)
    : plane.Makes
        (fun cancelled made _ =>
          Changes
            (policy.changes (ActionRegistry.builtin plane.recorded) resources options resource
              matched)
            cancelled made)
        (policy.actOnMatched (.recording plane resources options maxDepth pageBudget) resource
          matched) := by
  unfold Policy.actOnMatched
  cases matched with
  | nil =>
      rw [Policy.changes_nil]
      exact .nothingWanted _
  | cons record rest =>
      exact Policy.act_makes resources options maxDepth pageBudget policy.name resource
        (record :: rest) policy.actions

/-- What a run can do. It reads, and then it fails or reports that it was cut short without a
change; or it passes all checks and goes on to ask for the changes that its policy wants.
-/
theorem Policy.run_recorded (plane : ControlPlane σ) (resources : ResourceRegistry)
    (options : ExecuteOptions) (maxDepth pageBudget : Nat) (policy : Policy) (start : σ)
    : ∃ outcome final lists changes,
        outcomeOf (policy.run (.recording plane resources options maxDepth pageBudget))
            (.start start)
          = (outcome, final)
        ∧ final.exchanges = lists ++ changes
        ∧ plane.Leads start (lists ++ changes) final.state
        ∧ Reads (IsRefused outcome) (plane.cancelled start) lists
        ∧ ((changes = [] ∧ ∀ report, outcome = .ok report → report.cancelled = true)
          ∨ ∃ resource evaluation middle results,
              resources.get? policy.resource = some resource
              ∧ policy.nestingDepth ≤ maxDepth
              ∧ outcomeOf
                    (policy.evaluate (.recording plane resources options maxDepth pageBudget) 0)
                    (.start start)
                  = (.ok evaluation, middle)
              ∧ policy.checkLimits evaluation.matched.length evaluation.population = .ok ()
              ∧ outcome
                = .ok (policy.reportOf resource evaluation results (plane.cancelled final.state))
              ∧ Changes
                  (policy.changes (ActionRegistry.builtin plane.recorded) resources options
                    resource evaluation.matched)
                  (cancelledAfter (plane.cancelled start) lists) changes) := by
  -- A run that ends before its policy is evaluated has made no call.
  have early (error : RunError)
      : Reads (IsRefused (.error error : Except RunError RunReport)) (plane.cancelled start) [] :=
    Reads.nothing _ _
  rw [Policy.outcomeOf_run]
  simp only [RunSetting.recording_resources, RunSetting.recording_maxDepth]
  cases known : resources.get? policy.resource with
  | none => exact ⟨_, _, [], [], rfl, rfl, .nothing _, early _, .inl ⟨rfl, by simp⟩⟩
  | some resource =>
      dsimp only
      by_cases beyond : maxDepth < policy.nestingDepth
      · simp only [beyond, if_true]
        exact ⟨_, _, [], [], rfl, rfl, .nothing _, early _, .inl ⟨rfl, by simp⟩⟩
      · simp only [beyond, if_false]
        have reading
            : plane.OnlyReads
                (policy.evaluate (.recording plane resources options maxDepth pageBudget) 0) :=
          policy.evaluate_onlyReads rfl 0
        cases evaluated
            : outcomeOf
                (policy.evaluate (.recording plane resources options maxDepth pageBudget) 0)
                (.start start) with
        | mk outcome middle =>
            obtain ⟨leads, reads⟩ := reading.fromStart evaluated
            cases outcome with
            | error error =>
                cases error with
                | cancelled =>
                    refine ⟨_, middle, middle.exchanges, [], rfl, by simp, by simpa using leads,
                      reads.weaken ?_, .inl ⟨rfl, ?_⟩⟩
                    · rintro ⟨_, _, impossible⟩
                      cases impossible
                    · rintro report same
                      cases same
                      rfl
                | fetch _ =>
                    refine ⟨_, middle, middle.exchanges, [], rfl, by simp, by simpa using leads,
                      reads.weaken ?_, .inl ⟨rfl, by simp⟩⟩
                    rintro ⟨refused, source, same⟩
                    cases same
                    exact ⟨refused, source, rfl⟩
                | unknownResource _ | nestingTooDeep _ _ | limitExceeded _ =>
                    refine ⟨_, middle, middle.exchanges, [], rfl, by simp, by simpa using leads,
                      reads.weaken ?_, .inl ⟨rfl, by simp⟩⟩
                    rintro ⟨_, _, impossible⟩
                    cases impossible
            | ok evaluation =>
                have answered
                    : ¬IsRefused (.ok evaluation : Except RunError Evaluation) := by
                  rintro ⟨_, _, impossible⟩
                  cases impossible
                dsimp only
                rw [Policy.outcomeOf_remediate]
                cases limits
                    : policy.checkLimits evaluation.matched.length evaluation.population with
                | error refusal =>
                    exact ⟨_, middle, middle.exchanges, [], rfl, by simp, by simpa using leads,
                      reads.weaken (fun refused => absurd refused answered),
                      .inl ⟨rfl, by simp⟩⟩
                | ok _ =>
                    obtain ⟨changes, recorded, leadsOn, made⟩ :=
                      policy.actOnMatched_makes plane resources options maxDepth pageBudget resource
                        evaluation.matched middle
                    rw [leads.cancelled] at made
                    exact ⟨_, _, middle.exchanges, changes, rfl, recorded, leads.trans leadsOn,
                      reads.weaken (fun refused => absurd refused answered),
                      .inr ⟨resource, evaluation, middle, _, rfl, Nat.le_of_not_lt beyond, rfl,
                        limits, rfl, made⟩⟩

-----------------------------------------------------------------------------------------
-- Actions of nested policies
-----------------------------------------------------------------------------------------

/-- Steps that are the same for each element of a list are the same for all of them. -/
theorem mapM_congr_of_mem {step other : α → RunM σ β} {list : List α}
    (same : ∀ element ∈ list, step element = other element)
    : list.mapM step = list.mapM other := by
  induction list with
  | nil => simp only [List.mapM_nil]
  | cons element rest ih =>
      rw [List.mapM_cons, List.mapM_cons, same element List.mem_cons_self,
        ih (fun member inside => same member (List.mem_cons_of_mem _ inside))]

theorem Policy.nested_withoutActions (policy : Policy)
    : policy.withoutActions.nested = policy.nested.map Policy.withoutActions := by
  cases policy with
  | mk name resource description filters actions maxResources maxPercent =>
      exact Filter.missingPoliciesOfAll_withoutActions filters

/-- Evaluation does not depend on actions, neither on those of the policy nor on those of policies
inside of it. Witness: induction over the nesting; the compiled filters are the same.
-/
theorem Policy.evaluate_withoutActions (setting : RunSetting σ) (policy : Policy) (depth : Nat)
    : policy.withoutActions.evaluate setting depth = policy.evaluate setting depth := by
  induction policy using Policy.nesting_induction generalizing depth with
  | step policy ih =>
      have resource : policy.withoutActions.resource = policy.resource := by
        cases policy
        rfl
      have tree : policy.withoutActions.filterTree = policy.filterTree.withoutActions := by
        cases policy
        simp only [Policy.withoutActions, Policy.filterTree, Filter.withoutActions]
      have sets
          : policy.withoutActions.nested.mapM (Policy.matchedIds setting (depth + 1))
            = policy.nested.mapM (Policy.matchedIds setting (depth + 1)) := by
        rw [Policy.nested_withoutActions, List.mapM_map]
        refine mapM_congr_of_mem (fun inner nested => ?_)
        have innerResource : inner.withoutActions.resource = inner.resource := by
          cases inner
          rfl
        rw [Function.comp_apply, Policy.matchedIds_eq, Policy.matchedIds_eq, innerResource,
          ih inner nested (depth + 1)]
      rw [Policy.evaluate_eq, Policy.evaluate_eq, resource, tree, sets]
      simp only [Matcher.compile_withoutActions]

/-- A run does not depend on the actions of the policies inside of its policy. -/
theorem Policy.run_withoutNestedActions (setting : RunSetting σ) (policy : Policy)
    : policy.withoutNestedActions.run setting = policy.run setting := by
  have depth : policy.withoutNestedActions.nestingDepth = policy.nestingDepth := by
    cases policy
    simpa only [Policy.withoutNestedActions, Policy.nestingDepth]
      using Filter.nestingDepthOfAll_withoutActions _
  have evaluation
      : policy.withoutNestedActions.evaluate setting 0 = policy.evaluate setting 0 := by
    rw [← policy.evaluate_withoutActions]
    cases policy
    simp only [Policy.withoutNestedActions, Policy.withoutActions, Policy.evaluate]
  have guarded
      : policy.withoutNestedActions.evaluateUnlessCancelled setting
        = policy.evaluateUnlessCancelled setting := by
    unfold Policy.evaluateUnlessCancelled
    rw [evaluation]
  unfold Policy.run
  rw [depth, guarded]
  rfl

-----------------------------------------------------------------------------------------
-- Phases
-----------------------------------------------------------------------------------------

/-- Without a change to ask for, no call is made. -/
theorem Changes.eq_nil {cancelled : Bool} {made : List Exchange}
    (changes : Changes [] cancelled made)
    : made = [] := by
  refine List.eq_nil_iff_forall_not_mem.mpr (fun exchange member => ?_)
  have none : mutationsOf made = [] := List.prefix_nil.mp changes.inOrder
  have noChange := List.filterMap_eq_nil_iff.mp none exchange member
  rw [Exchange.mutation?_eq_none_iff, changes.noLists exchange member] at noChange
  cases noChange

/-- The calls of a run are requests for pages and then requests for changes, all of them made while
the run is not cancelled. A page that is refused, for whatever policy in the tree, fails the run.
Anything is changed only if the run has a report, is no dry run and was not cancelled when the pages
were read, some record matched within the limits, and every policy in the tree has a known type and
is not nested too deep. The actions of policies inside of the policy have no effect on a run.
-/
theorem Policy.run_phases (plane : ControlPlane σ) (resources : ResourceRegistry)
    (options : ExecuteOptions) (maxDepth pageBudget : Nat) (policy : Policy) (start : σ)
    : ∃ outcome final lists changes,
        outcomeOf (policy.run (.recording plane resources options maxDepth pageBudget))
            (.start start)
          = (outcome, final)
        ∧ outcomeOf (policy.run (.ofPlane plane resources options maxDepth pageBudget)) start
          = (outcome, final.state)
        ∧ plane.Leads start final.exchanges final.state
        ∧ final.exchanges = lists ++ changes
        ∧ madeWhileRunning (plane.cancelled start) final.exchanges = true
        ∧ (∀ exchange ∈ lists, exchange.isList = true)
        ∧ (∀ exchange ∈ changes, exchange.isList = false)
        ∧ (∀ exchange ∈ lists,
            exchange.isFailedList = true
            → ∃ resource source, outcome = .error (.fetch (.remote resource source)))
        ∧ (changes ≠ []
          → options.dryRun = false
            ∧ cancelledAfter (plane.cancelled start) lists = false
            ∧ (∀ inner,
                policy.Contains inner
                → ∃ resource, resources.get? inner.resource = some resource)
            ∧ policy.nestingDepth ≤ maxDepth
            ∧ ∃ report,
                outcome = .ok report
                ∧ 0 < report.matched
                ∧ policy.checkLimits report.matched report.population = .ok ())
        ∧ policy.withoutNestedActions.run
              (.recording plane resources options maxDepth pageBudget)
            = policy.run (.recording plane resources options maxDepth pageBudget) := by
  obtain ⟨outcome, final, lists, changes, ran, recorded, leads, reads, ended | acted⟩ :=
    policy.run_recorded plane resources options maxDepth pageBudget start
  all_goals
    have plain :=
      policy.outcomeOf_run_ofPlane plane resources options maxDepth pageBudget (.start start)
    rw [ran] at plain
  · obtain ⟨rfl, _⟩ := ended
    refine ⟨outcome, final, lists, [], ran, plain, recorded ▸ leads, recorded, ?_,
      reads.onlyLists, by simp, reads.ifFailed, fun some => absurd rfl some,
      policy.run_withoutNestedActions _⟩
    rw [recorded, List.append_nil]
    exact reads.running
  · obtain ⟨resource, evaluation, middle, results, _, within, evaluated, limits, rfl, made⟩ := acted
    refine ⟨_, final, lists, changes, ran, plain, recorded ▸ leads, recorded, ?_,
      reads.onlyLists, made.noLists, reads.ifFailed, ?_, policy.run_withoutNestedActions _⟩
    · rw [recorded, madeWhileRunning_append, reads.running, made.running]
      rfl
    · intro some
      refine ⟨?_, ?_, Policy.known_of_evaluate_eq_ok evaluated, within, _, rfl, ?_, limits⟩
      · cases dry : options.dryRun with
        | false => rfl
        | true =>
            rw [policy.changes_of_dryRun _ _ dry] at made
            exact absurd made.eq_nil some
      · cases stopped : cancelledAfter (plane.cancelled start) lists with
        | false => rfl
        | true => exact absurd (eq_nil_of_cancelled (stopped ▸ made.running)) some
      · refine List.length_pos_iff.mpr (fun none => ?_)
        rw [none, Policy.changes_nil] at made
        exact some made.eq_nil

end Remediation
