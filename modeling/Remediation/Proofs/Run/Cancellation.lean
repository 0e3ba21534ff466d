import Remediation.Proofs.ControlPlane.Interrupted
import Remediation.Proofs.Run.Answers

/-! Cancellation starts nothing new. A run that is cancelled during a call is compared with the run
that nothing cancels: its calls are those of the other run up to that call, at every level of
nesting, and what it reports of the records whose turn had come is what the other run reports.
-/

namespace Remediation

variable {σ : Type} {plane : ControlPlane σ} {call : Nat}

-----------------------------------------------------------------------------------------
-- Reading
-----------------------------------------------------------------------------------------

/-- Reading a list only adds calls. -/
theorem Listing.read_grows (plane : ControlPlane σ) (resource : ResourceType) (budget : Nat)
    (cursor : Option String) (before : Recorded σ)
    : before.exchanges
      <+: ((Listing.read plane.recorded resource budget cursor).run before).2.exchanges := by
  obtain ⟨made, recorded, _⟩ := Listing.read_makes plane resource budget cursor before
  exact ⟨made, recorded.symm⟩

/-- While a run is not cancelled, reading on goes on from the answer to its request for a page. -/
theorem Listing.run_read_of_running {plane : ControlPlane σ} {state : σ}
    (running : plane.cancelled state = false) (resource : ResourceType) (budget : Nat)
    (cursor : Option String)
    : (Listing.read plane resource (budget + 1) cursor).run state
      = (Listing.goOn plane resource budget cursor
          ((plane.listPage resource cursor).run state).1).run
          ((plane.listPage resource cursor).run state).2 := by
  rw [Listing.read_succ]
  change (if plane.cancelled state then _ else _ : StateM σ Listing).run state = _
  rw [running]
  rfl

/-- A reading that is cancelled during a call follows the one that is not. Before the call both are
in one state and ask for the same page; once it has been made, only the other one goes on. Witness:
induction on the budget. -/
theorem Listing.read_follows (plane : ControlPlane σ) (resource : ResourceType) (budget : Nat)
    (cursor : Option String)
    : StepFollows call (fun listing => listing.ending = .failed .cancelled)
        (Listing.read (plane.cancelledDuring call) resource budget cursor)
        (Listing.read plane.neverCancelled.recorded resource budget cursor) := by
  induction budget generalizing cursor with
  | zero => exact .pure _
  | succ budget ih =>
      intro before wholeBefore follows
      have grown :=
        Listing.read_grows plane.neverCancelled resource (budget + 1) cursor wholeBefore
      by_cases passed : call ≤ wholeBefore.exchanges.length
      · rw [Listing.run_read_succ (plane.cancelledDuring call),
          if_pos (follows.cancelled_iff.mpr passed)]
        exact ⟨follows.goOn passed grown, grown, .inr ⟨rfl, Nat.le_trans passed grown.length_le⟩⟩
      · have running : (plane.cancelledDuring call).cancelled before = false :=
          Bool.eq_false_iff.mpr (fun cancelled => passed (follows.cancelled_iff.mp cancelled))
        obtain rfl := follows.together (Nat.lt_of_not_le passed)
        have wholeRunning : plane.neverCancelled.recorded.cancelled before = false := rfl
        rw [Listing.run_read_of_running running]
        rw [Listing.run_read_of_running wholeRunning] at grown ⊢
        have goesOn (answer : Except RemoteError Page)
            : StepFollows call (fun listing => listing.ending = .failed .cancelled)
                (Listing.goOn (plane.cancelledDuring call) resource budget cursor answer)
                (Listing.goOn plane.neverCancelled.recorded resource budget cursor answer) := by
          cases answer with
          | error source => exact .pure _
          | ok page =>
              unfold Listing.goOn
              dsimp only
              cases page.next? with
              | none => exact .pure _
              | some next =>
                  dsimp only
                  split
                  · exact .pure _
                  · exact (ih (some next)).map _ (fun _ stopped => stopped)
        -- The request for the page is the one call that both make before they go on.
        have asked
            : ((plane.neverCancelled.recorded.listPage resource cursor).run
                before).2.exchanges.length
              ≤ call := by
          have one
              : ((plane.neverCancelled.recorded.listPage resource cursor).run
                  before).2.exchanges.length
                = before.exchanges.length + 1 :=
            List.length_append
          omega
        obtain ⟨followsOn, _, answered⟩ := goesOn _ _ _ (.refl asked)
        exact ⟨followsOn, grown, answered⟩

-----------------------------------------------------------------------------------------
-- Evaluation
-----------------------------------------------------------------------------------------

/-- A setting with the program's own actions in which every call is written down and a run is
cancelled during the call of a certain number. -/
def RunSetting.cancelledDuring (plane : ControlPlane σ) (resources : ResourceRegistry)
    (options : ExecuteOptions) (maxDepth pageBudget call : Nat)
    : RunSetting (Recorded σ) :=
  .ofPlane (plane.cancelledDuring call) resources options maxDepth pageBudget

/-- The same setting in which no run is cancelled. -/
def RunSetting.neverCancelled (plane : ControlPlane σ) (resources : ResourceRegistry)
    (options : ExecuteOptions) (maxDepth pageBudget : Nat)
    : RunSetting (Recorded σ) :=
  .recording plane.neverCancelled resources options maxDepth pageBudget

section Evaluation

@[simp]
theorem RunSetting.cancelledDuring_resources (plane : ControlPlane σ) (resources : ResourceRegistry)
    (options : ExecuteOptions) (maxDepth pageBudget call : Nat)
    : (cancelledDuring plane resources options maxDepth pageBudget call).resources = resources :=
  rfl

@[simp]
theorem RunSetting.cancelledDuring_maxDepth (plane : ControlPlane σ) (resources : ResourceRegistry)
    (options : ExecuteOptions) (maxDepth pageBudget call : Nat)
    : (cancelledDuring plane resources options maxDepth pageBudget call).maxDepth = maxDepth :=
  rfl

@[simp]
theorem RunSetting.neverCancelled_resources (plane : ControlPlane σ) (resources : ResourceRegistry)
    (options : ExecuteOptions) (maxDepth pageBudget : Nat)
    : (neverCancelled plane resources options maxDepth pageBudget).resources = resources :=
  rfl

@[simp]
theorem RunSetting.neverCancelled_maxDepth (plane : ControlPlane σ) (resources : ResourceRegistry)
    (options : ExecuteOptions) (maxDepth pageBudget : Nat)
    : (neverCancelled plane resources options maxDepth pageBudget).maxDepth = maxDepth :=
  rfl

variable (plane : ControlPlane σ) (resources : ResourceRegistry) (options : ExecuteOptions)
  (maxDepth pageBudget call : Nat)

theorem RunSetting.resource_follows (name : String)
    : StepFollows call (· = .error .cancelled)
        ((cancelledDuring plane resources options maxDepth pageBudget call).resource name).run
        ((neverCancelled plane resources options maxDepth pageBudget).resource name).run := by
  unfold RunSetting.resource
  simp only [cancelledDuring_resources, neverCancelled_resources]
  cases resources.get? name with
  | some resource => exact .pure _
  | none => exact .pure _

theorem RunSetting.checkDepth_follows (depth : Nat)
    : StepFollows call (· = .error .cancelled)
        ((cancelledDuring plane resources options maxDepth pageBudget call).checkDepth depth).run
        ((neverCancelled plane resources options maxDepth pageBudget).checkDepth depth).run := by
  unfold RunSetting.checkDepth
  simp only [cancelledDuring_maxDepth, neverCancelled_maxDepth]
  by_cases beyond : maxDepth < depth
  · simp only [beyond, if_true]
    exact .pure _
  · simp only [beyond, if_false]
    exact .pure _

/-- A fetch whose reading is cancelled is cancelled itself. -/
theorem RunSetting.fetch_follows (resource : ResourceType)
    : StepFollows call (· = .error .cancelled)
        ((cancelledDuring plane resources options maxDepth pageBudget call).fetch resource).run
        ((neverCancelled plane resources options maxDepth pageBudget).fetch resource).run := by
  intro before wholeBefore follows
  obtain ⟨followsOn, grown, answered⟩ :=
    Listing.read_follows plane resource pageBudget none before wholeBefore follows
  change FollowsTo call _ wholeBefore
    (outcomeOf ((cancelledDuring plane resources options maxDepth pageBudget call).fetch resource)
      before)
    (outcomeOf ((neverCancelled plane resources options maxDepth pageBudget).fetch resource)
      wholeBefore)
  rw [outcomeOf_fetch, outcomeOf_fetch]
  refine ⟨followsOn, grown, ?_⟩
  rcases answered with same | ⟨stopped, passed⟩
  · exact .inl (congrArg (fun listing => (listing.records resource).mapError RunError.ofFetch) same)
  · exact .inr ⟨congrArg (Except.mapError RunError.ofFetch) (Listing.records_eq_error stopped),
      passed⟩

/-- An evaluation that is cancelled during a call follows the one that is not, at every level of
nesting. Witness: induction over the nesting. -/
theorem Policy.evaluate_follows (policy : Policy) (depth : Nat)
    : StepFollows call (· = .error .cancelled)
        (policy.evaluate (.cancelledDuring plane resources options maxDepth pageBudget call)
          depth).run
        (policy.evaluate (.neverCancelled plane resources options maxDepth pageBudget)
          depth).run := by
  induction policy using Policy.nesting_induction generalizing depth with
  | step policy ih =>
      have known := RunSetting.resource_follows plane resources options maxDepth pageBudget call
      rw [Policy.evaluate_eq, Policy.evaluate_eq]
      refine (RunSetting.checkDepth_follows plane resources options maxDepth pageBudget call
        depth).bindStep (fun _ => ?_)
      refine (known policy.resource).bindStep (fun resource => ?_)
      refine (RunSetting.fetch_follows plane resources options maxDepth pageBudget call
        resource).bindStep (fun records => ?_)
      refine (StepFollows.mapM (fun inner nested => ?_)).bindStep (fun sets => .pure _)
      rw [Policy.matchedIds_eq, Policy.matchedIds_eq]
      refine (known inner.resource).bindStep (fun innerResource => ?_)
      exact (ih inner nested (depth + 1)).bindStep (fun evaluation => .pure _)

end Evaluation

-----------------------------------------------------------------------------------------
-- Units of one call
-----------------------------------------------------------------------------------------

/-- Calls that are no lists ask for one change each. -/
theorem length_mutationsOf {made : List Exchange}
    (noLists : ∀ exchange ∈ made, exchange.isList = false)
    : (mutationsOf made).length = made.length := by
  induction made with
  | nil => rfl
  | cons exchange rest ih =>
      cases wanted : exchange.mutation? with
      | none =>
          rw [Exchange.mutation?_eq_none_iff, noLists exchange List.mem_cons_self] at wanted
          cases wanted
      | some mutation =>
          rw [mutationsOf, List.filterMap_cons_some wanted, List.length_cons, List.length_cons]
          exact congrArg Nat.succ (ih (fun other member => noLists other
            (List.mem_cons_of_mem _ member)))

/-- A step makes no more calls than it wants changes. -/
theorem Changes.length_le {wanted : List Mutation} {cancelled : Bool} {made : List Exchange}
    (changes : Changes wanted cancelled made)
    : made.length ≤ wanted.length :=
  length_mutationsOf changes.noLists ▸ changes.inOrder.length_le

/-- A unit of an action wants one change at most. -/
theorem ActionContext.length_changes_le {plane : ControlPlane σ} {name : String}
    {action : Action σ}
    (found : Table.get? (ActionRegistry.builtin plane) name = some action)
    (context : ActionContext) {records : List Json}
    (fits : records.length ≤ action.mode.unitSize)
    : (context.changes records name).length ≤ 1 := by
  rcases ActionRegistry.builtin_cases found with
    ⟨rfl, rfl⟩ | ⟨rfl, rfl⟩ | ⟨rfl, rfl⟩ | ⟨rfl, rfl⟩ | ⟨rfl, rfl⟩ | ⟨rfl, rfl⟩
  · exact Nat.le_refl 1
  · exact Nat.le_refl 1
  · exact Nat.le_refl 1
  · change ((context.ids records).map _).length ≤ 1
    rw [List.length_map]
    exact Nat.le_trans (List.length_filterMap_le _ _) fits
  · change (context.creations records).length ≤ 1
    unfold ActionContext.creations
    cases context.target? with
    | none => exact Nat.zero_le 1
    | some target => exact Nat.le_trans (List.length_filterMap_le _ _) fits
  · change (context.notice? records).toList.length ≤ 1
    cases context.notice? records with
    | none => exact Nat.zero_le 1
    | some mutation => exact Nat.le_refl 1

/-- A unit of an action that nothing cancels makes one call at most. -/
theorem Action.process_grows {name : String} {action : Action (Recorded σ)}
    (found : Table.get? (ActionRegistry.builtin plane.neverCancelled.recorded) name = some action)
    (context : ActionContext) {records : List Json}
    (fits : records.length ≤ action.mode.unitSize) (before : Recorded σ)
    : before.exchanges <+: (outcomeOf (action.process context records) before).2.exchanges
      ∧ (outcomeOf (action.process context records) before).2.exchanges.length
        ≤ before.exchanges.length + 1 := by
  obtain ⟨named, keeps⟩ := ActionRegistry.builtin_keepsTo found
  obtain ⟨made, recorded, _, changes⟩ := keeps context records fits before
  have short : made.length ≤ 1 := by
    have wanted := (changes rfl).length_le
    rw [named] at wanted
    exact Nat.le_trans wanted (context.length_changes_le found fits)
  change (outcomeOf (action.process context records) before).2.exchanges
    = before.exchanges ++ made at recorded
  rw [recorded, List.length_append]
  exact ⟨List.prefix_append _ _, Nat.add_le_add_left short _⟩

-----------------------------------------------------------------------------------------
-- Answers of both runs
-----------------------------------------------------------------------------------------

/-- A unit was not started, or it was answered as in the run that nothing cancels. -/
def UnitAnswer.Follows (answer whole : UnitAnswer) : Prop :=
  ∃ response, whole = some response ∧ (answer = none ∨ answer = some response)

/-- What a step of a run that is cancelled during a call was answered follows what it was
answered in the run that is not, and so do the states that the answers led to. -/
structure AnswersFollow {α : Type} (call : Nat) (answerFollows : α → α → Prop)
    (wholeBefore : Recorded σ) (answers : α) (final : Recorded σ) (wholeAnswers : α)
    (wholeFinal : Recorded σ)
    : Prop where
  states : Follows call final wholeFinal
  grown : wholeBefore.exchanges <+: wholeFinal.exchanges
  each : answerFollows answers wholeAnswers
  together : wholeFinal.exchanges.length < call → answers = wholeAnswers

/-- Units of an action are answered until the call has been made, and not started from then on.
Witness: induction on the units, each of which makes one call at most. -/
theorem Action.exists_answers_follow {name : String} {action : Action (Recorded σ)}
    (found : Table.get? (ActionRegistry.builtin plane.neverCancelled.recorded) name = some action)
    (context : ActionContext) {units : List WorkUnit}
    (fit : ∀ unit ∈ units, unit.records.length ≤ action.mode.unitSize)
    {before wholeBefore : Recorded σ} (follows : Follows call before wholeBefore)
    : ∃ answers final wholeAnswers wholeFinal,
        action.Answers (plane.cancelledDuring call) context before units answers final
        ∧ action.Answers plane.neverCancelled.recorded context wholeBefore units wholeAnswers
            wholeFinal
        ∧ AnswersFollow call (List.Forall₂ UnitAnswer.Follows) wholeBefore answers final
            wholeAnswers wholeFinal := by
  induction units generalizing before wholeBefore with
  | nil =>
      exact ⟨[], before, [], wholeBefore, .nothing _, .nothing _, follows, List.prefix_rfl, .nil,
        fun _ => rfl⟩
  | cons unit rest ih =>
      have fitRest := fun other member => fit other (List.mem_cons_of_mem _ member)
      obtain ⟨grown, one⟩ :=
        Action.process_grows found context (fit unit List.mem_cons_self) wholeBefore
      by_cases passed : call ≤ wholeBefore.exchanges.length
      · obtain ⟨answers, final, wholeAnswers, wholeFinal, answered, wholeAnswered, following⟩ :=
          ih fitRest (follows.goOn passed grown)
        have all := grown.trans following.grown
        exact ⟨none :: answers, final, some _ :: wholeAnswers, wholeFinal,
          .notStarted (follows.cancelled_iff.mpr passed) answered,
          .processed rfl rfl wholeAnswered, following.states, all,
          .cons ⟨_, rfl, .inl rfl⟩ following.each,
          fun short => absurd (Nat.le_trans passed all.length_le) (Nat.not_le_of_lt short)⟩
      · have running : (plane.cancelledDuring call).cancelled before = false :=
          Bool.eq_false_iff.mpr (fun cancelled => passed (follows.cancelled_iff.mp cancelled))
        obtain rfl := follows.together (Nat.lt_of_not_le passed)
        obtain ⟨answers, final, wholeAnswers, wholeFinal, answered, wholeAnswered, following⟩ :=
          ih fitRest (.refl (Nat.le_trans one (Nat.lt_of_not_le passed)))
        exact ⟨some _ :: answers, final, some _ :: wholeAnswers, wholeFinal,
          .processed running rfl answered, .processed rfl rfl wholeAnswered, following.states,
          grown.trans following.grown, .cons ⟨_, rfl, .inr rfl⟩ following.each,
          fun short => congrArg _ (following.together short)⟩

section Acting

variable (plane : ControlPlane σ) (resources : ResourceRegistry) (options : ExecuteOptions)
  (maxDepth pageBudget call : Nat) (policy : String) (resource : ResourceType)
  (records : List Json)

/-- The units of an action of a policy are answered or not started, if it is run at all. -/
theorem ActionSpec.exists_answers_follow (spec : ActionSpec) {before wholeBefore : Recorded σ}
    (follows : Remediation.Follows call before wholeBefore)
    : ∃ answers final wholeAnswers wholeFinal,
        spec.Answers (.cancelledDuring plane resources options maxDepth pageBudget call) policy
            resource records before answers final
        ∧ spec.Answers (.neverCancelled plane resources options maxDepth pageBudget) policy resource
            records wholeBefore wholeAnswers wholeFinal
        ∧ AnswersFollow call (List.Forall₂ UnitAnswer.Follows) wholeBefore answers final
            wholeAnswers wholeFinal := by
  by_cases isRun : spec.IsRun (.neverCancelled plane resources options maxDepth pageBudget)
  · obtain ⟨⟨action, found, valid⟩, real⟩ := isRun
    obtain ⟨answers, final, wholeAnswers, wholeFinal, answered, wholeAnswered, following⟩ :=
      Action.exists_answers_follow found ⟨resource, resources, spec.params, policy⟩
        (fun unit (member : unit ∈ WorkUnit.split _ records) =>
          WorkUnit.length_records_le action.mode.unitSize_pos member)
        follows
    exact ⟨answers, final, wholeAnswers, wholeFinal, .run found valid real answered,
      .run found valid real wholeAnswered, following⟩
  · exact ⟨[], before, [], wholeBefore, .notRun isRun, .notRun isRun, follows, List.prefix_rfl,
      .nil, fun _ => rfl⟩

/-- The actions of a policy are answered until the call has been made. Witness: induction on the
actions, each from the states that the one before it led to. -/
theorem Policy.exists_acts_follow (specs : List ActionSpec) {before wholeBefore : Recorded σ}
    (follows : Follows call before wholeBefore)
    : ∃ answers final wholeAnswers wholeFinal,
        Policy.Acts (.cancelledDuring plane resources options maxDepth pageBudget call) policy
            resource records before specs answers final
        ∧ Policy.Acts (.neverCancelled plane resources options maxDepth pageBudget) policy resource
            records wholeBefore specs wholeAnswers wholeFinal
        ∧ AnswersFollow call (List.Forall₂ (List.Forall₂ UnitAnswer.Follows)) wholeBefore answers
            final wholeAnswers wholeFinal := by
  induction specs generalizing before wholeBefore with
  | nil =>
      exact ⟨[], before, [], wholeBefore, .nothing _, .nothing _, follows, List.prefix_rfl, .nil,
        fun _ => rfl⟩
  | cons spec rest ih =>
      obtain ⟨answers, middle, wholeAnswers, wholeMiddle, first, wholeFirst, following⟩ :=
        spec.exists_answers_follow plane resources options maxDepth pageBudget call policy resource
          records follows
      obtain ⟨others, final, wholeOthers, wholeFinal, acts, wholeActs, followingRest⟩ :=
        ih following.states
      refine ⟨answers :: others, final, wholeAnswers :: wholeOthers, wholeFinal,
        .action first acts, .action wholeFirst wholeActs, followingRest.states,
        following.grown.trans followingRest.grown, .cons following.each followingRest.each, ?_⟩
      intro short
      rw [following.together (Nat.lt_of_le_of_lt followingRest.grown.length_le short),
        followingRest.together short]

end Acting

-----------------------------------------------------------------------------------------
-- Results of both runs
-----------------------------------------------------------------------------------------

/-- The results of an action in a run that was cancelled, next to those in the run that nothing
cancels. Those of an action that is not run are the same. A record of an action that is run was
skipped if its unit was not started, and otherwise it has the same result as well. -/
structure ActionSpec.ResultsFollow (setting : RunSetting σ) (resource : ResourceType)
    (records : List Json) (spec : ActionSpec) (answers : List UnitAnswer)
    (results wholeResults : List ActionResult)
    : Prop where
  notRun : ¬spec.IsRun setting → results = wholeResults
  run
    : ∀ action place record,
        Table.get? setting.actions spec.name = some action
        → spec.IsRun setting
        → records[place]? = some record
        → ∃ answer,
            answers[place / action.mode.unitSize]? = some answer
            ∧ (answer = none
                ∧ results[place]?
                  = some
                    ⟨spec.name, (identity record resource.idField).getD "", .skipped "cancelled"⟩
              ∨ answer ≠ none ∧ results[place]? = wholeResults[place]?)

/-- The results of answers that follow those of the run that nothing cancels. -/
theorem ActionSpec.Answers.resultsFollow {setting : RunSetting σ} {policy : String}
    {resource : ResourceType} {records : List Json} {spec : ActionSpec} {state final : σ}
    {answers wholeAnswers : List UnitAnswer}
    (answered : spec.Answers setting policy resource records state answers final)
    (each : List.Forall₂ UnitAnswer.Follows answers wholeAnswers)
    : spec.ResultsFollow setting resource records answers
        (spec.resultsFor setting resource records answers)
        (spec.resultsFor setting resource records wholeAnswers) where
  notRun := fun idle => ActionSpec.resultsFor_of_not_isRun idle answers wholeAnswers
  run := by
    intro action place record found isRun there
    obtain ⟨valid, units⟩ := answered.of_isRun isRun found
    have inside : place < records.length := (List.getElem?_eq_some_iff.mp there).1
    obtain ⟨unit, unitAt, _⟩ := WorkUnit.exists_unit action.mode.unitSize_pos inside
    have within : place / action.mode.unitSize < answers.length := by
      rw [units.length]
      exact (List.getElem?_eq_some_iff.mp unitAt).1
    have given := List.getElem?_eq_getElem within
    have wholeGiven := List.getElem?_eq_getElem (each.length_eq ▸ within)
    obtain ⟨response, whole, one⟩ := each.get within (each.length_eq ▸ within)
    simp only [List.get_eq_getElem] at whole one
    refine ⟨_, given, ?_⟩
    rw [ActionSpec.resultsFor_of_isRun found valid isRun.2,
      ActionSpec.resultsFor_of_isRun found valid isRun.2, getElem?_resultsOf, getElem?_resultsOf,
      there, given, wholeGiven, whole]
    rcases one with stopped | same
    · rw [stopped]
      exact .inl ⟨rfl, rfl⟩
    · rw [same]
      exact .inr ⟨Option.some_ne_none response, rfl⟩

section Runs

variable (plane : ControlPlane σ) (resources : ResourceRegistry) (options : ExecuteOptions)
  (maxDepth pageBudget call : Nat)

/-- Which results belong to some answers does not depend on what cancels a run. -/
theorem ActionSpec.resultsFor_neverCancelled (resource : ResourceType) (records : List Json)
    (spec : ActionSpec) (answers : List UnitAnswer)
    : spec.resultsFor (.neverCancelled plane resources options maxDepth pageBudget) resource records
        answers
      = spec.resultsFor (.cancelledDuring plane resources options maxDepth pageBudget call) resource
          records answers :=
  rfl

/-- In reports with the results of answers that follow each other, the blocks of each action do so
as well. -/
theorem Policy.Acts.blocks_follow {policy : String} {resource : ResourceType} {records : List Json}
    {specs : List ActionSpec} {before final wholeBefore wholeFinal : Recorded σ}
    {answers wholeAnswers : List (List UnitAnswer)} {report wholeReport : RunReport}
    (acts
      : Policy.Acts (.cancelledDuring plane resources options maxDepth pageBudget call) policy
          resource records before specs answers final)
    (wholeActs
      : Policy.Acts (.neverCancelled plane resources options maxDepth pageBudget) policy resource
          records wholeBefore specs wholeAnswers wholeFinal)
    (each : List.Forall₂ (List.Forall₂ UnitAnswer.Follows) answers wholeAnswers)
    (matched : report.matched = records.length)
    (results
      : report.results
        = Policy.resultsFor (.cancelledDuring plane resources options maxDepth pageBudget call)
            resource records specs answers)
    (wholeMatched : wholeReport.matched = records.length)
    (wholeResults
      : wholeReport.results
        = Policy.resultsFor (.neverCancelled plane resources options maxDepth pageBudget) resource
            records specs wholeAnswers)
    (index : Nat) (spec : ActionSpec) (found : specs[index]? = some spec)
    : ∃ given,
        answers[index]? = some given
        ∧ spec.ResultsFollow (.cancelledDuring plane resources options maxDepth pageBudget call)
            resource records given (report.block index) (wholeReport.block index) := by
  obtain ⟨given, _, _, answered, units⟩ := acts.exists_answers found
  obtain ⟨wholeGiven, _, _, wholeAnswered, _⟩ := wholeActs.exists_answers found
  have follow : List.Forall₂ UnitAnswer.Follows given wholeGiven :=
    List.forall₂_zip each
      (List.mem_of_getElem? (List.getElem?_zip_eq_some.mpr ⟨answered, wholeAnswered⟩))
  refine ⟨given, answered, ?_⟩
  rw [Policy.block_resultsFor matched results found answered,
    Policy.block_resultsFor wholeMatched wholeResults found wholeAnswered,
    ActionSpec.resultsFor_neverCancelled]
  exact units.resultsFollow follow

/-- What is left to do behind an evaluation only adds calls. -/
theorem Policy.remediate_grows (policy : Policy) (resource : ResourceType)
    (evaluation : Evaluation) (before : Recorded σ)
    : before.exchanges
      <+: (outcomeOf
          (policy.remediate (.neverCancelled plane resources options maxDepth pageBudget) resource
            evaluation)
          before).2.exchanges := by
  rw [Policy.outcomeOf_remediate]
  cases policy.checkLimits evaluation.matched.length evaluation.population with
  | error refusal => exact List.prefix_rfl
  | ok _ =>
      obtain ⟨made, recorded, _⟩ :=
        policy.actOnMatched_makes plane.neverCancelled resources options maxDepth pageBudget
          resource evaluation.matched before
      exact ⟨made, recorded.symm⟩

/-- A run of a known type within the depth evaluates its policy and goes on with what that is. -/
theorem Policy.outcomeOf_run_of_known (setting : RunSetting σ) {policy : Policy}
    {resource : ResourceType} (known : setting.resources.get? policy.resource = some resource)
    (within : ¬setting.maxDepth < policy.nestingDepth) (state : σ)
    : outcomeOf (policy.run setting) state
      = match outcomeOf (policy.evaluate setting 0) state with
        | (.ok evaluation, middle) =>
            outcomeOf (policy.remediate setting resource evaluation) middle
        | (.error .cancelled, middle) => (.ok (.cutShort policy.name resource.key), middle)
        | (.error error, middle) => (.error error, middle) := by
  have ran := Policy.outcomeOf_run setting policy state
  simp only [known, within, if_false] at ran
  refine ran.trans ?_
  cases outcomeOf (policy.evaluate setting 0) state with
  | mk outcome middle =>
      cases outcome with
      | ok evaluation => rfl
      | error error => cases error <;> rfl

/-- Behind the evaluation of the policy, a run that nothing cancels only adds calls. -/
theorem Policy.run_grows {policy : Policy} {resource : ResourceType}
    (known : resources.get? policy.resource = some resource)
    (within : ¬maxDepth < policy.nestingDepth) (before : Recorded σ)
    : (outcomeOf (policy.evaluate (.neverCancelled plane resources options maxDepth pageBudget) 0)
          before).2.exchanges
      <+: (outcomeOf (policy.run (.neverCancelled plane resources options maxDepth pageBudget))
          before).2.exchanges := by
  rw [Policy.outcomeOf_run_of_known _ known within]
  cases outcomeOf
      (policy.evaluate (.neverCancelled plane resources options maxDepth pageBudget) 0) before with
  | mk outcome middle =>
      cases outcome with
      | ok evaluation =>
          exact policy.remediate_grows plane resources options maxDepth pageBudget resource
            evaluation middle
      | error error => cases error <;> exact List.prefix_rfl

/-- What is reported by a run that was cancelled during a call, next to the run that nothing
cancels. The evaluation was cut short, and there are no results. Or both runs matched the same
records and went on to run the actions on them, and each action has the results of the other run
for all records but those whose unit was not started any more. -/
inductive Policy.ReportFollows (setting whole : RunSetting (Recorded σ)) (policy : Policy)
    (start final wholeFinal : Recorded σ) (report : RunReport)
    (wholeOutcome : Except RunError RunReport)
    : Prop
  | cutShort
    (evaluated : outcomeOf (policy.evaluate setting 0) start = (.error .cancelled, final))
    (noResults : report.results = [])
    : ReportFollows setting whole policy start final wholeFinal report wholeOutcome
  | acted {resource : ResourceType} {evaluation : Evaluation} {middle wholeMiddle : Recorded σ}
    {wholeReport : RunReport} {answers wholeAnswers : List (List UnitAnswer)}
    (known : setting.resources.get? policy.resource = some resource)
    (evaluated : outcomeOf (policy.evaluate setting 0) start = (.ok evaluation, middle))
    (wholeEvaluated : outcomeOf (policy.evaluate whole 0) start = (.ok evaluation, wholeMiddle))
    (wholeReported : wholeOutcome = .ok wholeReport)
    (matched : report.matched = evaluation.matched.length)
    (wholeMatched : wholeReport.matched = evaluation.matched.length)
    (acts
      : Policy.Acts setting policy.name resource evaluation.matched middle policy.actions answers
          final)
    (wholeActs
      : Policy.Acts whole policy.name resource evaluation.matched wholeMiddle policy.actions
          wholeAnswers wholeFinal)
    (each
      : ∀ index (spec : ActionSpec),
          policy.actions[index]? = some spec
          → ∃ given,
              answers[index]? = some given
              ∧ spec.ResultsFollow setting resource evaluation.matched given (report.block index)
                  (wholeReport.block index))
    : ReportFollows setting whole policy start final wholeFinal report wholeOutcome

/-- How a run that is cancelled during a call ends, next to the run that nothing cancels. -/
structure Policy.RunFollows (call : Nat) (setting whole : RunSetting (Recorded σ)) (policy : Policy)
    (start : Recorded σ) (ran wholeRan : Except RunError RunReport × Recorded σ)
    : Prop where
  exchanges : ran.2.exchanges = wholeRan.2.exchanges.take call
  undisturbed : wholeRan.2.exchanges.length < call → ran.1 = wholeRan.1
  cancelled
    : call ≤ wholeRan.2.exchanges.length
      → ∀ report,
          ran.1 = .ok report
          → report.cancelled = true
            ∧ policy.ReportFollows setting whole start ran.2 wholeRan.2 report wholeRan.1

theorem Policy.RunFollows.of_error {setting whole : RunSetting (Recorded σ)} {policy : Policy}
    {start final wholeFinal : Recorded σ} (error : RunError)
    (follows : Follows call final wholeFinal)
    : policy.RunFollows call setting whole start (.error error, final) (.error error, wholeFinal) :=
  ⟨follows.exchanges, fun _ => rfl, fun _ _ => nofun⟩

theorem Policy.RunFollows.of_cutShort {setting whole : RunSetting (Recorded σ)} {policy : Policy}
    {start final : Recorded σ} {wholeRan : Except RunError RunReport × Recorded σ} (key : String)
    (evaluated : outcomeOf (policy.evaluate setting 0) start = (.error .cancelled, final))
    (exchanges : final.exchanges = wholeRan.2.exchanges.take call)
    (undisturbed
      : wholeRan.2.exchanges.length < call → .ok (.cutShort policy.name key) = wholeRan.1)
    : policy.RunFollows call setting whole start (.ok (.cutShort policy.name key), final)
        wholeRan where
  exchanges := exchanges
  undisturbed := undisturbed
  cancelled := by
    rintro _ report ⟨⟩
    exact ⟨rfl, .cutShort evaluated rfl⟩

/-- Behind evaluations that matched the same records, the run that is cancelled during a call
follows the other one. -/
theorem Policy.remediate_runFollows {policy : Policy} {resource : ResourceType}
    {evaluation : Evaluation} {start middle wholeMiddle : Recorded σ}
    (known : resources.get? policy.resource = some resource)
    (evaluated
      : outcomeOf
            (policy.evaluate (.cancelledDuring plane resources options maxDepth pageBudget call) 0)
            start
          = (.ok evaluation, middle))
    (wholeEvaluated
      : outcomeOf (policy.evaluate (.neverCancelled plane resources options maxDepth pageBudget) 0)
            start
          = (.ok evaluation, wholeMiddle))
    (follows : Follows call middle wholeMiddle)
    : policy.RunFollows call (.cancelledDuring plane resources options maxDepth pageBudget call)
        (.neverCancelled plane resources options maxDepth pageBudget) start
        (outcomeOf
          (policy.remediate (.cancelledDuring plane resources options maxDepth pageBudget call)
            resource evaluation)
          middle)
        (outcomeOf
          (policy.remediate (.neverCancelled plane resources options maxDepth pageBudget) resource
            evaluation)
          wholeMiddle) := by
  cases limits : policy.checkLimits evaluation.matched.length evaluation.population with
  | error refusal =>
      rw [Policy.outcomeOf_remediate, Policy.outcomeOf_remediate, limits]
      exact .of_error call _ follows
  | ok _ =>
      obtain ⟨answers, final, wholeAnswers, wholeFinal, acts, wholeActs, following⟩ :=
        Policy.exists_acts_follow plane resources options maxDepth pageBudget call policy.name
          resource evaluation.matched policy.actions follows
      have cancelled
          : (plane.cancelledDuring call).cancelled final = true
            ↔ call ≤ wholeFinal.exchanges.length :=
        following.states.cancelled_iff
      rw [acts.outcomeOf_remediate limits, wholeActs.outcomeOf_remediate limits]
      refine ⟨following.states.exchanges, ?_, ?_⟩
      · intro short
        have running : (plane.cancelledDuring call).cancelled final = false :=
          Bool.eq_false_iff.mpr (fun stopped => Nat.not_le_of_lt short (cancelled.mp stopped))
        rw [following.together short]
        exact congrArg (fun stopped => Except.ok (policy.reportOf resource evaluation _ stopped))
          running
      · rintro passed _ ⟨⟩
        exact ⟨cancelled.mpr passed,
          .acted known evaluated wholeEvaluated rfl rfl rfl acts wholeActs
            (acts.blocks_follow plane resources options maxDepth pageBudget call wholeActs
              following.each rfl rfl rfl rfl)⟩

/-- A run that is cancelled during a call follows the run that nothing cancels. Either both evaluate
the policy alike, or the evaluation of the first one was cut short. -/
theorem Policy.run_follows (policy : Policy) (start : σ)
    : policy.RunFollows call (.cancelledDuring plane resources options maxDepth pageBudget call)
        (.neverCancelled plane resources options maxDepth pageBudget) (.start start)
        (outcomeOf (policy.run (.cancelledDuring plane resources options maxDepth pageBudget call))
          (.start start))
        (outcomeOf (policy.run (.neverCancelled plane resources options maxDepth pageBudget))
          (.start start)) := by
  have together : Follows call (.start start) (.start start) := .refl (Nat.zero_le call)
  cases known : resources.get? policy.resource with
  | none =>
      rw [Policy.outcomeOf_run, Policy.outcomeOf_run]
      simp only [RunSetting.neverCancelled_resources, RunSetting.cancelledDuring_resources, known]
      exact .of_error call _ together
  | some resource =>
      by_cases within : maxDepth < policy.nestingDepth
      · rw [Policy.outcomeOf_run, Policy.outcomeOf_run]
        simp only [RunSetting.neverCancelled_resources, RunSetting.cancelledDuring_resources,
          RunSetting.neverCancelled_maxDepth, RunSetting.cancelledDuring_maxDepth, known, within,
          if_true]
        exact .of_error call _ together
      · have following :=
          (policy.evaluate_follows plane resources options maxDepth pageBudget call 0).outcomeOf
            together
        have grows :=
          Policy.run_grows plane resources options maxDepth pageBudget known within (.start start)
        rw [Policy.outcomeOf_run_of_known
          (.cancelledDuring plane resources options maxDepth pageBudget call) known within]
        cases evaluated
            : outcomeOf
                (policy.evaluate
                  (.cancelledDuring plane resources options maxDepth pageBudget call) 0)
                (.start start) with
        | mk outcome middle =>
            cases wholeEvaluated
                : outcomeOf
                    (policy.evaluate
                      (.neverCancelled plane resources options maxDepth pageBudget) 0)
                    (.start start) with
            | mk wholeOutcome wholeMiddle =>
                rw [evaluated, wholeEvaluated] at following
                rw [wholeEvaluated] at grows
                obtain ⟨follows, _, answered⟩ := following
                dsimp only at follows answered
                rcases answered with rfl | ⟨rfl, passed⟩
                · rw [Policy.outcomeOf_run_of_known
                    (.neverCancelled plane resources options maxDepth pageBudget) known within,
                    wholeEvaluated]
                  cases outcome with
                  | ok evaluation =>
                      exact Policy.remediate_runFollows plane resources options maxDepth pageBudget
                        call known evaluated wholeEvaluated follows
                  | error error =>
                      cases error with
                      | cancelled =>
                          exact .of_cutShort call _ evaluated follows.exchanges (fun _ => rfl)
                      | unknownResource _ | fetch _ | nestingTooDeep _ _ | limitExceeded _ =>
                          exact .of_error call _ follows
                · exact .of_cutShort call _ evaluated (follows.goOn passed grows).exchanges
                    (fun short =>
                      absurd (Nat.le_trans passed grows.length_le) (Nat.not_le_of_lt short))

/-- Cancellation starts nothing new. A run that is cancelled during a call makes exactly the calls
of the same run that nothing cancels up to that one, and if the other run makes no such call,
nothing is different. Otherwise a report says that the run was cancelled, and it has the results of
the other run for all records whose turn had come before.
-/
theorem Policy.run_cancelledDuring (policy : Policy) (start : σ)
    : ∃ outcome final wholeOutcome wholeFinal,
        outcomeOf
            (policy.run (.cancelledDuring plane resources options maxDepth pageBudget call))
            (.start start)
          = (outcome, final)
        ∧ outcomeOf (policy.run (.neverCancelled plane resources options maxDepth pageBudget))
              (.start start)
            = (wholeOutcome, wholeFinal)
        ∧ final.exchanges = wholeFinal.exchanges.take call
        ∧ (wholeFinal.exchanges.length < call → outcome = wholeOutcome)
        ∧ (call ≤ wholeFinal.exchanges.length
          → ∀ report,
              outcome = .ok report
              → report.cancelled = true
                ∧ policy.ReportFollows
                    (.cancelledDuring plane resources options maxDepth pageBudget call)
                    (.neverCancelled plane resources options maxDepth pageBudget) (.start start)
                    final wholeFinal report wholeOutcome) := by
  have follows :=
    policy.run_follows plane resources options maxDepth pageBudget call start
  exact ⟨_, _, _, _, rfl, rfl, follows.exchanges, follows.undisturbed, follows.cancelled⟩

end Runs

end Remediation
