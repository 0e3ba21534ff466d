import Remediation.Proofs.Action.Completion
import Remediation.Proofs.ControlPlane.Stock
import Remediation.Proofs.Policy.Limits
import Remediation.Proofs.Run.Evaluation
import Remediation.Proofs.Run.Reach

/-! Deleting what a policy matches. On a control plane that holds a stock of records, a run that
deletes everything that it matched leaves the records that it did not match, and a policy without
filters for what is missing decides every record by itself; so the next run of the policy matches
nothing.
-/

namespace Remediation

variable {σ : Type}

-----------------------------------------------------------------------------------------
-- What is left after deleting
-----------------------------------------------------------------------------------------

/-- A call that has a response was answered with it. -/
theorem Action.perform_of_call_eq_ok {plane : ControlPlane σ} {mutation : Mutation}
    {before after : σ} {response : Json}
    (called : outcomeOf (Action.call plane mutation) before = (.ok response, after))
    : (plane.perform mutation).run before = (.ok response, after) := by
  unfold Action.call at called
  rw [outcomeOf_bind, outcomeOf_lift] at called
  cases performed : (plane.perform mutation).run before with
  | mk answer middle =>
      rw [performed] at called
      cases answer with
      | ok _ =>
          cases called
          rfl
      | error source => cases called

section Stocks

variable {plane : ControlPlane σ} {resource : ResourceType} {budget : Nat} {holds : σ → Prop}
  {stock : σ → List Json}

/-- Units of deleting that are all answered with a response take the identities of their records
away. Witness: induction on the units, each of which is deleted from what the ones before it left.
-/
theorem Action.Answers.stock_of_delete (stocks : plane.Stocks resource budget holds stock)
    {context : ActionContext} (typed : context.resource = resource) {state final : σ}
    {units : List WorkUnit} {answers : List UnitAnswer}
    (answered : (Action.delete plane).Answers plane context state units answers final)
    (granted : ∀ answer ∈ answers, ∃ response, answer = some (.ok response))
    (atState : holds state)
    : holds final
      ∧ stock final
        = withoutIds resource.idField
            (units.flatMap (fun unit => identities unit.records resource.idField))
            (stock state) := by
  induction answered with
  | nothing state => exact ⟨atState, (withoutIds_nil _ _).symm⟩
  | notStarted _ _ _ =>
      obtain ⟨response, impossible⟩ := granted none List.mem_cons_self
      cases impossible
  | @processed state middle final unit units answer answers _ processed _ ih =>
      obtain ⟨response, same⟩ := granted (some answer) List.mem_cons_self
      cases same
      have deleted := Action.perform_of_call_eq_ok processed
      rw [typed] at deleted
      obtain ⟨held, less⟩ := stocks.deletes atState deleted
      obtain ⟨heldAtEnd, others⟩ :=
        ih (fun other member => granted other (List.mem_cons_of_mem _ member)) held
      refine ⟨heldAtEnd, ?_⟩
      rw [others, less, List.flatMap_cons, withoutIds_append, ActionContext.ids, typed]

/-- Deleting records, with results that all succeeded, takes their identities away. If the action
does not take its parameters, no result succeeds, so that there are no records. -/
theorem ActionSpec.stock_of_delete (stocks : plane.Stocks resource budget holds stock)
    (resources : ResourceRegistry) (pool : Pool) (policy : String) (params : Fields)
    {records : List Json} {state final : σ} {results : List ActionResult} (atState : holds state)
    (ran
      : ((⟨"delete", params⟩ : ActionSpec).execute plane (.builtin plane) resources ⟨pool, false⟩
            policy resource records).run state
        = (results, final))
    (succeeded : ∀ result ∈ results, ∃ response, result.outcome = .succeeded response)
    : holds final
      ∧ stock final
        = withoutIds resource.idField (identities records resource.idField) (stock state) := by
  have found : Table.get? (ActionRegistry.builtin plane) "delete" = some (.delete plane) :=
    (ActionRegistry.get?_builtin plane).1
  have positive := (Action.delete plane).mode.unitSize_pos
  cases valid : (⟨"delete", params⟩ : ActionSpec).check (Action.delete plane).schema with
  | ok _ =>
      obtain ⟨answers, last, answered⟩ :=
        Action.exists_answers plane (.delete plane) ⟨resource, resources, params, policy⟩
          (WorkUnit.split (Action.delete plane).mode.unitSize records) state
      have executed := ActionSpec.run_execute found valid pool answered
      cases ran.symm.trans executed
      have granted := ActionSpec.answered_of_succeeded positive answered.length succeeded
      have left := answered.stock_of_delete stocks rfl granted atState
      rwa [flatMap_identities_split positive] at left
  | error error =>
      simp only [ActionSpec.execute, found, valid] at ran
      cases ran
      cases records with
      | nil => exact ⟨atState, (withoutIds_nil _ _).symm⟩
      | cons record rest =>
          obtain ⟨response, impossible⟩ := succeeded _ List.mem_cons_self
          cases impossible

/-- An action alone is run as it is. -/
theorem Policy.run_act_singleton (setting : RunSetting σ) (policy : String)
    (resource : ResourceType) (records : List Json) (spec : ActionSpec) (state : σ)
    : (act setting policy resource records [spec]).run state
      = (spec.execute setting.plane setting.actions setting.resources setting.options policy
          resource records).run state :=
  Prod.ext (List.append_nil _) rfl

/-- A policy that only deletes leaves its stock without the records that matched, if all results
succeeded. -/
theorem Policy.stock_of_actOnMatched (stocks : plane.Stocks resource budget holds stock)
    {resources : ResourceRegistry} {pool : Pool} {maxDepth : Nat} {policy : Policy}
    {params : Fields} (actions : policy.actions = [⟨"delete", params⟩]) {matched : List Json}
    {state final : σ} {results : List ActionResult} (atState : holds state)
    (acted
      : (policy.actOnMatched (.ofPlane plane resources ⟨pool, false⟩ maxDepth budget) resource
            matched).run state
        = (results, final))
    (succeeded : ∀ result ∈ results, ∃ response, result.outcome = .succeeded response)
    : holds final
      ∧ stock final
        = withoutIds resource.idField (identities matched resource.idField) (stock state) := by
  unfold actOnMatched at acted
  cases matched with
  | nil =>
      cases acted
      exact ⟨atState, (withoutIds_nil _ _).symm⟩
  | cons record rest =>
      simp only [List.isEmpty_cons, Bool.false_eq_true, if_false, actions, run_act_singleton,
        RunSetting.ofPlane] at acted
      exact ActionSpec.stock_of_delete stocks resources pool policy.name params atState acted
        succeeded

end Stocks

-----------------------------------------------------------------------------------------
-- Policies that decide every record by itself
-----------------------------------------------------------------------------------------

/-- On a stock, a policy without filters for what is missing evaluates to the records of the stock
that can be told apart, split by its filters, unless the run is cancelled while they are fetched. -/
theorem ControlPlane.Stocks.evaluate (setting : RunSetting σ) {policy : Policy}
    {resource : ResourceType} {holds : σ → Prop} {stock : σ → List Json}
    (stocks : setting.plane.Stocks resource setting.pageBudget holds stock)
    (plain : policy.filterTree.isMissingFree = true)
    (known : setting.resources.get? policy.resource = some resource) {state : σ}
    (atState : holds state)
    : (∃ after,
        outcomeOf (policy.evaluate setting 0) state
          = (.ok
              (.ofTest (distinctRecords resource [] (stock state)).1
                (policy.compiledTest resource)),
            after)
        ∧ holds after
        ∧ stock after = stock state)
      ∨ ∃ stopped,
          outcomeOf (policy.evaluate setting 0) state = (.error .cancelled, stopped)
          ∧ setting.plane.cancelled stopped = true := by
  have nested : policy.nested = [] := (Filter.isMissingFree.lists plain).1
  rw [Policy.outcomeOf_evaluate_of_nested_eq_nil nested (Nat.zero_le _) known]
  rcases stocks.fetch atState with ⟨after, fetched, held, same⟩ | ⟨stopped, fetched, cancelled⟩
  · rw [fetched]
    exact .inl ⟨after, rfl, held, same⟩
  · rw [fetched]
    exact .inr ⟨stopped, rfl, cancelled⟩

/-- On a stock of which nothing matches, such a policy has a report without results, of all records
that can be told apart unless the run is cancelled. Nothing is not too much for any limits. -/
theorem ControlPlane.Stocks.run_of_unmatched (setting : RunSetting σ) {policy : Policy}
    {resource : ResourceType} {holds : σ → Prop} {stock : σ → List Json}
    (stocks : setting.plane.Stocks resource setting.pageBudget holds stock)
    (plain : policy.filterTree.isMissingFree = true)
    (known : setting.resources.get? policy.resource = some resource)
    (within : policy.nestingDepth ≤ setting.maxDepth) {state : σ} (atState : holds state)
    (none
      : (distinctRecords resource [] (stock state)).1.filter (policy.compiledTest resource) = [])
    : ∃ report final,
        outcomeOf (policy.run setting) state = (.ok report, final)
        ∧ report.matched = 0
        ∧ report.results = []
        ∧ report.cancelled = setting.plane.cancelled final
        ∧ (report.cancelled = false
          → report.population = (distinctRecords resource [] (stock state)).1.length) := by
  rw [Policy.outcomeOf_run, known]
  simp only [Nat.not_lt.mpr within, if_false]
  rcases stocks.evaluate setting plain known atState with
    ⟨after, evaluated, _, _⟩ | ⟨stopped, evaluated, cancelled⟩
  · have unmatched
        : (Evaluation.ofTest (distinctRecords resource [] (stock state)).1
            (policy.compiledTest resource)).matched
          = [] := none
    simp only [evaluated, Policy.outcomeOf_remediate, unmatched, List.length_nil,
      policy.checkLimits_zero]
    exact ⟨_, _, rfl, congrArg List.length unmatched, rfl, rfl, fun _ => rfl⟩
  · simp only [evaluated]
    refine ⟨_, _, rfl, rfl, rfl, cancelled.symm, ?_⟩
    intro running
    cases running

-----------------------------------------------------------------------------------------
-- Two runs
-----------------------------------------------------------------------------------------

/-- A run that matched nothing asks for no change. -/
theorem Policy.mutationsOf_of_unmatched {plane : ControlPlane σ} {resources : ResourceRegistry}
    {options : ExecuteOptions} {maxDepth pageBudget : Nat} {policy : Policy} {start : σ}
    {report : RunReport} {final : Recorded σ}
    (ran
      : outcomeOf (policy.run (.recording plane resources options maxDepth pageBudget))
          (.start start)
        = (.ok report, final))
    (none : report.matched = 0)
    : mutationsOf final.exchanges = [] := by
  obtain ⟨outcome, again, lists, changes, recorded, exchanges, _, reads, step⟩ :=
    policy.run_recorded plane resources options maxDepth pageBudget start
  cases ran.symm.trans recorded
  rw [exchanges, mutationsOf_lists_append changes reads.onlyLists]
  rcases step with ⟨rfl, _⟩ | ⟨_, evaluation, _, _, _, _, _, _, reported, made⟩
  · rfl
  · cases reported
    have unmatched : evaluation.matched = [] := List.length_eq_zero_iff.mp none
    rw [unmatched, changes_nil] at made
    rw [made.eq_nil]
    rfl

/-- A run that deletes all that it matched, on a stock, has a report of the records of the stock
that can be told apart, and leaves those of them that did not match. What cannot be told apart is
dropped alike before the deletion and after it.
-/
theorem ControlPlane.Stocks.left_of_run {plane : ControlPlane σ} {resource : ResourceType}
    {pageBudget : Nat} {holds : σ → Prop} {stock : σ → List Json}
    (stocks : plane.Stocks resource pageBudget holds stock) {resources : ResourceRegistry}
    {policy : Policy} (known : resources.get? policy.resource = some resource)
    (plain : policy.filterTree.isMissingFree = true) {params : Fields}
    (actions : policy.actions = [⟨"delete", params⟩]) {pool : Pool} {maxDepth : Nat}
    {start after : σ} (atStart : holds start) {report : RunReport}
    (ran
      : outcomeOf (policy.run (.ofPlane plane resources ⟨pool, false⟩ maxDepth pageBudget)) start
        = (.ok report, after))
    (uncancelled : report.cancelled = false)
    (succeeded : ∀ result ∈ report.results, ∃ response, result.outcome = .succeeded response)
    : holds after
      ∧ report.population = (distinctRecords resource [] (stock start)).1.length
      ∧ report.matched
        = ((distinctRecords resource [] (stock start)).1.filter
            (policy.compiledTest resource)).length
      ∧ (distinctRecords resource [] (stock after)).1
        = (distinctRecords resource [] (stock start)).1.filter (fun record =>
            !policy.compiledTest resource record) := by
  obtain ⟨other, found, _, ⟨evaluation, middle, results, evaluated, _, acted, rfl⟩ | ⟨_, rfl⟩⟩ :=
    Policy.outcomeOf_run_eq_ok ran
  · cases known.symm.trans found
    rcases stocks.evaluate (.ofPlane plane resources ⟨pool, false⟩ maxDepth pageBudget) plain known
        atStart with ⟨_, selected, held, same⟩ | ⟨_, failed, _⟩
    · cases evaluated.symm.trans selected
      obtain ⟨heldAfter, left⟩ :=
        Policy.stock_of_actOnMatched stocks actions held acted succeeded
      have told := (distinctRecords_distinguished resource [] (stock start)).1
      refine ⟨heldAfter, rfl, rfl, ?_⟩
      rw [left, same, distinctRecords_withoutIds resource _ _ (fun _ _ => Iff.rfl)]
      exact told.withoutIds_filter _
    · cases evaluated.symm.trans failed
  · cases uncancelled

/-- Deleting converges. On a control plane that holds a stock of the policy's type, let a policy
without filters for what is missing, whose only action deletes, have a run that is no dry run and is
not cancelled, and let all its results succeed. Then the next run of the policy has a report too: it
matches nothing, has no results and asks for no change, and unless it is cancelled itself, its
population is that of the first run without what matched there.
-/
theorem Policy.run_converges {plane : ControlPlane σ} {resource : ResourceType}
    {pageBudget : Nat} {holds : σ → Prop} {stock : σ → List Json}
    (stocks : plane.Stocks resource pageBudget holds stock) {resources : ResourceRegistry}
    {policy : Policy} (known : resources.get? policy.resource = some resource)
    (plain : policy.filterTree.isMissingFree = true) {params : Fields}
    (actions : policy.actions = [⟨"delete", params⟩]) {pool : Pool} {maxDepth : Nat}
    {start after : σ} (atStart : holds start) {report : RunReport}
    (ran
      : outcomeOf (policy.run (.ofPlane plane resources ⟨pool, false⟩ maxDepth pageBudget)) start
        = (.ok report, after))
    (uncancelled : report.cancelled = false)
    (succeeded : ∀ result ∈ report.results, ∃ response, result.outcome = .succeeded response)
    (options : ExecuteOptions)
    : ∃ again final,
        outcomeOf (policy.run (.recording plane resources options maxDepth pageBudget))
            (.start after)
          = (.ok again, final)
        ∧ again.matched = 0
        ∧ again.results = []
        ∧ mutationsOf final.exchanges = []
        ∧ again.cancelled = plane.cancelled final.state
        ∧ (again.cancelled = false → again.population + report.matched = report.population) := by
  obtain ⟨_, _, within, _⟩ := outcomeOf_run_eq_ok ran
  obtain ⟨heldAfter, population, matched, left⟩ :=
    stocks.left_of_run known plain actions atStart ran uncancelled succeeded
  have unmatched
      : (distinctRecords resource [] (stock after)).1.filter (policy.compiledTest resource)
        = [] := by
    rw [left, List.filter_filter]
    simp
  obtain ⟨again, last, ranAgain, none, noResults, cancelled, populationAgain⟩ :=
    stocks.run_of_unmatched (.ofPlane plane resources options maxDepth pageBudget) plain known
      within heldAfter unmatched
  have recorded :=
    policy.outcomeOf_run_ofPlane plane resources options maxDepth pageBudget (.start after)
  cases ranRecorded
      : outcomeOf (policy.run (.recording plane resources options maxDepth pageBudget))
          (.start after) with
  | mk outcome final =>
      rw [ranRecorded] at recorded
      cases ranAgain.symm.trans recorded
      refine ⟨again, final, rfl, none, noResults,
        Policy.mutationsOf_of_unmatched ranRecorded none, cancelled, fun running => ?_⟩
      rw [populationAgain running, population, matched, left, Nat.add_comm]
      exact (Evaluation.population_ofTest _ _).symm

/-- A run in memory that nothing cancels leaves it so. -/
theorem Memory.Calm.run {memory : Memory} (calm : memory.Calm) (policy : Policy)
    (resources : ResourceRegistry) (options : ExecuteOptions) (maxDepth pageBudget : Nat)
    : (outcomeOf (policy.run (.recording Memory.plane resources options maxDepth pageBudget))
        (.start memory)).2.state.Calm := by
  obtain ⟨outcome, final, lists, changes, ran, _, leads, _⟩ :=
    policy.run_recorded Memory.plane resources options maxDepth pageBudget memory
  rw [ran]
  exact calm.leads leads

-----------------------------------------------------------------------------------------
-- Two of three alarms
-----------------------------------------------------------------------------------------

namespace Sample

/-- Alarms on pages of two, of which one comes again in another namespace and one has no identity.
-/
def cluttered : Memory :=
  {
    Memory.ofRecords
      [("alarm",
        [
          alarm "a" "SYS.VPC", alarm "b" "SYS.ECS", .object [("namespace", .string "SYS.VPC")],
          alarm "a" "SYS.ECS", alarm "c" "SYS.VPC"
        ])] with
    pageSize := 2
  }

/-- Deletes the alarms in a namespace. -/
def purge : Policy := { inSpace "SYS.VPC" with actions := [⟨"delete", []⟩] }

theorem cluttered_stocked : cluttered.Stocked .alarm 9 where
  unscripted := rfl
  granted := rfl
  paged := by decide
  enough := by decide

def purgeSetting : RunSetting Memory :=
  .ofPlane Memory.plane ⟨[("alarm", .alarm)]⟩ ⟨.inOrder 8, false⟩ 0 9

/-- The memory after its list was read. -/
def clutteredRead : Memory :=
  {
    cluttered with
    callCount := 3,
    log := [.list "alarm" (some "4"), .list "alarm" (some "2"), .list "alarm" none]
  }

theorem cluttered_fetched
    : outcomeOf (purgeSetting.fetch .alarm) cluttered
      = (.ok [alarm "a" "SYS.VPC", alarm "b" "SYS.ECS", alarm "c" "SYS.VPC"], clutteredRead) := by
  cbv

theorem purge_evaluated
    : outcomeOf (purge.evaluate purgeSetting 0) cluttered
      = (.ok
          ⟨3, [alarm "a" "SYS.VPC", alarm "c" "SYS.VPC"], [alarm "b" "SYS.ECS"]⟩,
        clutteredRead) := by
  have known : purgeSetting.resources.get? purge.resource = some .alarm := rfl
  have split
      : Evaluation.ofTest [alarm "a" "SYS.VPC", alarm "b" "SYS.ECS", alarm "c" "SYS.VPC"]
          (purge.compiledTest .alarm)
        = ⟨3, [alarm "a" "SYS.VPC", alarm "c" "SYS.VPC"], [alarm "b" "SYS.ECS"]⟩ := by
    cbv
  rw [Policy.outcomeOf_evaluate_of_nested_eq_nil rfl (Nat.zero_le _) known, cluttered_fetched,
    ← split]

theorem purge_acted
    : ((purge.actOnMatched purgeSetting .alarm
          [alarm "a" "SYS.VPC", alarm "c" "SYS.VPC"]).run clutteredRead).1
      = ["a", "c"].map (fun id =>
          ⟨"delete", id, .succeeded (.ofFields [("deleted", .strings ["a", "c"])])⟩) := by
  rfl

theorem purge_ran
    : ∃ report after,
        outcomeOf (purge.run purgeSetting) cluttered = (.ok report, after)
        ∧ report.population = 3
        ∧ report.matched = 2
        ∧ report.cancelled = false
        ∧ ∀ result ∈ report.results, ∃ response, result.outcome = .succeeded response := by
  have known : purgeSetting.resources.get? purge.resource = some .alarm := rfl
  have within : ¬purgeSetting.maxDepth < purge.nestingDepth := by decide
  have limits : purge.checkLimits 2 3 = .ok () := rfl
  rw [Policy.outcomeOf_run, known]
  simp only [within, if_false, purge_evaluated, Policy.outcomeOf_remediate, List.length_cons,
    List.length_nil, limits]
  refine ⟨_, _, rfl, rfl, rfl, rfl, fun result member => ?_⟩
  change result ∈ ((purge.actOnMatched purgeSetting .alarm _).run clutteredRead).1 at member
  rw [purge_acted] at member
  obtain ⟨id, _, rfl⟩ := List.mem_map.mp member
  exact ⟨_, rfl⟩

end Sample

/-- Two alarms are deleted, one of which is in memory twice, and the second run finds the third one
alone. -/
theorem Policy.run_converges_cluttered
    : ∃ report after again final,
        outcomeOf (Sample.purge.run Sample.purgeSetting) Sample.cluttered = (.ok report, after)
        ∧ report.population = 3
        ∧ report.matched = 2
        ∧ outcomeOf
              (Sample.purge.run
                (.recording Memory.plane ⟨[("alarm", .alarm)]⟩ ⟨.inOrder 1, false⟩ 0 9))
              (.start after)
            = (.ok again, final)
        ∧ again.population = 1
        ∧ again.matched = 0
        ∧ mutationsOf final.exchanges = [] := by
  obtain ⟨report, after, ran, population, matched, uncancelled, succeeded⟩ := Sample.purge_ran
  obtain ⟨again, final, ranAgain, none, _, unchanged, cancelled, populationAgain⟩ :=
    Policy.run_converges (Memory.stocks .alarm 9) rfl rfl rfl Sample.cluttered_stocked ran
      uncancelled succeeded ⟨.inOrder 1, false⟩
  have calm : Sample.cluttered.Calm := ⟨rfl, rfl⟩
  have recorded :=
    Sample.purge.outcomeOf_run_ofPlane Memory.plane ⟨[("alarm", .alarm)]⟩ ⟨.inOrder 8, false⟩ 0 9
      (.start Sample.cluttered)
  have calmAfter : after.Calm := by
    rw [(Prod.mk.inj (ran.symm.trans recorded)).2]
    exact calm.run Sample.purge ⟨[("alarm", .alarm)]⟩ ⟨.inOrder 8, false⟩ 0 9
  have calmAtEnd := calmAfter.run Sample.purge ⟨[("alarm", .alarm)]⟩ ⟨.inOrder 1, false⟩ 0 9
  rw [ranAgain] at calmAtEnd
  have sum := populationAgain (cancelled.trans calmAtEnd.uncancelled)
  exact ⟨report, after, again, final, ran, population, matched, ranAgain, by omega, none, unchanged⟩

end Remediation
