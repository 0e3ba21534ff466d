import Mathlib.Data.List.Perm.Basic
import Remediation.Proofs.Action.Units
import Remediation.Proofs.Run.Steps

/-! The order in which units finish. A pool answers every unit that it was given with the outcome of
that unit, each one once, in some order; and since every record belongs to exactly one unit, the
results of an action depend on the answers that its units got and on nothing else.
-/

namespace Remediation

variable {σ : Type}

-----------------------------------------------------------------------------------------
-- Every unit finishes once
-----------------------------------------------------------------------------------------

namespace Pool

variable (pool : Pool)

/-- What finishes and what is left are what was under way. -/
theorem finish_perm (underWay : List FinishedUnit)
    : ((pool.finish underWay).1 ++ (pool.finish underWay).2).Perm underWay := by
  unfold finish
  cases underWay with
  | nil => exact .rfl
  | cons unit rest =>
      have inside : pool.next (unit :: rest) % (unit :: rest).length < (unit :: rest).length :=
        Nat.mod_lt _ (Nat.succ_pos _)
      simp only [List.getElem?_eq_getElem inside, Option.toList_some, List.singleton_append]
      exact List.getElem_cons_eraseIdx_perm inside

/-- Given enough fuel, all that is under way finishes. Witness: induction on the fuel, which what is
under way never exceeds. -/
theorem drain_perm (fuel : Nat) (underWay : List FinishedUnit) (enough : underWay.length ≤ fuel)
    : (pool.drain fuel underWay).Perm underWay := by
  induction fuel generalizing underWay with
  | zero => exact .rfl
  | succ fuel ih =>
      cases underWay with
      | nil => exact .rfl
      | cons unit rest =>
          have finished := pool.finish_perm (unit :: rest)
          have inside : pool.next (unit :: rest) % (unit :: rest).length < (unit :: rest).length :=
            Nat.mod_lt _ (Nat.succ_pos _)
          have fewer : (pool.finish (unit :: rest)).2.length ≤ fuel := by
            rw [finish, List.length_eraseIdx_of_lt inside]
            exact Nat.le_of_succ_le_succ enough
          exact ((ih _ fewer).append_left _).trans finished

/-- What finishes before the next unit is started, and what is still under way then. -/
def makeRoom (underWay : List FinishedUnit) : List FinishedUnit × List FinishedUnit :=
  if max 1 pool.limit ≤ underWay.length then pool.finish underWay else ([], underWay)

theorem makeRoom_perm (underWay : List FinishedUnit)
    : ((pool.makeRoom underWay).1 ++ (pool.makeRoom underWay).2).Perm underWay := by
  unfold makeRoom
  split
  · exact pool.finish_perm underWay
  · exact .rfl

/-- A unit that is started finishes with what came of it, along with all that was under way and what
finishes of the units behind it. -/
theorem run_cons {start : WorkUnit → StateM σ (Option Outcome)} {unit : WorkUnit}
    {rest : List WorkUnit} {before after final : σ} {outcome : Option Outcome}
    {others : List FinishedUnit} (started : (start unit).run before = (outcome, after))
    (goesOn
      : ∀ underWay,
          ∃ finished,
            (pool.run start rest underWay).run after = (finished, final)
            ∧ finished.Perm (underWay ++ others))
    (underWay : List FinishedUnit)
    : ∃ finished,
        (pool.run start (unit :: rest) underWay).run before = (finished, final)
        ∧ finished.Perm (underWay ++ (unit, outcome) :: others) := by
  obtain ⟨finished, ran, all⟩ := goesOn ((pool.makeRoom underWay).2 ++ [(unit, outcome)])
  refine ⟨(pool.makeRoom underWay).1 ++ finished, ?_, ?_⟩
  · change (((pool.makeRoom underWay).1
        ++ ((pool.run start rest
            ((pool.makeRoom underWay).2 ++ [(unit, ((start unit).run before).1)])).run
              ((start unit).run before).2).1),
      ((pool.run start rest
        ((pool.makeRoom underWay).2 ++ [(unit, ((start unit).run before).1)])).run
          ((start unit).run before).2).2) = _
    rw [started, ran]
  · calc
      ((pool.makeRoom underWay).1 ++ finished).Perm
            ((pool.makeRoom underWay).1
              ++ ((pool.makeRoom underWay).2 ++ [(unit, outcome)] ++ others)) :=
          all.append_left _
      _ = ((pool.makeRoom underWay).1 ++ (pool.makeRoom underWay).2)
            ++ (unit, outcome) :: others := by simp
      List.Perm _ (underWay ++ (unit, outcome) :: others) :=
          (pool.makeRoom_perm underWay).append_right _

end Pool

-----------------------------------------------------------------------------------------
-- The answers that units get
-----------------------------------------------------------------------------------------

/-- What a unit was answered, unless it was not started. -/
abbrev UnitAnswer := Option (Except ActionError Json)

/-- What a unit is finished with. -/
def UnitAnswer.outcome? (answer : UnitAnswer) : Option Outcome :=
  answer.map Outcome.ofResponse

/-- What becomes of the records of a unit. -/
def UnitAnswer.outcome : UnitAnswer → Outcome
  | none => .skipped "cancelled"
  | some (.ok response) => .succeeded response
  | some (.error error) => error.outcome

theorem UnitAnswer.exists_of_succeeded {answer : UnitAnswer} {response : Json}
    (succeeded : answer.outcome = .succeeded response)
    : answer = some (.ok response) := by
  cases answer with
  | none => cases succeeded
  | some answer =>
      cases answer with
      | ok _ =>
          cases succeeded
          rfl
      | error error => cases error <;> cases succeeded

namespace Action

/-- An action processes units from one state to another one with some answers: each unit is answered
in the state that the one before it led to, or it is not started since the run is cancelled then. -/
inductive Answers (plane : ControlPlane σ) (action : Action σ) (context : ActionContext)
    : σ → List WorkUnit → List UnitAnswer → σ → Prop
  | nothing (state : σ) : Answers plane action context state [] [] state
  | notStarted {state final : σ} {unit : WorkUnit} {units : List WorkUnit}
    {answers : List UnitAnswer} (cancelled : plane.cancelled state = true)
    (others : Answers plane action context state units answers final)
    : Answers plane action context state (unit :: units) (none :: answers) final
  | processed {state middle final : σ} {unit : WorkUnit} {units : List WorkUnit}
    {answer : Except ActionError Json} {answers : List UnitAnswer}
    (running : plane.cancelled state = false)
    (answered : outcomeOf (action.process context unit.records) state = (answer, middle))
    (others : Answers plane action context middle units answers final)
    : Answers plane action context state (unit :: units) (some answer :: answers) final

variable {plane : ControlPlane σ} {action : Action σ} {context : ActionContext}

/-- Units are answered, whatever the state is. -/
theorem exists_answers (plane : ControlPlane σ) (action : Action σ) (context : ActionContext)
    (units : List WorkUnit) (state : σ)
    : ∃ answers final, action.Answers plane context state units answers final := by
  induction units generalizing state with
  | nil => exact ⟨[], state, .nothing state⟩
  | cons unit rest ih =>
      cases cancelled : plane.cancelled state with
      | true =>
          obtain ⟨answers, final, others⟩ := ih state
          exact ⟨_, final, .notStarted cancelled others⟩
      | false =>
          obtain ⟨answers, final, others⟩ :=
            ih (outcomeOf (action.process context unit.records) state).2
          exact ⟨_, final, .processed cancelled rfl others⟩

theorem Answers.length {state final : σ} {units : List WorkUnit} {answers : List UnitAnswer}
    (answered : action.Answers plane context state units answers final)
    : answers.length = units.length := by
  induction answered with
  | nothing => rfl
  | notStarted _ _ ih => exact congrArg Nat.succ ih
  | processed _ _ _ ih => exact congrArg Nat.succ ih

theorem run_processUnit (plane : ControlPlane σ) (action : Action σ) (context : ActionContext)
    (unit : WorkUnit) (state : σ)
    : (action.processUnit plane context unit).run state
      = if plane.cancelled state then (none, state)
        else
          (some (.ofResponse (outcomeOf (action.process context unit.records) state).1),
            (outcomeOf (action.process context unit.records) state).2) := by
  change (if plane.cancelled state then _ else _ : StateM σ (Option Outcome)).run state = _
  cases plane.cancelled state with
  | true => rfl
  | false => rfl

/-- A pool finishes what is under way and all units, each with its own answer, in some order.
Witness: induction on the answers; whatever finishes while units are started, nothing is lost. -/
theorem Answers.run_pool {state final : σ} {units : List WorkUnit} {answers : List UnitAnswer}
    (answered : action.Answers plane context state units answers final) (pool : Pool)
    (underWay : List FinishedUnit)
    : ∃ finished,
        (pool.run (action.processUnit plane context) units underWay).run state = (finished, final)
        ∧ finished.Perm (underWay ++ units.zip (answers.map UnitAnswer.outcome?)) := by
  induction answered generalizing underWay with
  | nothing state => exact ⟨_, rfl, by simpa using pool.drain_perm _ underWay (Nat.le_refl _)⟩
  | notStarted cancelled _ ih =>
      refine pool.run_cons ?_ ih underWay
      rw [run_processUnit, if_pos cancelled]
      rfl
  | processed running answered _ ih =>
      refine pool.run_cons ?_ ih underWay
      rw [run_processUnit, running, answered]
      rfl

end Action

-----------------------------------------------------------------------------------------
-- The outcome at a place
-----------------------------------------------------------------------------------------

/-- In whatever order units have finished, the outcome at a place is that of the one unit that the
record there belongs to. -/
theorem outcomeAt_of_perm {size : Nat} (positive : 0 < size) {records : List Json}
    {answers : List UnitAnswer} {finished : List FinishedUnit}
    (all
      : finished.Perm ((WorkUnit.split size records).zip (answers.map UnitAnswer.outcome?)))
    {place : Nat} (inside : place < records.length) {answer : UnitAnswer}
    (found : answers[place / size]? = some answer)
    : outcomeAt finished place = answer.outcome := by
  obtain ⟨unit, there, _⟩ := WorkUnit.exists_unit positive inside
  have here
      : ((WorkUnit.split size records).zip (answers.map UnitAnswer.outcome?))[place / size]?
        = some (unit, answer.outcome?) := by
    rw [List.getElem?_zip_eq_some, List.getElem?_map, found]
    exact ⟨there, rfl⟩
  have alone
      : finished.filter (fun finishedUnit => finishedUnit.1.covers place)
        = [(unit, answer.outcome?)] := by
    refine List.perm_singleton.mp ((all.filter _).trans (.of_eq ?_))
    rw [filter_eq_of_holds_once, here]
    · rfl
    · intro index finishedUnit unitAt
      exact WorkUnit.covers_iff positive inside (List.getElem?_zip_eq_some.mp unitAt).1
  unfold outcomeAt
  rw [← List.head?_filter, alone]
  cases answer with
  | none => rfl
  | some answer => cases answer <;> rfl

-----------------------------------------------------------------------------------------
-- Results
-----------------------------------------------------------------------------------------

namespace ActionSpec

/-- The results of an action for records, of which so many at a time belong to one unit, when the
units got some answers. -/
def resultsOf (spec : ActionSpec) (resource : ResourceType) (size : Nat) (records : List Json)
    (answers : List UnitAnswer)
    : List ActionResult :=
  (shownIds resource records).mapIdx (fun place id =>
    ⟨spec.name, id, UnitAnswer.outcome ((answers[place / size]?).getD none)⟩)

theorem getElem?_resultsOf (spec : ActionSpec) (resource : ResourceType) (size : Nat)
    (records : List Json) (answers : List UnitAnswer) (place : Nat)
    : (spec.resultsOf resource size records answers)[place]?
      = records[place]?.map (fun record =>
          ⟨
            spec.name, (identity record resource.idField).getD "",
            UnitAnswer.outcome ((answers[place / size]?).getD none)
          ⟩) := by
  simp [resultsOf, shownIds, Function.comp_def]

/-- Units that have finished in some order lead to the results of their answers. -/
theorem resultsOf_eq_of_perm (spec : ActionSpec) (resource : ResourceType) {size : Nat}
    (positive : 0 < size) {records : List Json} {answers : List UnitAnswer}
    (complete : answers.length = (WorkUnit.split size records).length)
    {finished : List FinishedUnit}
    (all
      : finished.Perm ((WorkUnit.split size records).zip (answers.map UnitAnswer.outcome?)))
    : (shownIds resource records).mapIdx (fun place id =>
        (⟨spec.name, id, outcomeAt finished place⟩ : ActionResult))
      = spec.resultsOf resource size records answers := by
  refine List.ext_getElem? (fun place => ?_)
  simp only [resultsOf, List.getElem?_mapIdx]
  cases shown : (shownIds resource records)[place]? with
  | none => rfl
  | some id =>
      have inside : place < records.length := by
        have some := (List.getElem?_eq_some_iff.mp shown).1
        simpa [shownIds] using some
      obtain ⟨unit, there, _⟩ := WorkUnit.exists_unit positive inside
      have answered : place / size < answers.length := by
        rw [complete]
        exact (List.getElem?_eq_some_iff.mp there).1
      have found := List.getElem?_eq_getElem answered
      rw [outcomeAt_of_perm positive all inside found, found]
      rfl

/-- If all results of an action succeeded, all of its units were answered with a response. Every
unit has a record, and so a result. -/
theorem answered_of_succeeded {spec : ActionSpec} {resource : ResourceType} {size : Nat}
    (positive : 0 < size) {records : List Json} {answers : List UnitAnswer}
    (complete : answers.length = (WorkUnit.split size records).length)
    (succeeded
      : ∀ result ∈ spec.resultsOf resource size records answers,
          ∃ response, result.outcome = .succeeded response)
    : ∀ answer ∈ answers, ∃ response, answer = some (.ok response) := by
  intro answer member
  obtain ⟨index, found⟩ := List.getElem?_of_mem member
  have within : index < (WorkUnit.split size records).length := by
    rw [← complete]
    exact (List.getElem?_eq_some_iff.mp found).1
  have inside : index * size < records.length := by
    have there := WorkUnit.getElem?_split positive records index
    rw [List.getElem?_eq_getElem within] at there
    by_contra outside
    rw [if_neg outside] at there
    cases there
  have shown := spec.getElem?_resultsOf resource size records answers (index * size)
  rw [List.getElem?_eq_getElem inside, Option.map_some, Nat.mul_div_cancel index positive,
    found] at shown
  obtain ⟨response, outcome⟩ := succeeded _ (List.mem_of_getElem? shown)
  exact ⟨response, UnitAnswer.exists_of_succeeded outcome⟩

variable {plane : ControlPlane σ} {actions : ActionRegistry σ} {resources : ResourceRegistry}
  {policy : String} {resource : ResourceType} {spec : ActionSpec} {action : Action σ}

/-- A valid action that is no dry run has the results of the answers that its units get, whatever
its pool is. -/
theorem run_execute (found : Table.get? actions spec.name = some action)
    (valid : spec.check action.schema = .ok ()) (pool : Pool) {records : List Json}
    {state final : σ} {answers : List UnitAnswer}
    (answered
      : action.Answers plane ⟨resource, resources, spec.params, policy⟩ state
          (WorkUnit.split action.mode.unitSize records) answers final)
    : (spec.execute plane actions resources ⟨pool, false⟩ policy resource records).run state
      = (spec.resultsOf resource action.mode.unitSize records answers, final) := by
  obtain ⟨finished, ran, all⟩ := answered.run_pool pool []
  rw [List.nil_append] at all
  have ordered :=
    spec.resultsOf_eq_of_perm resource action.mode.unitSize_pos answered.length all
  unfold execute
  simp only [found, valid, Bool.false_eq_true, if_false]
  rw [← ordered]
  change (((shownIds resource records).mapIdx (fun place id =>
      (⟨spec.name, id, outcomeAt
        ((action.runUnits plane ⟨resource, resources, spec.params, policy⟩ pool records).run
          state).1 place⟩ : ActionResult))),
    ((action.runUnits plane ⟨resource, resources, spec.params, policy⟩ pool records).run
      state).2) = _
  unfold Action.runUnits
  rw [ran]

/-- A valid action that is no dry run has one result for each record, in the order of the records.
The record at a place belongs to exactly one unit, and its result has its identity and the outcome
of that unit: the response to it, the error of it, or that it was not started. No order in which
units finish and no pool changes a result. Neither does another run, on whatever control plane, if
the unit of the record gets the same answer in it, whatever the other units get.
-/
theorem execute_of_answers {options : ExecuteOptions}
    (found : Table.get? actions spec.name = some action)
    (valid : spec.check action.schema = .ok ()) (real : options.dryRun = false)
    (records : List Json) (state : σ)
    : ∃ answers results final,
        action.Answers plane ⟨resource, resources, spec.params, policy⟩ state
          (WorkUnit.split action.mode.unitSize records) answers final
        ∧ (spec.execute plane actions resources options policy resource records).run state
          = (results, final)
        ∧ results.length = records.length
        ∧ (∀ place record,
            records[place]? = some record
            → ∃ unit answer,
                (WorkUnit.split action.mode.unitSize records).filter (·.covers place) = [unit]
                ∧ unit.records[place - unit.start]? = some record
                ∧ (unit, answer) ∈ (WorkUnit.split action.mode.unitSize records).zip answers
                ∧ results[place]?
                  = some ⟨spec.name, (identity record resource.idField).getD "", answer.outcome⟩)
        ∧ (∀ finished : List FinishedUnit,
            finished.Perm
                ((WorkUnit.split action.mode.unitSize records).zip
                  (answers.map UnitAnswer.outcome?))
            → (shownIds resource records).mapIdx (fun place id =>
                (⟨spec.name, id, outcomeAt finished place⟩ : ActionResult))
              = results)
        ∧ (∀ pool,
            (spec.execute plane actions resources ⟨pool, false⟩ policy resource records).run state
            = (results, final))
        ∧ ∀ {τ : Type} (other : ControlPlane τ) (others : ActionRegistry τ)
            (alike : Action τ) (pool : Pool) (start after : τ) (given : List UnitAnswer),
            Table.get? others spec.name = some alike
            → spec.check alike.schema = .ok ()
            → alike.mode = action.mode
            → alike.Answers other ⟨resource, resources, spec.params, policy⟩ start
                (WorkUnit.split action.mode.unitSize records) given after
            → ∀ place,
                given[place / action.mode.unitSize]? = answers[place / action.mode.unitSize]?
                → (((spec.execute other others resources ⟨pool, false⟩ policy resource
                      records).run start).1)[place]?
                  = results[place]? := by
  obtain ⟨pool, dryRun⟩ := options
  subst real
  have positive := action.mode.unitSize_pos
  obtain ⟨answers, final, answered⟩ :=
    Action.exists_answers plane action ⟨resource, resources, spec.params, policy⟩
      (WorkUnit.split action.mode.unitSize records) state
  refine ⟨answers, spec.resultsOf resource action.mode.unitSize records answers, final, answered,
    run_execute found valid pool answered, ?_, ?_, ?_, ?_, ?_⟩
  · simp [resultsOf, shownIds]
  · intro place record there
    have inside : place < records.length := (List.getElem?_eq_some_iff.mp there).1
    obtain ⟨unit, unitAt, holds⟩ := WorkUnit.exists_unit positive inside
    have answeredAt : place / action.mode.unitSize < answers.length := by
      rw [answered.length]
      exact (List.getElem?_eq_some_iff.mp unitAt).1
    have answerAt := List.getElem?_eq_getElem answeredAt
    refine ⟨unit, _, WorkUnit.filter_covers positive inside unitAt, holds.trans there,
      List.mem_of_getElem? (List.getElem?_zip_eq_some.mpr ⟨unitAt, answerAt⟩), ?_⟩
    rw [getElem?_resultsOf, there, answerAt]
    rfl
  · intro finished all
    exact spec.resultsOf_eq_of_perm resource positive answered.length all
  · intro pool
    exact run_execute found valid pool answered
  · intro τ other others alike pool start after given foundToo validToo sameMode answeredToo place
      same
    rw [← sameMode] at answeredToo
    rw [run_execute foundToo validToo pool answeredToo, sameMode, getElem?_resultsOf,
      getElem?_resultsOf, same]

end ActionSpec

-----------------------------------------------------------------------------------------
-- Three units, of which one fails and one is not started
-----------------------------------------------------------------------------------------

namespace Sample

/-- Counts the batches of two that it is given, and does not take a certain record. -/
def tally : Action Nat where
  name := "tally"
  schema := .none
  mode := .batch 2
  process := fun context records count =>
    let ids := context.ids records
    (if ids.contains "c" then .error (.invalid "bad record") else .ok (.strings ids), count + 1)

/-- A control plane that is cancelled when two batches have been counted. -/
def stopsAtTwo : ControlPlane Nat :=
  { ControlPlane.vacant with cancelled := fun count => 2 ≤ count }

/-- Three units at a time, of which the one that was started last finishes first. -/
def latestFirst : Pool := ⟨3, fun underWay => underWay.length - 1⟩

/-- Five alarms, named by letters. -/
def lettered : List Json :=
  ["a", "b", "c", "d", "e"].map (fun id => .object [("alarm_id", .string id)])

end Sample

/-- Of three units, the first one succeeds, the second one fails for both of its records, and the
third one is not started. The results are the same if the units finish one after the other and if
they finish in the opposite order. -/
theorem ActionSpec.execute_of_answers_tally
    : ((⟨"tally", []⟩ : ActionSpec).execute Sample.stopsAtTwo [("tally", Sample.tally)] .empty
            ⟨Sample.latestFirst, false⟩ "" .alarm Sample.lettered).run 0
        = ((⟨"tally", []⟩ : ActionSpec).execute Sample.stopsAtTwo [("tally", Sample.tally)] .empty
            ⟨.inOrder 1, false⟩ "" .alarm Sample.lettered).run 0
      ∧ ((⟨"tally", []⟩ : ActionSpec).execute Sample.stopsAtTwo [("tally", Sample.tally)] .empty
            ⟨.inOrder 1, false⟩ "" .alarm Sample.lettered).run 0
        = ([
            ⟨"tally", "a", .succeeded (.strings ["a", "b"])⟩,
            ⟨"tally", "b", .succeeded (.strings ["a", "b"])⟩,
            ⟨"tally", "c", .failed .invalid "bad record"⟩,
            ⟨"tally", "d", .failed .invalid "bad record"⟩,
            ⟨"tally", "e", .skipped "cancelled"⟩
          ],
          2) := by
  obtain ⟨_, results, final, _, ran, _, _, _, always, _⟩ :=
    @ActionSpec.execute_of_answers Nat Sample.stopsAtTwo [("tally", Sample.tally)] .empty "" .alarm
      ⟨"tally", []⟩ Sample.tally ⟨Sample.latestFirst, false⟩ rfl rfl rfl Sample.lettered 0
  exact ⟨ran.trans (always (.inOrder 1)).symm, rfl⟩

end Remediation
