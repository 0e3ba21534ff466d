import Mathlib
import Remediation.Proofs.Action.Calls
import Remediation.Proofs.Action.Completion

/-! Creating a record for each of some records. The template is filled from every record by itself,
and a record from which it cannot be filled fails alone: no call is made for it, and what becomes of
the records around it is up to their own calls.
-/

namespace Remediation

variable {σ : Type}

-----------------------------------------------------------------------------------------
-- One record
-----------------------------------------------------------------------------------------

/-- What a filled template, or the field that it lacks, leads to: the call that is made, if any, and
what becomes of the record. -/
inductive CreatedFor (target : ResourceType)
    : Except Template.MissingField Json → Option RemoteCall → Outcome → Prop
  | unfilled (missing : Template.MissingField)
    : CreatedFor target (.error missing) none (.failed .invalid missing.message)
  | failed (body : Json) (error : RemoteError)
    : CreatedFor target (.ok body) (some (.change (.create target body) (.error error)))
        (.failed .remote error.text)
  | created (body response : Json)
    : CreatedFor target (.ok body) (some (.change (.create target body) (.ok response)))
        (.succeeded response)

/-- The name of the type of the new records. -/
def ActionSpec.targetName (spec : ActionSpec) : String :=
  ((Table.get? spec.params "target").bind Json.string?).getD "alarm"

/-- What becomes of a record if the type of the new ones is not registered. -/
def Outcome.unknownTarget (name : String) : Outcome :=
  .failed .invalid s!"unknown target resource '{name}'"

namespace CreatedFor

variable {target : ResourceType} {filled : Except Template.MissingField Json}
  {call : Option RemoteCall} {outcome : Outcome}

/-- There is a call if the template can be filled, and it creates what that gives. -/
theorem call_iff (created : CreatedFor target filled call outcome) (body : Json)
    : (∃ answer, call = some (.change (.create target body) answer)) ↔ filled = .ok body := by
  cases created with
  | unfilled missing => simp
  | failed _ error => simp
  | created _ response => simp

/-- Without a call the template cannot be filled. -/
theorem call_eq_none_iff (created : CreatedFor target filled call outcome)
    : call = none ↔ ∃ missing, filled = .error missing := by
  cases created with
  | unfilled missing => simp
  | failed body error => simp
  | created body response => simp

theorem invalid_iff (created : CreatedFor target filled call outcome)
    : (∃ message, outcome = .failed .invalid message) ↔ ∃ missing, filled = .error missing := by
  cases created with
  | unfilled missing => simp
  | failed body error => simp
  | created body response => simp

theorem remote_iff (created : CreatedFor target filled call outcome)
    : (∃ message, outcome = .failed .remote message)
      ↔ ∃ body error, call = some (.change (.create target body) (.error error)) := by
  cases created with
  | unfilled missing => simp
  | failed body error => simp
  | created body response => simp

theorem succeeded_iff (created : CreatedFor target filled call outcome) (response : Json)
    : outcome = .succeeded response
      ↔ ∃ body, call = some (.change (.create target body) (.ok response)) := by
  cases created with
  | unfilled missing => simp
  | failed body error => simp
  | created body answer => simp

end CreatedFor

namespace Action

variable {plane : ControlPlane σ} {context : ActionContext}

/-- A call answers what the control plane does, and an error of it as an error of the action. -/
theorem outcomeOf_call (plane : ControlPlane σ) (mutation : Mutation) (state : σ)
    : outcomeOf (call plane mutation) state
      = (((plane.perform mutation).run state).1.mapError .remote,
        ((plane.perform mutation).run state).2) := by
  simp only [call, outcomeOf_bind, outcomeOf_lift]
  cases ((plane.perform mutation).run state).1 <;> rfl

/-- One record from which the template can be filled is one call. -/
theorem process_createAlarmRule_ok (plane : ControlPlane σ) {target : ResourceType}
    (known : context.target? = some target) {record body : Json}
    (filled : context.body record = .ok body) (state : σ)
    : outcomeOf ((createAlarmRule plane).process context [record]) state
      = (((plane.perform (.create target body)).run state).1.mapError .remote,
        ((plane.perform (.create target body)).run state).2) := by
  unfold ActionContext.target? at known
  unfold ActionContext.body at filled
  simp only [createAlarmRule, known, filled, List.mapM_cons, List.mapM_nil, outcomeOf_bind,
    outcomeOf_call]
  cases ((plane.perform (.create target body)).run state).1 <;> rfl

/-- One record from which it cannot is refused, and nothing is looked at. -/
theorem process_createAlarmRule_error (plane : ControlPlane σ) {target : ResourceType}
    (known : context.target? = some target) {record : Json} {missing : Template.MissingField}
    (lacking : context.body record = .error missing) (state : σ)
    : outcomeOf ((createAlarmRule plane).process context [record]) state
      = (.error (.invalid missing.message), state) := by
  unfold ActionContext.target? at known
  unfold ActionContext.body at lacking
  simp only [createAlarmRule, known, lacking, List.mapM_cons, outcomeOf_bind, outcomeOf_throw]

/-- One record alone: its template is filled and created, or it is refused without a call. -/
theorem createAlarmRule_single (plane : ControlPlane σ) {target : ResourceType}
    (known : context.target? = some target) (record : Json) (before : Recorded σ)
    : ∃ answer after call made,
        outcomeOf ((createAlarmRule plane.recorded).process context [record]) before
          = (answer, after)
        ∧ after.exchanges = before.exchanges ++ made
        ∧ plane.Leads before.state made after.state
        ∧ made.map Exchange.call = call.toList
        ∧ CreatedFor target (context.body record) call (UnitAnswer.outcome (some answer)) := by
  cases filled : context.body record with
  | error missing =>
      exact ⟨_, before, none, [], process_createAlarmRule_error plane.recorded known filled before,
        (List.append_nil _).symm, .nothing _, rfl, .unfilled missing⟩
  | ok body =>
      have processed := process_createAlarmRule_ok plane.recorded known filled before
      obtain ⟨made, recorded, leads, cancelled, rfl⟩ :=
        (.perform (.create target body) : plane.Makes _ _) before
      cases answered : ((plane.recorded.perform (.create target body)).run before).1 with
      | error error =>
          rw [answered] at recorded leads processed
          exact ⟨_, _, _, _, processed, recorded, leads, rfl, .failed body error⟩
      | ok response =>
          rw [answered] at recorded leads processed
          exact ⟨_, _, _, _, processed, recorded, leads, rfl, .created body response⟩

/-- Without a known target records are refused as they are. -/
theorem createAlarmRule_unknown (plane : ControlPlane σ) (unknown : context.target? = none)
    (records : List Json) (state : Recorded σ)
    : ∃ answer,
        outcomeOf ((createAlarmRule plane.recorded).process context records) state
          = (answer, state)
        ∧ UnitAnswer.outcome (some answer)
          = .unknownTarget ((context.text? "target").getD "alarm") := by
  unfold ActionContext.target? at unknown
  simp only [createAlarmRule, unknown, outcomeOf_throw]
  exact ⟨_, rfl, rfl⟩

-----------------------------------------------------------------------------------------
-- One record after the other
-----------------------------------------------------------------------------------------

/-- What came of records, one by one: the calls that were made for some of them, and the answers
that their units got. -/
inductive CreatedForEach (context : ActionContext) (target : ResourceType)
    : List Json → List (Option RemoteCall) → List UnitAnswer → Prop
  | nothing : CreatedForEach context target [] [] []
  | record {record : Json} {records : List Json} {call : Option RemoteCall}
    {calls : List (Option RemoteCall)} {answer : UnitAnswer} {answers : List UnitAnswer}
    (first : CreatedFor target (context.body record) call answer.outcome)
    (others : CreatedForEach context target records calls answers)
    : CreatedForEach context target (record :: records) (call :: calls) (answer :: answers)

namespace CreatedForEach

variable {target : ResourceType} {records : List Json} {calls : List (Option RemoteCall)}
  {answers : List UnitAnswer}

theorem length (each : CreatedForEach context target records calls answers)
    : calls.length = records.length := by
  induction each with
  | nothing => rfl
  | record _ _ ih => exact congrArg Nat.succ ih

/-- The record at a place has the call and the answer there. -/
theorem getElem? (each : CreatedForEach context target records calls answers) {place : Nat}
    {record : Json} (there : records[place]? = some record)
    : ∃ call answer,
        calls[place]? = some call
        ∧ answers[place]? = some answer
        ∧ CreatedFor target (context.body record) call (UnitAnswer.outcome answer) := by
  induction each generalizing place with
  | nothing => cases there
  | record first _ ih =>
      cases place with
      | zero =>
          cases there
          exact ⟨_, _, rfl, rfl, first⟩
      | succ place => exact ih there

end CreatedForEach

/-- Units of one record each are processed one after the other, and while nothing cancels the run
every record has its own call and its own answer. Witness: induction on the answers; a unit that is
not started has a cancellation before it. -/
theorem Answers.creations {target : ResourceType} (known : context.target? = some target)
    {before after : Recorded σ} {units : List WorkUnit} {answers : List UnitAnswer}
    (answered
      : (createAlarmRule plane.recorded).Answers plane.recorded context before units answers after)
    {records : List Json} (single : units.map WorkUnit.records = records.map ([·]))
    : ∃ made,
        after.exchanges = before.exchanges ++ made
        ∧ plane.Leads before.state made after.state
        ∧ (plane.cancelled before.state = false
          → (∀ exchange ∈ made, exchange.cancelled = false)
          → ∃ calls,
              made.map Exchange.call = calls.filterMap id
              ∧ CreatedForEach context target records calls answers) := by
  induction answered generalizing records with
  | nothing state =>
      obtain rfl : records = [] := by simpa using single
      exact ⟨[], (List.append_nil _).symm, .nothing _, fun _ _ => ⟨[], rfl, .nothing⟩⟩
  | @notStarted before final unit units answers cancelled _ ih =>
      cases records with
      | nil => cases single
      | cons record records =>
          obtain ⟨made, recorded, leads, _⟩ := ih (List.cons.inj single).2
          refine ⟨made, recorded, leads, fun running => ?_⟩
          cases running.symm.trans cancelled
  | @processed before middle final unit units answer answers running answeredFirst _ ih =>
      cases records with
      | nil => cases single
      | cons record records =>
          obtain ⟨one, others⟩ := List.cons.inj single
          obtain ⟨_, _, call, made, ran, recorded, leads, called, created⟩ :=
            createAlarmRule_single plane known record before
          rw [one] at answeredFirst
          cases ran.symm.trans answeredFirst
          obtain ⟨more, recordedMore, leadsMore, goesOn⟩ := ih others
          refine ⟨made ++ more, ?_, leads.trans leadsMore, ?_⟩
          · rw [recordedMore, recorded, List.append_assoc]
          · intro _ uncancelled
            have goesOnRunning : plane.cancelled _ = false :=
              leads.running running (fun exchange member =>
                uncancelled exchange (List.mem_append_left more member))
            obtain ⟨calls, calledMore, each⟩ := goesOn goesOnRunning (fun exchange member =>
              uncancelled exchange (List.mem_append_right made member))
            refine ⟨call :: calls, ?_, .record created each⟩
            rw [List.map_append, called, calledMore]
            cases call <;> rfl

/-- Without a known target every unit that is started is refused, without a call. -/
theorem Answers.refused (unknown : context.target? = none) {before after : Recorded σ}
    {units : List WorkUnit} {answers : List UnitAnswer}
    (answered
      : (createAlarmRule plane.recorded).Answers plane.recorded context before units answers after)
    (running : plane.cancelled before.state = false)
    : after = before
      ∧ ∀ answer ∈ answers,
          UnitAnswer.outcome answer
          = .unknownTarget ((context.text? "target").getD "alarm") := by
  induction answered with
  | nothing => exact ⟨rfl, nofun⟩
  | notStarted cancelled _ _ => cases running.symm.trans cancelled
  | @processed before middle final unit units answer answers _ answeredFirst _ ih =>
      obtain ⟨_, ran, refused⟩ := createAlarmRule_unknown plane unknown unit.records before
      cases ran.symm.trans answeredFirst
      obtain ⟨same, others⟩ := ih running
      refine ⟨same, fun other member => ?_⟩
      rcases List.mem_cons.mp member with rfl | later
      · exact refused
      · exact others other later

end Action

-----------------------------------------------------------------------------------------
-- The results
-----------------------------------------------------------------------------------------

/-- Units of one are the records, each by itself. -/
theorem WorkUnit.map_records_split_one (records : List Json)
    : (WorkUnit.split 1 records).map WorkUnit.records = records.map ([·]) := by
  refine List.ext_getElem? (fun place => ?_)
  rw [List.getElem?_map, getElem?_split Nat.one_pos, List.getElem?_map, Nat.mul_one]
  split
  · rename_i inside
    rw [List.getElem?_eq_getElem inside, Option.map_some, Option.map_some,
      List.drop_eq_getElem_cons inside]
    rfl
  · rename_i outside
    rw [List.getElem?_eq_none (Nat.le_of_not_lt outside)]
    rfl

namespace ActionSpec

/-- A parameter that is required is there. -/
theorem exists_of_required {spec : ActionSpec} {schema : ParameterSchema}
    (valid : spec.check schema = .ok ()) (takesSome : schema.parameters.isEmpty = false)
    {name : String} (required : name ∈ schema.required)
    : ∃ value, Table.get? spec.params name = some value := by
  unfold check at valid
  split at valid
  · rename_i clean
    simp only [ParameterSchema.problems, takesSome, Bool.false_eq_true, if_false,
      List.append_eq_nil_iff, List.map_eq_nil_iff, List.filter_eq_nil_iff] at clean
    have there := clean.2 name required
    simp only [Table.contains, Bool.not_eq_true', Bool.not_eq_false] at there
    exact Option.isSome_iff_exists.mp there
  · cases valid

variable {plane : ControlPlane σ}

/-- Creating a record for each of some records, from a template, makes exactly one call for each
record from which the template can be filled, with what that gives, and none for the others. A
record fails without a call exactly if the template cannot be filled from it; it fails remotely
exactly if its call did, and otherwise it has the response to its call. If the type of the new
records is not registered, there is no call, and all records are refused.
-/
theorem execute_createAlarmRule {spec : ActionSpec} (named : spec.name = "create-alarm-rule")
    (valid : spec.check (Action.createAlarmRule plane).schema = .ok ()) (options : ExecuteOptions)
    (real : options.dryRun = false) (resources : ResourceRegistry) (policy : String)
    (resource : ResourceType) (records : List Json) (before : Recorded σ)
    (running : plane.cancelled before.state = false)
    : ∃ template made after results,
        Table.get? spec.params "rule" = some template
        ∧ (spec.execute plane.recorded (ActionRegistry.builtin plane.recorded) resources options
              policy resource records).run before
            = (results, after)
        ∧ after.exchanges = before.exchanges ++ made
        ∧ plane.Leads before.state made after.state
        ∧ results.length = records.length
        ∧ (∀ target,
            resources.get? spec.targetName = some target
            → (∀ exchange ∈ made, exchange.cancelled = false)
            → ∃ calls : List (Option RemoteCall),
                calls.length = records.length
                ∧ made.map Exchange.call = calls.filterMap id
                ∧ ∀ (place : Nat) record,
                    records[place]? = some record
                    → ∃ call outcome,
                        calls[place]? = some call
                        ∧ results[place]?
                          = some ⟨spec.name, (identity record resource.idField).getD "", outcome⟩
                        ∧ (∀ body,
                            (∃ answer, call = some (.change (.create target body) answer))
                            ↔ Template.expand record template = .ok body)
                        ∧ (call = none
                          ↔ ∃ missing, Template.expand record template = .error missing)
                        ∧ ((∃ message, outcome = .failed .invalid message)
                          ↔ ∃ missing, Template.expand record template = .error missing)
                        ∧ ((∃ message, outcome = .failed .remote message)
                          ↔ ∃ body error,
                              call = some (.change (.create target body) (.error error)))
                        ∧ (∀ response,
                            outcome = .succeeded response
                            ↔ ∃ body, call = some (.change (.create target body) (.ok response)))
                        ∧ CreatedFor target (Template.expand record template) call outcome)
        ∧ (resources.get? spec.targetName = none
          → made = []
            ∧ ∀ (place : Nat) record,
                records[place]? = some record
                → results[place]?
                  = some
                      ⟨
                        spec.name, (identity record resource.idField).getD "",
                        .unknownTarget spec.targetName
                      ⟩) := by
  obtain ⟨pool, dryRun⟩ := options
  subst real
  obtain ⟨template, given⟩ := exists_of_required valid rfl (List.mem_singleton.mpr rfl)
  have found
      : Table.get? (ActionRegistry.builtin plane.recorded) spec.name
        = some (.createAlarmRule plane.recorded) := by
    rw [named]
    exact (ActionRegistry.get?_builtin plane.recorded).2.2.2.2.1
  obtain ⟨answers, after, answered⟩ :=
    Action.exists_answers plane.recorded (.createAlarmRule plane.recorded)
      ⟨resource, resources, spec.params, policy⟩ (WorkUnit.split 1 records) before
  have ran
      : (spec.execute plane.recorded (ActionRegistry.builtin plane.recorded) resources
            ⟨pool, false⟩ policy resource records).run before
          = (spec.resultsOf resource 1 records answers, after) :=
    run_execute found valid pool answered
  have complete : (spec.resultsOf resource 1 records answers).length = records.length := by
    simp [resultsOf, shownIds]
  have filled (record : Json)
      : ActionContext.body ⟨resource, resources, spec.params, policy⟩ record
        = Template.expand record template := by
    simp only [ActionContext.body, given, Option.getD_some]
  have sought
      : resources.get? spec.targetName
        = ActionContext.target? ⟨resource, resources, spec.params, policy⟩ :=
    rfl
  rw [sought]
  cases registered : ActionContext.target? ⟨resource, resources, spec.params, policy⟩ with
  | none =>
      obtain ⟨rfl, refused⟩ := answered.refused registered running
      refine ⟨template, [], after, _, given, ran, (List.append_nil _).symm, .nothing _, complete,
        fun _ impossible => (by cases impossible), fun _ => ⟨rfl, ?_⟩⟩
      intro place record there
      have inside : place < answers.length := by
        have whole := congrArg List.length (WorkUnit.map_records_split_one records)
        rw [List.length_map, List.length_map] at whole
        rw [answered.length, whole]
        exact (List.getElem?_eq_some_iff.mp there).1
      rw [getElem?_resultsOf, there, Nat.div_one, List.getElem?_eq_getElem inside,
        Option.getD_some, refused _ (List.getElem_mem inside)]
      rfl
  | some target =>
      obtain ⟨made, recorded, leads, each⟩ :=
        answered.creations registered (WorkUnit.map_records_split_one records)
      refine ⟨template, made, after, _, given, ran, recorded, leads, complete, ?_,
        fun impossible => (by cases impossible)⟩
      intro _ same uncancelled
      cases same
      obtain ⟨calls, called, created⟩ := each running uncancelled
      refine ⟨calls, created.length, called, ?_⟩
      intro place record there
      obtain ⟨call, answer, callThere, answerThere, created⟩ := created.getElem? there
      rw [filled] at created
      refine ⟨call, _, callThere, ?_, created.call_iff, created.call_eq_none_iff,
        created.invalid_iff, created.remote_iff, created.succeeded_iff, created⟩
      rw [getElem?_resultsOf, there, Nat.div_one, answerThere]
      rfl

end ActionSpec

-----------------------------------------------------------------------------------------
-- One record that lacks a field between two others
-----------------------------------------------------------------------------------------

namespace Sample

def refusal : RemoteError := ⟨"ces", "create", .http 500, "no room"⟩

/-- A control plane whose second change fails. -/
def secondFails : ControlPlane Nat :=
  {
    ControlPlane.vacant with
    perform := fun _ count =>
      (if count = 1 then .error refusal else .ok (.ofNat count), count + 1)
  }

def spaceTemplate : Json :=
  .object [("space", .string "\x7bnamespace\x7d")]

def perSpace : ActionSpec :=
  ⟨"create-alarm-rule", [("rule", spaceTemplate)]⟩

def spaceContext : ActionContext :=
  ⟨.alarm, ⟨[("alarm", .alarm)]⟩, perSpace.params, ""⟩

/-- Three alarms, the second one of which is in no namespace. -/
def spaced : List Json :=
  [
    .object [("alarm_id", .string "a"), ("namespace", .string "SYS.VPC")],
    .object [("alarm_id", .string "b")],
    .object [("alarm_id", .string "c"), ("namespace", .string "SYS.ECS")]
  ]

/-- The calls for the first and the last one. -/
def spacedCalls : List RemoteCall :=
  [
    .change (.create .alarm (.object [("space", .string "SYS.VPC")])) (.ok (.ofNat 0)),
    .change (.create .alarm (.object [("space", .string "SYS.ECS")])) (.error refusal)
  ]

theorem spaced_expanded
    : spaced.map (Template.expand · spaceTemplate)
      = [
          .ok (.object [("space", .string "SYS.VPC")]),
          .error ⟨"namespace"⟩,
          .ok (.object [("space", .string "SYS.ECS")])
        ] := by
  cbv

theorem spaced_answers
    : (Action.createAlarmRule secondFails.recorded).Answers secondFails.recorded spaceContext
        (.start 0) (WorkUnit.split 1 spaced)
        [
          some (.ok (.ofNat 0)),
          some (.error (.invalid "record has no field 'namespace'")),
          some (.error (.remote refusal))
        ]
        ⟨2, spacedCalls.map (⟨·, false⟩)⟩ := by
  obtain ⟨first, second, third⟩ : _ ∧ _ ∧ _ := by
    simpa [spaced] using spaced_expanded
  have known : spaceContext.target? = some .alarm := rfl
  refine .processed rfl (Action.process_createAlarmRule_ok _ known first _) ?_
  refine .processed rfl (Action.process_createAlarmRule_error _ known second _) ?_
  exact .processed rfl (Action.process_createAlarmRule_ok _ known third _) (.nothing _)

theorem perSpace_valid : perSpace.check (Action.createAlarmRule secondFails).schema = .ok () := by
  cbv

theorem perSpace_ran
    : (perSpace.execute secondFails.recorded (ActionRegistry.builtin secondFails.recorded)
          ⟨[("alarm", .alarm)]⟩ ⟨.inOrder 2, false⟩ "" .alarm spaced).run (.start 0)
        = ([
            ⟨"create-alarm-rule", "a", .succeeded (.ofNat 0)⟩,
            ⟨"create-alarm-rule", "b", .failed .invalid "record has no field 'namespace'"⟩,
            ⟨"create-alarm-rule", "c", .failed .remote "ces.create failed: no room"⟩
          ],
          ⟨2, spacedCalls.map (⟨·, false⟩)⟩) := by
  have found := (ActionRegistry.get?_builtin secondFails.recorded).2.2.2.2.1
  have valid : perSpace.check (Action.createAlarmRule secondFails.recorded).schema = .ok () :=
    perSpace_valid
  exact ActionSpec.run_execute found valid (.inOrder 2) spaced_answers

end Sample

/-- The record in the middle fails alone, and the last one with its own call. -/
theorem ActionSpec.execute_createAlarmRule_spaced
    : Sample.perSpace.check (Action.createAlarmRule Sample.secondFails).schema = .ok ()
      ∧ ∃ calls : List (Option RemoteCall),
          calls.filterMap id = Sample.spacedCalls
          ∧ calls.length = 3
          ∧ calls[1]? = some none := by
  refine ⟨Sample.perSpace_valid, ?_⟩
  obtain ⟨template, made, after, results, given, ran, recorded, _, _, created, _⟩ :=
    ActionSpec.execute_createAlarmRule rfl Sample.perSpace_valid ⟨.inOrder 2, false⟩ rfl
      ⟨[("alarm", .alarm)]⟩ "" .alarm Sample.spaced (.start 0) rfl
  cases Sample.perSpace_ran.symm.trans ran
  obtain rfl : Sample.spacedCalls.map (⟨·, false⟩) = made := recorded
  obtain ⟨calls, complete, called, each⟩ := created .alarm rfl (by simp)
  refine ⟨calls, called.symm, complete, ?_⟩
  obtain ⟨call, outcome, callThere, resultThere, _, none, invalid, _⟩ := each 1 _ rfl
  cases resultThere
  rw [callThere, none.mpr (invalid.mp ⟨_, rfl⟩)]

end Remediation
