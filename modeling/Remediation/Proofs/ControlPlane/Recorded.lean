import Remediation.ControlPlane.Basic
import Remediation.Proofs.Run.Steps

/-! A control plane that writes down what it is asked and what it answers. Any control plane can be
recorded, so what is said of the calls of a run on a recorded one is said of its calls on any other.
Steps are composed of calls, and what the calls of a step are like follows from what those of its
parts are like.
-/

namespace Remediation

variable {σ ε α β : Type}

-----------------------------------------------------------------------------------------
-- Records of remote calls
-----------------------------------------------------------------------------------------

/-- A remote call and its answer. -/
inductive RemoteCall where
  | list (resource : ResourceType) (cursor : Option String) (answer : Except RemoteError Page)
  | change (mutation : Mutation) (answer : Except RemoteError Json)

/-- A remote call, and whether the run had been cancelled by the time it was answered. -/
structure Exchange where
  call : RemoteCall
  cancelled : Bool

namespace Exchange

def isList (exchange : Exchange) : Bool :=
  match exchange.call with
  | .list .. => true
  | .change .. => false

/-- What a call asked to change. -/
def mutation? (exchange : Exchange) : Option Mutation :=
  match exchange.call with
  | .list .. => none
  | .change mutation _ => some mutation

/-- A call asks for a page or for a change. -/
theorem mutation?_eq_none_iff {exchange : Exchange}
    : exchange.mutation? = none ↔ exchange.isList = true := by
  cases exchange with
  | mk call cancelled => cases call <;> simp [mutation?, isList]

/-- Whether a call is a request for a page that was not answered with one. -/
def isFailedList (exchange : Exchange) : Bool :=
  match exchange.call with
  | .list _ _ (.error _) => true
  | _ => false

/-- Whether a call was answered with what it asked for. -/
def succeeded (exchange : Exchange) : Bool :=
  match exchange.call with
  | .list _ _ (.ok _) | .change _ (.ok _) => true
  | _ => false

/-- A call that succeeded and is no list is a change with a response. -/
theorem exists_of_succeeded {exchange : Exchange} (noList : exchange.isList = false)
    (succeeded : exchange.succeeded = true)
    : ∃ mutation response, exchange.call = .change mutation (.ok response) := by
  obtain ⟨call, cancelled⟩ := exchange
  cases call with
  | list _ _ _ => cases noList
  | change mutation answer =>
      cases answer with
      | ok response => exact ⟨mutation, response, rfl⟩
      | error _ => cases succeeded

end Exchange

/-- The changes that were asked for, in order. -/
def mutationsOf (exchanges : List Exchange) : List Mutation :=
  exchanges.filterMap Exchange.mutation?

/-- A state with the calls that led to it, in order. -/
structure Recorded (σ : Type) where
  state : σ
  exchanges : List Exchange

/-- The record of a run that has made no call yet. -/
def Recorded.start (state : σ) : Recorded σ := ⟨state, []⟩

/-- Writes down a call that led to a state. -/
def Recorded.note (plane : ControlPlane σ) (before : Recorded σ) (call : RemoteCall) (state : σ)
    : Recorded σ :=
  ⟨state, before.exchanges ++ [⟨call, plane.cancelled state⟩]⟩

/-- A control plane that answers like another one and writes down every call. -/
def ControlPlane.recorded (plane : ControlPlane σ) : ControlPlane (Recorded σ) where
  listPage := fun resource cursor before =>
    let (answer, state) := (plane.listPage resource cursor).run before.state
    (answer, before.note plane (.list resource cursor answer) state)
  perform := fun mutation before =>
    let (answer, state) := (plane.perform mutation).run before.state
    (answer, before.note plane (.change mutation answer) state)
  cancelled := fun recorded => plane.cancelled recorded.state

theorem mutationsOf_append (first second : List Exchange)
    : mutationsOf (first ++ second) = mutationsOf first ++ mutationsOf second :=
  List.filterMap_append

/-- Lists ask for no change. -/
theorem mutationsOf_lists_append {lists : List Exchange} (changes : List Exchange)
    (onlyLists : ∀ exchange ∈ lists, exchange.isList = true)
    : mutationsOf (lists ++ changes) = mutationsOf changes := by
  have none : mutationsOf lists = [] := by
    refine List.filterMap_eq_nil_iff.mpr (fun exchange member => ?_)
    exact Exchange.mutation?_eq_none_iff.mpr (onlyLists exchange member)
  rw [mutationsOf_append, none, List.nil_append]

-----------------------------------------------------------------------------------------
-- Where calls lead
-----------------------------------------------------------------------------------------

/-- A call leads from a state to another one if the control plane gives its answer and is cancelled
then or not as is written down. -/
def Exchange.leads (plane : ControlPlane σ) (exchange : Exchange) (before after : σ) : Prop :=
  exchange.cancelled = plane.cancelled after
  ∧ match exchange.call with
    | .list resource cursor answer => (plane.listPage resource cursor).run before = (answer, after)
    | .change mutation answer => (plane.perform mutation).run before = (answer, after)

/-- Calls lead from a state to another one, each from where the call before it led to. -/
inductive ControlPlane.Leads (plane : ControlPlane σ) : σ → List Exchange → σ → Prop
  | nothing (state : σ) : Leads plane state [] state
  | call {before middle after : σ} {exchange : Exchange} {others : List Exchange}
    (first : exchange.leads plane before middle) (rest : Leads plane middle others after)
    : Leads plane before (exchange :: others) after

/-- Whether a run is cancelled after some calls, which it was or was not before them. -/
def cancelledAfter (before : Bool) (made : List Exchange) : Bool :=
  made.foldl (fun _ exchange => exchange.cancelled) before

/-- Whether every call was made at a time when the run was not cancelled. -/
def madeWhileRunning : Bool → List Exchange → Bool
  | _, [] => true
  | cancelled, exchange :: rest => !cancelled && madeWhileRunning exchange.cancelled rest

theorem cancelledAfter_append (before : Bool) (first second : List Exchange)
    : cancelledAfter before (first ++ second)
      = cancelledAfter (cancelledAfter before first) second :=
  List.foldl_append

theorem madeWhileRunning_append (before : Bool) (first second : List Exchange)
    : madeWhileRunning before (first ++ second)
      = (madeWhileRunning before first
        && madeWhileRunning (cancelledAfter before first) second) := by
  induction first generalizing before with
  | nil => rfl
  | cons exchange rest ih =>
      simp only [List.cons_append, madeWhileRunning, ih, Bool.and_assoc]
      rfl

/-- A run that is cancelled makes no calls any more. -/
theorem eq_nil_of_cancelled {made : List Exchange} (running : madeWhileRunning true made = true)
    : made = [] := by
  cases made with
  | nil => rfl
  | cons exchange rest => simp [madeWhileRunning] at running

namespace ControlPlane.Leads

variable {plane : ControlPlane σ} {before middle after : σ} {made more : List Exchange}

theorem trans (first : plane.Leads before made middle) (second : plane.Leads middle more after)
    : plane.Leads before (made ++ more) after := by
  induction first with
  | nothing => exact second
  | call first _ ih => exact .call first (ih second)

/-- Calls that lead somewhere lead there by way of where the first ones of them lead. -/
theorem split (leads : plane.Leads before (made ++ more) after)
    : ∃ middle, plane.Leads before made middle ∧ plane.Leads middle more after := by
  induction made generalizing before with
  | nil => exact ⟨before, .nothing before, leads⟩
  | cons exchange rest ih =>
      cases leads with
      | call first others =>
          obtain ⟨middle, leadsFirst, leadsRest⟩ := ih others
          exact ⟨middle, .call first leadsFirst, leadsRest⟩

/-- What is written down last tells whether the run is cancelled. -/
theorem cancelled (leads : plane.Leads before made after)
    : plane.cancelled after = cancelledAfter (plane.cancelled before) made := by
  induction leads with
  | nothing => rfl
  | call first _ ih => rw [ih, ← first.1]; rfl

/-- A run that is not cancelled before calls and by none of them is not cancelled after them. -/
theorem running (leads : plane.Leads before made after) (atStart : plane.cancelled before = false)
    (uncancelled : ∀ exchange ∈ made, exchange.cancelled = false)
    : plane.cancelled after = false := by
  induction leads with
  | nothing => exact atStart
  | @call _ _ _ exchange others first _ ih =>
      refine ih ?_ (fun other member => uncancelled other (List.mem_cons_of_mem exchange member))
      rw [← first.1]
      exact uncancelled exchange List.mem_cons_self

end ControlPlane.Leads

-----------------------------------------------------------------------------------------
-- The calls of a step
-----------------------------------------------------------------------------------------

/-- From every state, the calls that a step makes have a property, which may depend on whether the
run was cancelled before them and on what the step answers.
-/
def ControlPlane.Makes (plane : ControlPlane σ) (property : Bool → List Exchange → α → Prop)
    (step : StateM (Recorded σ) α)
    : Prop :=
  ∀ before,
    ∃ made,
      (step.run before).2.exchanges = before.exchanges ++ made
      ∧ plane.Leads before.state made (step.run before).2.state
      ∧ property (plane.cancelled before.state) made (step.run before).1

namespace ControlPlane.Makes

variable {plane : ControlPlane σ}

/-- A property that follows from one of the calls of a step is one of them too. -/
theorem weaken {strong weak : Bool → List Exchange → α → Prop} {step : StateM (Recorded σ) α}
    (makes : plane.Makes strong step)
    (follows
      : ∀ {cancelled made answer}, strong cancelled made answer → weak cancelled made answer)
    : plane.Makes weak step := by
  intro before
  obtain ⟨made, recorded, leads, holds⟩ := makes before
  exact ⟨made, recorded, leads, follows holds⟩

/-- A step that only answers makes no call. -/
theorem pure {property : Bool → List Exchange → α → Prop} {answer : α}
    (holds : ∀ cancelled, property cancelled [] answer)
    : plane.Makes property (pure answer : StateM (Recorded σ) α) :=
  fun _ => ⟨[], (List.append_nil _).symm, .nothing _, holds _⟩

/-- Two steps make the calls of the first one and then those of the second one. -/
theorem bind {first : Bool → List Exchange → α → Prop}
    {second : α → Bool → List Exchange → β → Prop} {both : Bool → List Exchange → β → Prop}
    {step : StateM (Recorded σ) α} {next : α → StateM (Recorded σ) β}
    (makes : plane.Makes first step) (goesOn : ∀ answer, plane.Makes (second answer) (next answer))
    (join
      : ∀ {cancelled made answer more result},
          first cancelled made answer
          → second answer (cancelledAfter cancelled made) more result
          → both cancelled (made ++ more) result)
    : plane.Makes both (step >>= next) := by
  intro before
  obtain ⟨made, recorded, leads, holds⟩ := makes before
  obtain ⟨more, recordedMore, leadsMore, holdsMore⟩ :=
    goesOn (step.run before).1 (step.run before).2
  refine ⟨made ++ more, ?_, leads.trans leadsMore, ?_⟩
  · rw [← List.append_assoc, ← recorded]
    exact recordedMore
  · rw [leads.cancelled] at holdsMore
    exact join holds holdsMore

/-- What is done with the answer of a step without any call leaves its calls as they are. -/
theorem map (f : α → β) {property : Bool → List Exchange → β → Prop}
    {step : StateM (Recorded σ) α}
    (makes : plane.Makes (fun cancelled made answer => property cancelled made (f answer)) step)
    : plane.Makes property (step >>= fun answer => Pure.pure (f answer)) :=
  makes

/-- A step that looks whether the run has been cancelled makes the calls of what it then does. -/
theorem ofCancelled {property : Bool → List Exchange → α → Prop}
    {stopped going : StateM (Recorded σ) α}
    (makesStopped
      : plane.Makes (fun cancelled made answer => cancelled = true → property true made answer)
          stopped)
    (makesGoing
      : plane.Makes (fun cancelled made answer => cancelled = false → property false made answer)
          going)
    : plane.Makes property
        (do if plane.recorded.cancelled (← get) then stopped else going) := by
  intro before
  change ∃ made,
    ((if plane.cancelled before.state then stopped else going).run before).2.exchanges = _
    ∧ plane.Leads before.state made
        ((if plane.cancelled before.state then stopped else going).run before).2.state
    ∧ property _ _ ((if plane.cancelled before.state then stopped else going).run before).1
  cases cancelled : plane.cancelled before.state with
  | true =>
      obtain ⟨made, recorded, leads, holds⟩ := makesStopped before
      exact ⟨made, recorded, leads, holds cancelled⟩
  | false =>
      obtain ⟨made, recorded, leads, holds⟩ := makesGoing before
      exact ⟨made, recorded, leads, holds cancelled⟩

/-- A request for a page is one call. -/
theorem listPage (resource : ResourceType) (cursor : Option String)
    : plane.Makes
        (fun _ made answer => ∃ cancelled, made = [⟨.list resource cursor answer, cancelled⟩])
        (plane.recorded.listPage resource cursor) :=
  fun _ => ⟨_, rfl, .call ⟨rfl, rfl⟩ (.nothing _), _, rfl⟩

/-- A change is one call. -/
theorem perform (mutation : Mutation)
    : plane.Makes
        (fun _ made answer => ∃ cancelled, made = [⟨.change mutation answer, cancelled⟩])
        (plane.recorded.perform mutation) :=
  fun _ => ⟨_, rfl, .call ⟨rfl, rfl⟩ (.nothing _), _, rfl⟩

/-- A step that may fail makes the calls of what it is made of, up to the failure. -/
theorem bindStep {first : Bool → List Exchange → Except ε α → Prop}
    (second : α → Bool → List Exchange → Except ε β → Prop)
    {both : Bool → List Exchange → Except ε β → Prop}
    {step : ExceptT ε (StateM (Recorded σ)) α} {next : α → ExceptT ε (StateM (Recorded σ)) β}
    (makes : plane.Makes first step.run)
    (goesOn : ∀ answer, plane.Makes (second answer) (next answer).run)
    (fails
      : ∀ {cancelled made error},
          first cancelled made (.error error) → both cancelled made (.error error))
    (join
      : ∀ {cancelled made answer more result},
          first cancelled made (.ok answer)
          → second answer (cancelledAfter cancelled made) more result
          → both cancelled (made ++ more) result)
    : plane.Makes both (step >>= next).run := by
  -- After a failure nothing is left to do, and what is left makes no call.
  have rest (answer : Except ε α)
      : plane.Makes
          (fun cancelled made result =>
            match answer with
            | .ok answer => second answer cancelled made result
            | .error error => made = [] ∧ result = .error error)
          (match answer with
            | .ok answer => (next answer).run
            | .error error => Pure.pure (.error error)) := by
    cases answer with
    | ok answer => exact goesOn answer
    | error error => exact .pure (fun _ => ⟨rfl, rfl⟩)
  rw [ExceptT.run_bind]
  refine makes.bind rest ?_
  intro cancelled made answer more result holds holdsMore
  cases answer with
  | ok answer => exact join holds holdsMore
  | error error =>
      obtain ⟨rfl, rfl⟩ := holdsMore
      rw [List.append_nil]
      exact fails holds

/-- A step that cannot fail makes its calls also where one that can is expected. -/
theorem lift {property : Bool → List Exchange → α → Prop} {step : StateM (Recorded σ) α}
    (makes : plane.Makes property step)
    : plane.Makes
        (fun cancelled made answer => ∃ value, answer = .ok value ∧ property cancelled made value)
        (liftM step : ExceptT ε (StateM (Recorded σ)) α).run := by
  intro before
  obtain ⟨made, recorded, leads, holds⟩ := makes before
  exact ⟨made, recorded, leads, _, rfl, holds⟩

end ControlPlane.Makes

end Remediation
