import Remediation.Proofs.ControlPlane.Recorded

/-! Runs that are cancelled during a call. Such a run follows the same run that nothing cancels: up
to the call both are in one state, and from then on it has the calls of the other one up to that
call, since it makes none any more.
-/

namespace Remediation

variable {σ ε α β : Type}

-----------------------------------------------------------------------------------------
-- When a run is cancelled
-----------------------------------------------------------------------------------------

/-- A control plane that answers like another one and cancels no run. -/
def ControlPlane.neverCancelled (plane : ControlPlane σ) : ControlPlane σ :=
  { plane with cancelled := fun _ => false }

/-- A control plane that answers like another one and writes down every call, and that cancels a run
during its call of a certain number, or before its first one if the number is zero. -/
def ControlPlane.cancelledDuring (plane : ControlPlane σ) (call : Nat)
    : ControlPlane (Recorded σ) where
  listPage := plane.neverCancelled.recorded.listPage
  perform := plane.neverCancelled.recorded.perform
  cancelled := fun recorded => decide (call ≤ recorded.exchanges.length)

-----------------------------------------------------------------------------------------
-- Following a run
-----------------------------------------------------------------------------------------

/-- A state of a run that is cancelled during a call follows one of the run that nothing cancels: it
has the same calls up to that one, and before that one has been made it is the same state. -/
structure Follows (call : Nat) (cut whole : Recorded σ) : Prop where
  exchanges : cut.exchanges = whole.exchanges.take call
  together : whole.exchanges.length < call → cut = whole

namespace Follows

variable {plane : ControlPlane σ} {call : Nat} {cut whole after : Recorded σ}

/-- A state with no more calls than up to the one in question follows itself. -/
theorem refl (short : whole.exchanges.length ≤ call) : Follows call whole whole where
  exchanges := (List.take_of_length_le short).symm
  together := fun _ => rfl

/-- Once the call has been made, the other run may go on. -/
theorem goOn (follows : Follows call cut whole) (passed : call ≤ whole.exchanges.length)
    (grown : whole.exchanges <+: after.exchanges)
    : Follows call cut after where
  exchanges := by
    obtain ⟨made, joined⟩ := grown
    rw [follows.exchanges, ← joined, List.take_append_of_le_length passed]
  together := fun short => absurd (Nat.le_trans passed grown.length_le) (Nat.not_le_of_lt short)

/-- The run is cancelled exactly if the other one has made the call. -/
theorem cancelled_iff (follows : Follows call cut whole)
    : (plane.cancelledDuring call).cancelled cut = true ↔ call ≤ whole.exchanges.length := by
  simp only [ControlPlane.cancelledDuring, follows.exchanges, List.length_take, Nat.le_min,
    Nat.le_refl, true_and, decide_eq_true_eq]

end Follows

-----------------------------------------------------------------------------------------
-- Steps that follow each other
-----------------------------------------------------------------------------------------

/-- What a step leads to follows what the same step of the run that nothing cancels leads to, and it
has the same answer unless it was stopped. -/
structure FollowsTo (call : Nat) (isStopped : α → Prop) (wholeBefore : Recorded σ)
    (cut whole : α × Recorded σ)
    : Prop where
  follows : Follows call cut.2 whole.2
  grown : wholeBefore.exchanges <+: whole.2.exchanges
  answered : cut.1 = whole.1 ∨ isStopped cut.1 ∧ call ≤ whole.2.exchanges.length

/-- A step of a run that is cancelled during a call follows the same step of the run that nothing
cancels, from whatever states that follow each other. -/
def StepFollows (call : Nat) (isStopped : α → Prop) (cut whole : StateM (Recorded σ) α) : Prop :=
  ∀ before wholeBefore,
    Follows call before wholeBefore
    → FollowsTo call isStopped wholeBefore (cut.run before) (whole.run wholeBefore)

namespace StepFollows

variable {call : Nat} {isStopped : α → Prop}

theorem pure (answer : α)
    : StepFollows call isStopped (Pure.pure answer : StateM (Recorded σ) α) (Pure.pure answer) :=
  fun _ _ follows => ⟨follows, List.prefix_rfl, .inl rfl⟩

/-- What is done with an answer without any call keeps steps following each other. -/
theorem map {isStoppedToo : β → Prop} {cut whole : StateM (Recorded σ) α} (f : α → β)
    (first : StepFollows call isStopped cut whole)
    (kept : ∀ answer, isStopped answer → isStoppedToo (f answer))
    : StepFollows call isStoppedToo (cut >>= fun answer => Pure.pure (f answer))
        (whole >>= fun answer => Pure.pure (f answer)) := by
  intro before wholeBefore follows
  obtain ⟨followsAfter, grown, answered⟩ := first before wholeBefore follows
  refine ⟨followsAfter, grown, ?_⟩
  rcases answered with same | ⟨stopped, passed⟩
  · exact .inl (congrArg f same)
  · exact .inr ⟨kept _ stopped, passed⟩

/-- Outcomes of steps that follow each other. -/
theorem outcomeOf {step whole : ExceptT ε (StateM (Recorded σ)) α}
    {isStoppedStep : Except ε α → Prop}
    (following : StepFollows call isStoppedStep step.run whole.run)
    {before wholeBefore : Recorded σ}
    (follows : Follows call before wholeBefore)
    : FollowsTo call isStoppedStep wholeBefore (Remediation.outcomeOf step before)
        (Remediation.outcomeOf whole wholeBefore) :=
  following before wholeBefore follows

/-- Steps that may fail, of which the first stops with a certain error, follow each other: behind
that error nothing is left to do, while the other run goes on. -/
theorem bindStep {error : ε} {cut whole : ExceptT ε (StateM (Recorded σ)) α}
    {next wholeNext : α → ExceptT ε (StateM (Recorded σ)) β}
    (first : StepFollows call (· = .error error) cut.run whole.run)
    (goesOn
      : ∀ answer, StepFollows call (· = .error error) (next answer).run (wholeNext answer).run)
    : StepFollows call (· = .error error) (cut >>= next).run (whole >>= wholeNext).run := by
  intro before wholeBefore follows
  obtain ⟨followsFirst, grownFirst, answered⟩ := first.outcomeOf follows
  change FollowsTo call _ wholeBefore (Remediation.outcomeOf (cut >>= next) before)
    (Remediation.outcomeOf (whole >>= wholeNext) wholeBefore)
  rw [outcomeOf_bind, outcomeOf_bind]
  generalize Remediation.outcomeOf cut before = cutFirst at *
  generalize Remediation.outcomeOf whole wholeBefore = wholeFirst at *
  obtain ⟨cutOutcome, cutMiddle⟩ := cutFirst
  obtain ⟨wholeOutcome, wholeMiddle⟩ := wholeFirst
  dsimp only at followsFirst grownFirst answered ⊢
  rcases answered with rfl | ⟨rfl, passed⟩
  · cases cutOutcome with
    | error other => exact ⟨followsFirst, grownFirst, .inl rfl⟩
    | ok answer =>
        obtain ⟨followsNext, grownNext, answeredNext⟩ := goesOn answer _ _ followsFirst
        exact ⟨followsNext, grownFirst.trans grownNext, answeredNext⟩
  · cases wholeOutcome with
    | error other => exact ⟨followsFirst, grownFirst, .inr ⟨rfl, passed⟩⟩
    | ok answer =>
        obtain ⟨_, grownNext, _⟩ := goesOn answer _ _ followsFirst
        exact ⟨followsFirst.goOn passed grownNext, grownFirst.trans grownNext,
          .inr ⟨rfl, Nat.le_trans passed grownNext.length_le⟩⟩

theorem mapM {error : ε} {step whole : α → ExceptT ε (StateM (Recorded σ)) β} {list : List α}
    (each
      : ∀ element ∈ list,
          StepFollows call (· = .error error) (step element).run (whole element).run)
    : StepFollows call (· = .error error) (list.mapM step).run (list.mapM whole).run := by
  induction list with
  | nil => exact .pure _
  | cons element rest ih =>
      simp only [List.mapM_cons]
      refine (each element List.mem_cons_self).bindStep (fun answer => ?_)
      refine (ih (fun other member => each other (List.mem_cons_of_mem _ member))).bindStep
        (fun others => ?_)
      exact .pure _

end StepFollows

end Remediation
