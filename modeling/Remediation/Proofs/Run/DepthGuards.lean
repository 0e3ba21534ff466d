import Remediation.Proofs.Run.Validation

/-! The two checks of the nesting of policies. A run compares the depth of its policy with the limit
before anything is fetched, and each evaluation compares the number of policies above its own. The
depth is the number of policies above the deepest one, so both refuse the same policies, and only
the first of them ever does.
-/

namespace Remediation

variable {σ : Type}

-----------------------------------------------------------------------------------------
-- Policies by the number of policies above them
-----------------------------------------------------------------------------------------

/-- A policy inside of another one, with the number of policies above it on the way down. These are
the policies that the evaluation of the outer one evaluates, each at its number. -/
inductive Policy.Beneath (policy : Policy) : Nat → Policy → Prop
  | self : Beneath policy 0 policy
  | inside {above : Nat} {inner deeper : Policy} (below : Beneath policy above inner)
    (nested : deeper ∈ inner.nested)
    : Beneath policy (above + 1) deeper

namespace Policy

/-- The policies above a policy and the levels below it make no more than the depth of the outermost
one. Witness: induction on the way down; each step adds a policy above and takes a level away. -/
theorem Beneath.add_nestingDepth_le {policy inner : Policy} {above : Nat}
    (beneath : policy.Beneath above inner)
    : above + inner.nestingDepth ≤ policy.nestingDepth := by
  induction beneath with
  | self => exact Nat.le_of_eq (Nat.zero_add _)
  | inside _ nested ih =>
      have less := nestingDepth_nested nested
      omega

/-- What is beneath a policy inside of another one is beneath the other one, a level further down.
-/
theorem Beneath.under {policy inner deeper : Policy} {above : Nat} (nested : inner ∈ policy.nested)
    (beneath : inner.Beneath above deeper)
    : policy.Beneath (above + 1) deeper := by
  induction beneath with
  | self => exact .inside .self nested
  | inside _ further ih => exact .inside ih further

/-- A policy with levels below it has one inside of it that has all but one of them. -/
theorem exists_nested_of_nestingDepth_eq_succ {policy : Policy} {depth : Nat}
    (deep : policy.nestingDepth = depth + 1)
    : ∃ inner ∈ policy.nested, inner.nestingDepth = depth := by
  by_contra none
  have shallow : Filter.nestingDepthOfAll policy.filters ≤ depth := by
    refine (Filter.nestingDepthOfAll_le_iff policy.filters depth).mpr (fun inner nested => ?_)
    have less := nestingDepth_nested nested
    have different : inner.nestingDepth ≠ depth := fun same => none ⟨inner, nested, same⟩
    omega
  have same : policy.nestingDepth = Filter.nestingDepthOfAll policy.filters := by
    cases policy
    rfl
  omega

/-- As many policies as the depth says are above some policy. -/
theorem exists_beneath_nestingDepth (policy : Policy)
    : ∃ inner, policy.Beneath policy.nestingDepth inner := by
  induction policy using nesting_induction with
  | step policy ih =>
      cases depth : policy.nestingDepth with
      | zero => exact ⟨policy, .self⟩
      | succ levels =>
          obtain ⟨inner, nested, innerDepth⟩ := exists_nested_of_nestingDepth_eq_succ depth
          obtain ⟨deepest, beneath⟩ := ih inner nested
          rw [innerDepth] at beneath
          exact ⟨deepest, beneath.under nested⟩

/-- A policy is too deep exactly if too many policies are above one that is beneath it. -/
theorem lt_nestingDepth_iff {policy : Policy} {most : Nat}
    : most < policy.nestingDepth ↔ ∃ above inner, policy.Beneath above inner ∧ most < above := by
  constructor
  · intro deep
    obtain ⟨deepest, beneath⟩ := policy.exists_beneath_nestingDepth
    exact ⟨_, deepest, beneath, deep⟩
  · rintro ⟨above, inner, beneath, many⟩
    have bound := beneath.add_nestingDepth_le
    omega

end Policy

-----------------------------------------------------------------------------------------
-- The check of an evaluation
-----------------------------------------------------------------------------------------

/-- The check refuses the numbers above the limit. -/
theorem RunSetting.checkDepth_eq_throw_iff {setting : RunSetting σ} (state : σ) {above : Nat}
    : setting.checkDepth above = throw (.nestingTooDeep above setting.maxDepth)
      ↔ setting.maxDepth < above := by
  constructor
  · intro refuses
    by_contra within
    rw [RunSetting.checkDepth_of_le (Nat.le_of_not_lt within)] at refuses
    -- Steps are functions of the state, so that it takes one to tell them apart.
    have outcomes := congrArg (fun step => (outcomeOf step state).1) refuses
    cases outcomes
  · exact RunSetting.checkDepth_of_lt

/-- The error of a policy that is nested too deep. -/
def RunError.IsOfDepth (error : RunError) : Prop :=
  ∃ depth most, error = .nestingTooDeep depth most

theorem RunSetting.resource_failsWithoutDepth (setting : RunSetting σ) (name : String)
    : FailsOnlyWith (fun error => ¬error.IsOfDepth) (setting.resource name) := by
  unfold RunSetting.resource
  split
  · exact .pure _
  · rintro state error failed ⟨depth, most, same⟩
    cases failed
    cases same

theorem RunSetting.fetch_failsWithoutDepth (setting : RunSetting σ) (resource : ResourceType)
    : FailsOnlyWith (fun error => ¬error.IsOfDepth) (setting.fetch resource) := by
  rintro state error failed ⟨depth, most, rfl⟩
  exact RunError.not_isOfFetch_nestingTooDeep depth most
    (setting.fetch_failsOnlyWith resource state _ failed)

/-- With room for all levels below a policy, its evaluation is never refused for its depth, at no
level of nesting. Witness: induction over the nesting; each level down takes one off the room and
one off the levels. -/
theorem Policy.evaluate_failsWithoutDepth {setting : RunSetting σ} (policy : Policy) {depth : Nat}
    (within : depth + policy.nestingDepth ≤ setting.maxDepth)
    : FailsOnlyWith (fun error => ¬error.IsOfDepth) (policy.evaluate setting depth) := by
  induction policy using Policy.nesting_induction generalizing depth with
  | step policy ih =>
      rw [Policy.evaluate_eq, RunSetting.checkDepth_of_le (Nat.le_of_add_right_le within),
        pure_bind]
      refine (setting.resource_failsWithoutDepth _).bind (fun resource => ?_)
      refine (setting.fetch_failsWithoutDepth resource).bind (fun records => ?_)
      refine (FailsOnlyWith.mapM (fun inner nested => ?_)).bind (fun sets => .pure _)
      have less := Policy.nestingDepth_nested nested
      rw [Policy.matchedIds_eq]
      refine (setting.resource_failsWithoutDepth _).bind (fun innerResource => ?_)
      exact (ih inner nested (by omega)).bind (fun evaluation => .pure _)

/-- With room for all levels below a policy, it does not matter how much room there is. Witness:
induction over the nesting; no check does anything under either limit. -/
theorem Policy.evaluate_withMaxDepth {setting : RunSetting σ} (policy : Policy) {depth most : Nat}
    (within : depth + policy.nestingDepth ≤ setting.maxDepth)
    (roomier : depth + policy.nestingDepth ≤ most)
    : policy.evaluate { setting with maxDepth := most } depth = policy.evaluate setting depth := by
  induction policy using Policy.nesting_induction generalizing depth with
  | step policy ih =>
      have inside
          : policy.nested.mapM (Policy.matchedIds { setting with maxDepth := most } (depth + 1))
            = policy.nested.mapM (Policy.matchedIds setting (depth + 1)) := by
        refine mapM_congr_of_mem (fun inner nested => ?_)
        have less := Policy.nestingDepth_nested nested
        rw [Policy.matchedIds_eq, Policy.matchedIds_eq,
          ih inner nested (by omega) (by omega)]
        rfl
      have room : depth ≤ ({ setting with maxDepth := most } : RunSetting σ).maxDepth :=
        Nat.le_of_add_right_le roomier
      rw [Policy.evaluate_eq, Policy.evaluate_eq, inside, RunSetting.checkDepth_of_le room,
        RunSetting.checkDepth_of_le (Nat.le_of_add_right_le within)]
      rfl

-----------------------------------------------------------------------------------------
-- Both checks
-----------------------------------------------------------------------------------------

/-- Actions never fail a run for the depth of its policy. -/
theorem Policy.remediate_failsWithoutDepth (setting : RunSetting σ) (policy : Policy)
    (resource : ResourceType) (evaluation : Evaluation)
    : FailsOnlyWith (fun error => ¬error.IsOfDepth)
        (policy.remediate setting resource evaluation) := by
  rintro state error failed ⟨depth, most, rfl⟩
  rw [Policy.outcomeOf_remediate] at failed
  split at failed
  · cases failed
  · cases failed

/-- A policy of a known type that is too deep is refused before anything happens. -/
theorem Policy.outcomeOf_run_of_deep {setting : RunSetting σ} {policy : Policy}
    {resource : ResourceType}
    (known : setting.resources.get? policy.resource = some resource)
    (deep : setting.maxDepth < policy.nestingDepth) (state : σ)
    : outcomeOf (policy.run setting) state
      = (.error (.nestingTooDeep policy.nestingDepth setting.maxDepth), state) := by
  rw [Policy.outcomeOf_run, known]
  simp only [deep, if_true]

/-- A policy that is not too deep is never refused for its depth, whatever is fetched for it. -/
theorem Policy.run_failsWithoutDepth {setting : RunSetting σ} {policy : Policy}
    (within : policy.nestingDepth ≤ setting.maxDepth)
    : FailsOnlyWith (fun error => ¬error.IsOfDepth) (policy.run setting) := by
  have evaluates := policy.evaluate_failsWithoutDepth ((Nat.zero_add _).trans_le within)
  rintro state error failed ⟨depth, most, rfl⟩
  rw [Policy.outcomeOf_run] at failed
  split at failed
  · cases failed
  · rw [if_neg (Nat.not_lt.mpr within)] at failed
    split at failed
    · exact policy.remediate_failsWithoutDepth setting _ _ _ _ failed ⟨depth, most, rfl⟩
    · cases failed
    · rename_i evaluated
      cases failed
      exact evaluates state _ (congrArg Prod.fst evaluated) ⟨depth, most, rfl⟩

/-- What a run that is refused for its depth has done: nothing, and the refusal tells the depth of
its policy and the limit. -/
theorem Policy.of_run_refused {setting : RunSetting σ} {policy : Policy} {resource : ResourceType}
    (known : setting.resources.get? policy.resource = some resource) {state final : σ}
    {depth most : Nat}
    (refused : outcomeOf (policy.run setting) state = (.error (.nestingTooDeep depth most), final))
    : setting.maxDepth < policy.nestingDepth
      ∧ depth = policy.nestingDepth
      ∧ most = setting.maxDepth
      ∧ final = state := by
  have deep : setting.maxDepth < policy.nestingDepth := by
    by_contra within
    exact Policy.run_failsWithoutDepth (Nat.le_of_not_lt within) state _
      (congrArg Prod.fst refused) ⟨depth, most, rfl⟩
  rw [Policy.outcomeOf_run_of_deep known deep] at refused
  cases refused
  exact ⟨deep, rfl, rfl, rfl⟩

/-- A run of a policy of a known type is refused for its depth exactly if the depth is above the
limit. Then no call has been made, so that nothing is ever fetched in vain. The check of an
evaluation would refuse one of the policies that the run evaluates in exactly the same case; in all
other cases it passes at every level, no evaluation at any level is refused for its depth from any
state, and the limit has no effect on the evaluation.
-/
theorem Policy.run_depthGuards (plane : ControlPlane σ) (resources : ResourceRegistry)
    (actions : ActionRegistry (Recorded σ)) (options : ExecuteOptions) (maxDepth pageBudget : Nat)
    {policy : Policy} {resource : ResourceType}
    (known : resources.get? policy.resource = some resource) (start : σ)
    : let setting : RunSetting (Recorded σ) :=
        ⟨plane.recorded, resources, actions, options, maxDepth, pageBudget⟩
      ∃ outcome final,
        outcomeOf (policy.run setting) (.start start) = (outcome, final)
        ∧ (outcome = .error (.nestingTooDeep policy.nestingDepth maxDepth)
          ↔ maxDepth < policy.nestingDepth)
        ∧ (∀ depth most,
            outcome = .error (.nestingTooDeep depth most)
            → depth = policy.nestingDepth ∧ most = maxDepth ∧ final.state = start
              ∧ final.exchanges = [])
        ∧ (maxDepth < policy.nestingDepth
          ↔ ∃ above inner,
              policy.Beneath above inner
              ∧ setting.checkDepth above = throw (.nestingTooDeep above maxDepth))
        ∧ (policy.nestingDepth ≤ maxDepth
          → (∀ above inner,
              policy.Beneath above inner
              → setting.checkDepth above = pure ()
                ∧ ∀ state depth most,
                    (outcomeOf (inner.evaluate setting above) state).1
                    ≠ .error (.nestingTooDeep depth most))
            ∧ ∀ most,
                policy.nestingDepth ≤ most
                → policy.evaluate { setting with maxDepth := most } 0
                  = policy.evaluate setting 0) := by
  intro setting
  have knownHere : setting.resources.get? policy.resource = some resource := known
  have refuses (above : Nat)
      : setting.checkDepth above = throw (.nestingTooDeep above maxDepth) ↔ maxDepth < above :=
    RunSetting.checkDepth_eq_throw_iff (.start start)
  cases ran : outcomeOf (policy.run setting) (.start start) with
  | mk outcome final =>
      refine ⟨outcome, final, rfl, ⟨?_, ?_⟩, ?_, ?_, ?_⟩
      · rintro rfl
        exact (Policy.of_run_refused knownHere ran).1
      · intro deep
        rw [Policy.outcomeOf_run_of_deep knownHere deep] at ran
        exact (congrArg Prod.fst ran).symm
      · rintro depth most rfl
        obtain ⟨_, sameDepth, sameMost, rfl⟩ := Policy.of_run_refused knownHere ran
        exact ⟨sameDepth, sameMost, rfl, rfl⟩
      · rw [Policy.lt_nestingDepth_iff]
        simp only [refuses]
      · intro within
        refine ⟨fun above inner beneath => ?_, fun most roomier => ?_⟩
        · have room : above + inner.nestingDepth ≤ setting.maxDepth :=
            beneath.add_nestingDepth_le.trans within
          refine ⟨RunSetting.checkDepth_of_le (Nat.le_of_add_right_le room), ?_⟩
          intro state depth most failed
          exact inner.evaluate_failsWithoutDepth room state _ failed ⟨depth, most, rfl⟩
        · exact policy.evaluate_withMaxDepth ((Nat.zero_add _).trans_le within)
            ((Nat.zero_add _).trans_le roomier)

namespace Sample

/-- The alarms that are not among those that are not among all alarms. -/
def twiceMissing : Policy :=
  let every : Policy := ⟨"", "alarm", none, [], [], none, none⟩
  { sweep with filters := [.missing { every with filters := [.missing every] }] }

/-- Runs on two pages of alarms, with a limit on the levels of policies. -/
def limitedTo (most : Nat) : RunSetting (Recorded Unit) :=
  .recording twoPages alarmTypes ⟨.inOrder 1, false⟩ most 2

end Sample

/-- A policy with two levels below it is refused without a call where one level is allowed, and not
for its depth where two are. -/
theorem Policy.run_depthGuards_twoLevels
    : (∃ final,
        outcomeOf (Sample.twiceMissing.run (Sample.limitedTo 1)) (.start ())
          = (.error (.nestingTooDeep 2 1), final)
        ∧ final.exchanges = [])
      ∧ ∃ outcome final,
          outcomeOf (Sample.twiceMissing.run (Sample.limitedTo 2)) (.start ()) = (outcome, final)
          ∧ outcome ≠ .error (.nestingTooDeep 2 2) := by
  have known : Sample.alarmTypes.get? Sample.twiceMissing.resource = some .alarm := rfl
  constructor
  · obtain ⟨outcome, final, ran, refused, before, _⟩ :=
      Policy.run_depthGuards Sample.twoPages Sample.alarmTypes
        (ActionRegistry.builtin Sample.twoPages.recorded) ⟨.inOrder 1, false⟩ 1 2
        known ()
    have outcomeIs : outcome = .error (.nestingTooDeep 2 1) := refused.mpr (by decide)
    subst outcomeIs
    exact ⟨final, ran, (before 2 1 rfl).2.2.2⟩
  · obtain ⟨outcome, final, ran, refused, _⟩ :=
      Policy.run_depthGuards Sample.twoPages Sample.alarmTypes
        (ActionRegistry.builtin Sample.twoPages.recorded) ⟨.inOrder 1, false⟩ 2 2
        known ()
    exact ⟨outcome, final, ran, fun deep => absurd (refused.mp deep) (by decide)⟩

end Remediation
