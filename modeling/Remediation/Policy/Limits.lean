import Remediation.Policy.Basic
import Remediation.Document.Node

/-!
How many records a policy may act on. A limit of zero is no limit, and a percentage counts only
where there is something to take it of.
-/

namespace Remediation

/-- The limits of a policy that are in force. -/
structure ResourceLimits where
  amount : Option Nat
  percent : Option Binary64
  mode : LimitMode
  deriving DecidableEq, Repr

/-- The refusal of a policy that selects too much. -/
structure LimitExceeded where
  policy : String
  limits : ResourceLimits
  selected : Nat
  population : Nat
  deriving DecidableEq, Repr

namespace ResourceLimits

/-- Whether a count is above the amount; nothing without one. -/
def amountExceeded (limits : ResourceLimits) (selected : Nat) : Option Bool :=
  limits.amount.map (fun most => decide (most < selected))

/-- Whether a count is above the percentage of a population, compared as doubles; nothing without
a percentage or a population. -/
def percentExceeded (limits : ResourceLimits) (selected population : Nat) : Option Bool :=
  (limits.percent.filter (fun _ => 0 < population)).map (fun percent =>
    let most := ((Binary64.ofInt population).mul percent).div (.ofInt 100)
    (Binary64.ofInt selected).compare most == some .gt)

/-- Whether a selection is refused. Where both limits have to be exceeded, both have to be there. -/
def exceeded (limits : ResourceLimits) (selected population : Nat) : Bool :=
  match limits.mode, limits.amountExceeded selected, limits.percentExceeded selected population with
  | .both, some amount, some percent => amount && percent
  | .both, _, _ => false
  | .either, amount, percent => amount.getD false || percent.getD false

/-- The text of a percentage, which is never scientific and has no fraction if it is integral. -/
def percentText (percent : Binary64) : String :=
  percent.render { Document.positionalLayout with keepsFraction := false } ++ "%"

def text (limits : ResourceLimits) : String :=
  match limits.amount, limits.percent with
  | some amount, some percent => s!"max-resources {amount} / {percentText percent}"
  | some amount, none => s!"max-resources {amount}"
  | none, some percent => s!"max-resources-percent {percentText percent}"
  | none, none => ""

end ResourceLimits

def LimitExceeded.message (refusal : LimitExceeded) : String :=
  s!"policy '{refusal.policy}' exceeded {refusal.limits.text} "
    ++ s!"(selected {refusal.selected} of {refusal.population} resources)"

namespace Policy

/-- The limits as the policy gives them. A percentage of its own takes the place of the one in a
pair. -/
def givenLimits (policy : Policy) : ResourceLimits :=
  let (amount, percent, mode) :=
    match policy.maxResources with
    | some (.amount most) => (some most, none, LimitMode.either)
    | some (.limits amount percent mode) => (amount, percent, mode)
    | none => (none, none, LimitMode.either)
  ⟨amount, policy.maxPercent.or percent, mode⟩

/-- The limits in force: those that are above zero. -/
def limits (policy : Policy) : ResourceLimits :=
  let given := policy.givenLimits
  {
    given with
    amount := given.amount.filter (0 < ·),
    percent := given.percent.filter (fun percent => percent.compare (.ofInt 0) == some .gt)
  }

/-- Refuses a selection out of a population that exceeds the limits. -/
def checkLimits (policy : Policy) (selected population : Nat) : Except LimitExceeded Unit :=
  if policy.limits.exceeded selected population then
    .error ⟨policy.name, policy.limits, selected, population⟩
  else .ok ()

end Policy

end Remediation
