import Remediation.Action.Basic
import Remediation.ControlPlane.Memory

/-!
An action for rehearsals. It makes no remote call but writes down which records it was given, and
it can be told to fail, or to cancel the run, when a certain record comes.
-/

namespace Remediation

/-- What a probe is told to do. -/
structure Probe where
  name : String
  /-- How many records it takes at a time; one if nothing is said. -/
  batch : Option Nat
  cancelOn : Option String
  failOn : Option String
  invalidOn : Option String
  deriving DecidableEq, Repr

namespace Probe

/-- Handles records with some identities. -/
def handle (probe : Probe) (context : ActionContext) (records : List Json)
    : ExceptT ActionError (StateM Memory) Json :=
  let ids := context.ids records
  let isAmong (wanted : Option String) : Bool := wanted.any (ids.contains ·)
  fun memory =>
    let memory :=
      {
        memory with
        log := .probe context.policy records.length ids :: memory.log,
        cancelled := memory.cancelled || isAmong probe.cancelOn
      }
    let response :=
      if isAmong probe.failOn then
        .error (.remote ⟨context.resource.service, "probe", .http 500, "boom"⟩)
      else if isAmong probe.invalidOn then .error (.invalid "bad record")
      else
        .ok (.ofFields
          [
            ("handled", .strings ids),
            ("level", (Table.get? context.params "level").getD .null)
          ])
    (response, memory)

def action (probe : Probe) : Action Memory :=
  {
    name := probe.name,
    schema := { parameters := [("level", .integer)], required := [] },
    mode := probe.batch.elim .perResource .batch,
    process := probe.handle
  }

end Probe

end Remediation
