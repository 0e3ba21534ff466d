import Remediation.Action.Basic

/-!
Running an action on matched records. The records are split into units of work that follow each
other without a gap, a bounded number of units is under way at a time, and the outcome of a unit
becomes that of all of its records. Units may finish in any order: a result belongs to a place
among the records, so that the results come in the order of the records all the same.
-/

namespace Remediation

/-- Some records that follow each other and are processed together. -/
structure WorkUnit where
  /-- How many records come before. -/
  start : Nat
  records : List Json
  deriving Repr

namespace WorkUnit

/-- Whether the unit holds the record at a place. -/
def covers (unit : WorkUnit) (place : Nat) : Bool :=
  unit.start ≤ place && place < unit.start + unit.records.length

/-- Splits records into units of at most a size; the first record given is at a place. A fuel of
the number of records is enough. -/
def splitFrom (size : Nat) : Nat → Nat → List Json → List WorkUnit
  | 0, _, _ => []
  | fuel + 1, start, records =>
      if records.isEmpty then []
      else ⟨start, records.take size⟩ :: splitFrom size fuel (start + size) (records.drop size)

/-- Splits records into units of at most a size. -/
def split (size : Nat) (records : List Json) : List WorkUnit :=
  splitFrom size records.length 0 records

end WorkUnit

/-- A unit that is over, with its outcome unless it was not started. -/
abbrev FinishedUnit := WorkUnit × Option Outcome

/-- How units are run: how many may be under way at a time, and which of those under way is the
next to finish. -/
structure Pool where
  limit : Nat
  next : List FinishedUnit → Nat

namespace Pool

/-- Units finish in the order in which they are started. -/
def inOrder (limit : Nat) : Pool := ⟨limit, fun _ => 0⟩

/-- Takes the unit that finishes next out of those under way. -/
def finish (pool : Pool) (underWay : List FinishedUnit) : List FinishedUnit × List FinishedUnit :=
  let place := pool.next underWay % underWay.length
  (underWay[place]?.toList, underWay.eraseIdx place)

/-- Lets all units that are under way finish, one after the other. -/
def drain (pool : Pool) : Nat → List FinishedUnit → List FinishedUnit
  | 0, underWay => underWay
  | fuel + 1, underWay =>
      if underWay.isEmpty then []
      else
        let (finished, rest) := pool.finish underWay
        finished ++ drain pool fuel rest

/-- Starts units in their order, waiting for one to finish whenever as many are under way as may
be, and answers them in the order in which they finish. -/
def run (pool : Pool) (start : WorkUnit → StateM σ (Option Outcome))
    : List WorkUnit → List FinishedUnit → StateM σ (List FinishedUnit)
  | [], underWay => pure (pool.drain underWay.length underWay)
  | unit :: units, underWay => do
      let (finished, waiting) :=
        if max 1 pool.limit ≤ underWay.length then pool.finish underWay else ([], underWay)
      let outcome ← start unit
      let rest ← run pool start units (waiting ++ [(unit, outcome)])
      pure (finished ++ rest)

end Pool

/-- The outcome of the record at a place: that of its unit, or of one that was not started. -/
def outcomeAt (finished : List FinishedUnit) (place : Nat) : Outcome :=
  ((finished.find? (fun (unit, _) => unit.covers place)).bind Prod.snd).getD .cancelled

/-- The results of the same outcome for every identity. -/
def ActionResult.forAll (action : String) (outcome : Outcome) (ids : List String)
    : List ActionResult :=
  ids.map (fun id => ⟨action, id, outcome⟩)

/-- What an action is run with. -/
structure ExecuteOptions where
  pool : Pool
  /-- Whether to say what would be run instead of running it. -/
  dryRun : Bool

/-- The identities of records, empty for those that have none. -/
def shownIds (resource : ResourceType) (records : List Json) : List String :=
  records.map (fun record => (identity record resource.idField).getD "")

namespace Action

variable {σ : Type}

/-- Processes a unit, unless the run has been cancelled. -/
def processUnit (plane : ControlPlane σ) (action : Action σ) (context : ActionContext)
    (unit : WorkUnit) : StateM σ (Option Outcome) := do
  if plane.cancelled (← get) then pure none
  else do
    let response ← action.process context unit.records
    pure (some (.ofResponse response))

/-- Runs an action on records, unit by unit. -/
def runUnits (plane : ControlPlane σ) (action : Action σ) (context : ActionContext) (pool : Pool)
    (records : List Json) : StateM σ (List FinishedUnit) :=
  pool.run (processUnit plane action context) (WorkUnit.split action.mode.unitSize records) []

end Action

/-- Runs an action on records of a type. There is one result for each record, in their order, and
whatever goes wrong is a result too. -/
def ActionSpec.execute (plane : ControlPlane σ) (actions : ActionRegistry σ)
    (resources : ResourceRegistry) (options : ExecuteOptions) (policy : String)
    (resource : ResourceType) (spec : ActionSpec) (records : List Json)
    : StateM σ (List ActionResult) :=
  let ids := shownIds resource records
  match Table.get? actions spec.name with
  | none =>
      pure (ActionResult.forAll spec.name (.failed .schema s!"unknown action '{spec.name}'") ids)
  | some action =>
      match spec.check action.schema with
      | .error error => pure (ActionResult.forAll spec.name (.failed .schema error.text) ids)
      | .ok _ =>
          if options.dryRun then pure (ActionResult.forAll spec.name (.skipped "dry-run") ids)
          else do
            let context := ⟨resource, resources, spec.params, policy⟩
            let finished ← action.runUnits plane context options.pool records
            pure (ids.mapIdx (fun place id => ⟨spec.name, id, outcomeAt finished place⟩))

end Remediation
