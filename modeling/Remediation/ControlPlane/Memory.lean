import Remediation.ControlPlane.Basic
import Remediation.Resource.Identity

/-!
A control plane in memory, for rehearsing policies: its records are lists, calls change them at
once, and every call is written down. Lists can be scripted page by page, and rules make calls
fail.
-/

namespace Remediation

/-- Makes calls fail. What a rule leaves open agrees with any call. -/
structure FailureRule where
  call : Option String
  resource : Option String
  id : Option String
  kind : RemoteErrorKind
  message : String
  deriving DecidableEq, Repr

/-- A page that is served whatever the records are. -/
inductive ScriptedPage where
  | page (page : Page)
  | failure (kind : RemoteErrorKind) (message : String)
  deriving Repr

/-- What is written down of a run. -/
inductive LogEntry where
  | list (resource : String) (cursor : Option String)
  | mutation (mutation : Mutation)
  /-- A batch of records handed to an action that makes no remote call. -/
  | probe (policy : String) (records : Nat) (ids : List String)
  deriving Repr

/-- The state of a control plane in memory. -/
structure Memory where
  records : Table (List Json)
  /-- The pages still to be served, for types whose lists are scripted. -/
  scripts : Table (List ScriptedPage)
  pageSize : Nat
  rules : List FailureRule
  /-- The number of the call that cancels the run. -/
  cancelAfter : Option Nat
  callCount : Nat
  created : Nat
  published : Nat
  cancelled : Bool
  /-- What was written down, the latest entry first. -/
  log : List LogEntry
  deriving Repr

namespace Mutation

/-- The name by which rules know a call. -/
def callName : Mutation → String
  | .delete .. => "delete"
  | .setEnabled .. => "enable"
  | .update .. => "update"
  | .create .. => "create"
  | .publish .. => "publish"

end Mutation

namespace Memory

/-- A control plane with records, of which nothing has been asked. -/
def ofRecords (records : Table (List Json)) : Memory :=
  {
    records := records,
    scripts := [],
    pageSize := 100,
    rules := [],
    cancelAfter := none,
    callCount := 0,
    created := 0,
    published := 0,
    cancelled := false,
    log := []
  }

/-- What was written down, in order. -/
def calls (memory : Memory) : List LogEntry :=
  memory.log.reverse

def recordsOf (memory : Memory) (resource : ResourceType) : List Json :=
  (Table.get? memory.records resource.key).getD []

/-- Whether a rule agrees with a call. -/
def FailureRule.agrees (rule : FailureRule) (call resource : String) (ids : List String) : Bool :=
  rule.call.all (· == call) && rule.resource.all (· == resource) && rule.id.all (ids.contains ·)

/-- Writes a call down and counts it. -/
def note (entry : LogEntry) (memory : Memory) : Memory :=
  let count := memory.callCount + 1
  {
    memory with
    log := entry :: memory.log,
    callCount := count,
    cancelled := memory.cancelled || memory.cancelAfter == some count
  }

/-- The error of the first rule that agrees with a call. -/
def failure? (memory : Memory) (resource : ResourceType) (call operation : String)
    (ids : List String) : Option RemoteError :=
  (memory.rules.find? (FailureRule.agrees · call resource.key ids)).map (fun rule =>
    ⟨resource.service, operation, rule.kind, rule.message⟩)

/-- The page of the records from an offset on, with the offset of the next page as its cursor. -/
def pageFrom (records : List Json) (size offset : Nat) : Page :=
  let next := offset + size
  ⟨(records.drop offset).take size, if next < records.length then some (toString next) else none⟩

/-- Serves a page: the next one of a script, or one of the records. -/
def serve (resource : ResourceType) (cursor : Option String) (memory : Memory)
    : Except RemoteError Page × Memory :=
  match Table.get? memory.scripts resource.key with
  | none =>
      let offset := (cursor.bind String.toNat?).getD 0
      (.ok (pageFrom (memory.recordsOf resource) memory.pageSize offset), memory)
  | some [] => (.ok ⟨[], none⟩, memory)
  | some (first :: rest) =>
      let memory := { memory with scripts := Table.insert resource.key rest memory.scripts }
      match first with
      | .page page => (.ok page, memory)
      | .failure kind message => (.error ⟨resource.service, "list", kind, message⟩, memory)

def listPage (resource : ResourceType) (cursor : Option String)
    : StateM Memory (Except RemoteError Page) :=
  fun memory =>
    let memory := memory.note (.list resource.key cursor)
    match memory.failure? resource "list" "list" [] with
    | some error => (.error error, memory)
    | none => memory.serve resource cursor

/-- Changes the records of a type that have one of some identities. -/
def changeRecords (resource : ResourceType) (ids : List String) (change : Fields → Fields)
    (memory : Memory) : Memory :=
  let changed := (memory.recordsOf resource).map (fun record =>
    match record, identity record resource.idField with
    | .object fields, some id => if ids.contains id then .object (change fields) else record
    | _, _ => record)
  if Table.contains memory.records resource.key then
    { memory with records := Table.insert resource.key changed memory.records }
  else memory

/-- What a call does to the records, and the response. -/
def apply (mutation : Mutation) (memory : Memory) : Json × Memory :=
  match mutation with
  | .delete resource ids =>
      let kept := (memory.recordsOf resource).filter (fun record =>
        (identity record resource.idField).all (!ids.contains ·))
      let records :=
        if Table.contains memory.records resource.key then
          Table.insert resource.key kept memory.records
        else memory.records
      (.ofFields [("deleted", .strings ids)], { memory with records := records })
  | .setEnabled resource ids enabled =>
      let flag := ((resource.operation? "enable-batch").bind (·.flagField)).getD "enabled"
      (.null, memory.changeRecords resource ids (Table.insert flag (.bool enabled)))
  | .update resource _ id body =>
      (.ofFields [("updated", .string id)],
        memory.changeRecords resource [id] (Table.insertAll · (body.fields?.getD [])))
  | .create resource body =>
      let count := memory.created + 1
      let id := s!"new-{count}"
      let record := .object (Table.insert resource.idField (.string id) (body.fields?.getD []))
      (.ofFields [("id", .string id)],
        {
          memory with
          created := count,
          records :=
            Table.insert resource.key (memory.recordsOf resource ++ [record]) memory.records
        })
  | .publish .. =>
      let count := memory.published + 1
      (.ofFields [("message_id", .string s!"m-{count}")], { memory with published := count })

def perform (mutation : Mutation) : StateM Memory (Except RemoteError Json) :=
  fun memory =>
    let memory := memory.note (.mutation mutation)
    match memory.failure? mutation.resource mutation.callName mutation.operation mutation.ids with
    | some error => (.error error, memory)
    | none =>
        let (response, memory) := memory.apply mutation
        (.ok response, memory)

/-- The control plane whose state is in memory. -/
def plane : ControlPlane Memory :=
  { listPage := listPage, perform := perform, cancelled := Memory.cancelled }

end Memory

end Remediation
