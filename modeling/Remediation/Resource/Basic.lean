import Remediation.Json.Basic

/-!
Resource types: where the records of one kind live and how a service is asked for them. The
definitions are data, so that a new kind needs no code.
-/

namespace Remediation

/-- How a list goes on after its first page. -/
inductive Pagination where
  /-- There is one page. -/
  | single
  /-- Pages start at an offset, which the cursor holds. -/
  | offset (limit : Nat) (totalField : Option String) (parameter : String)
  /-- Pages start after a marker, which is found in the page or is the identity of its last
  record. -/
  | marker (limit : Nat) (nextField : Option String) (parameter : String)
  deriving DecidableEq, Repr

/-- The route of an operation that changes records. In its path `\x7bid\x7d` stands for an
identity. -/
structure Operation where
  method : String
  path : String
  /-- The field of a request that holds the identities. -/
  idsField : Option String
  /-- The field of a request that says whether to enable or disable. -/
  flagField : Option String
  deriving DecidableEq, Repr

/-- A kind of records. -/
structure ResourceType where
  key : String
  displayName : String
  service : String
  apiVersion : String
  listPath : String
  /-- Where the records are in an answer; the answer itself if it is empty. -/
  responsePath : String
  idField : String
  nameField : String
  pagination : Pagination
  /-- What is sent with every request for a list. -/
  params : Json
  operations : Table Operation
  deriving Repr

namespace ResourceType

def operation? (resource : ResourceType) (name : String) : Option Operation :=
  Table.get? resource.operations name

/-- The name of a record, if it has one that is not empty. -/
def nameOf? (resource : ResourceType) (record : Json) : Option String :=
  ((record.field? resource.nameField).bind Json.string?).filter (!·.isEmpty)

/-- The alarm rules of the monitoring service. -/
def alarm : ResourceType :=
  {
    key := "alarm",
    displayName := "CES Alarm Rules",
    service := "ces",
    apiVersion := "v2",
    listPath := "alarms",
    responsePath := "alarms",
    idField := "alarm_id",
    nameField := "name",
    pagination := .offset 100 (some "count") "offset",
    params := .null,
    operations :=
      .ofList
        [
          ("delete-batch", ⟨"POST", "alarms/batch-delete", some "alarm_ids", none⟩),
          ("enable-batch", ⟨"POST", "alarms/action", some "alarm_ids", some "alarm_enabled"⟩),
          ("update-notifications", ⟨"PUT", "alarms/\x7bid\x7d/notifications", none, none⟩),
          ("create", ⟨"POST", "alarms", none, none⟩)
        ]
  }

/-- The topics of the notification service. -/
def topic : ResourceType :=
  {
    key := "topic",
    displayName := "SMN Topics",
    service := "smn",
    apiVersion := "v2",
    listPath := "notifications/topics",
    responsePath := "topics",
    idField := "topic_urn",
    nameField := "name",
    pagination := .marker 100 (some "page_info.next_marker") "marker",
    params := .null,
    operations :=
      .ofList
        [
          ("publish", ⟨"POST", "notifications/topics/\x7bid\x7d/publish", none, none⟩)
        ]
  }

end ResourceType

end Remediation
