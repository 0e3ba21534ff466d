import Remediation.ControlPlane.Basic
import Remediation.Number.Radix
import Remediation.Text.Split

/-!
The pages in the answers of services: which records an answer has and where the next page starts.
-/

namespace Remediation

/-- Why an answer holds no page. -/
inductive PageError where
  /-- What is found at a path is not an array. -/
  | notArray (path : String)
  | missing (path : String)
  | invalidOffset (cursor : String)
  deriving DecidableEq, Repr

namespace PageError

def shownPath (path : String) : String :=
  if path.isEmpty then "<body>" else path

def message : PageError → String
  | .notArray path => s!"'{shownPath path}' in list response is not an array"
  | .missing path => s!"List response has no '{shownPath path}'"
  | .invalidOffset cursor => s!"Invalid offset cursor: {cursor}"

end PageError

namespace Page

/-- The value at names of nested objects, one inside of the other. -/
def valueAt? (value : Json) (names : List String) : Option Json :=
  names.foldlM Json.field? value

/-- The value at names with dots between them; the value itself for no name. -/
def valueAtPath? (value : Json) (path : String) : Option Json :=
  if path.isEmpty then some value
  else valueAt? value ((Text.splitOn (· == '.') path.toList).map String.ofList)

/-- The records in an answer. An answer without a body is an empty page, but one that has no
array where the records should be is no page, so that it cannot end a list early. -/
def itemsAt (response : Json) (path : String) : Except PageError (List Json) :=
  if response.isNull then .ok []
  else
    match valueAtPath? response path with
    | some (.array items) => .ok items
    | some _ => .error (.notArray path)
    | none => .error (.missing path)

/-- The offset that a cursor holds, a number of 64 bits. -/
def offset? (cursor : String) : Option Nat :=
  let digits :=
    match cursor.toList with
    | '+' :: rest => rest
    | cs => cs
  (digitsIn? 10 digits).filter (· < UInt64.size)

/-- The offset of the page after one with some records. Without a total from the service, the list
goes on as long as pages are full. -/
def nextOffset? (limit offset received : Nat) (total : Option Nat) : Option Nat :=
  if received = 0 then none
  else
    let next := offset + received
    let more : Bool :=
      match total with
      | some total => next < total
      | none => limit ≤ received
    if more then some next else none

/-- The marker of the next page: what a field of the answer says, or the identity of the last
record of a full page. -/
def nextMarker? (limit : Nat) (nextField : Option String) (idField : String) (response : Json)
    (items : List Json) : Option String :=
  match nextField with
  | some field => ((valueAtPath? response field).bind Json.string?).filter (!·.isEmpty)
  | none =>
      if items.length < limit then none
      else (items.getLast?.bind (·.field? idField)).bind Json.string?

/-- The cursor of the page after the one of a cursor. -/
def cursorAfter (resource : ResourceType) (response : Json) (items : List Json)
    (cursor : Option String) : Except PageError (Option String) :=
  match resource.pagination with
  | .single => .ok none
  | .offset limit totalField _ =>
      match cursor.elim (some 0) offset? with
      | none => .error (.invalidOffset (cursor.getD ""))
      | some offset =>
          let total := (totalField.bind (valueAtPath? response)).bind Json.nat?
          .ok ((nextOffset? limit offset items.length total).map toString)
  | .marker limit nextField _ =>
      .ok (nextMarker? limit nextField resource.idField response items)

/-- The page that answers a request for the page of a cursor. -/
def ofResponse (resource : ResourceType) (response : Json) (cursor : Option String)
    : Except PageError Page := do
  let items ← itemsAt response resource.responsePath
  let next ← cursorAfter resource response items cursor
  .ok ⟨items, next⟩

end Page

end Remediation
