import Remediation.ControlPlane.Basic
import Remediation.Resource.Identity

/-!
Fetching all records of a resource type. The pages are asked for one after the other, each with
the cursor of the page before; what a fetch yields depends on the pages alone. It keeps the
records that have an identity which no earlier record of the fetch has.
-/

namespace Remediation

/-- Why a fetch has no records to hand out. A fetch that fails hands out none at all. -/
inductive FetchError where
  | remote (resource : String) (source : RemoteError)
  | cancelled
  /-- The list had not come to its end when as many pages as are allowed were read. -/
  | endless (resource : String)
  deriving DecidableEq, Repr

def FetchError.message : FetchError → String
  | .remote resource source => s!"failed to list '{resource}': {source.text}"
  | .cancelled => "fetch cancelled"
  | .endless resource => s!"failed to list '{resource}': the list has no end"

/-- What a fetch passes over without failing. -/
inductive FetchWarning where
  | duplicate (resource id : String)
  | unidentified (resource : String) (name : Option String) (idField : String)
  | repeatedCursor (resource : String)
  deriving DecidableEq, Repr

def FetchWarning.message : FetchWarning → String
  | .duplicate resource id => s!"Dropping duplicate {resource} '{id}'"
  | .unidentified resource name idField =>
      let shown := name.getD "?"
      s!"Dropping {resource} record '{shown}' without '{idField}'"
  | .repeatedCursor resource => s!"{resource} list returned the same cursor twice, stopping"

/-- How the reading of a list came to its end. -/
inductive ListingEnd where
  | complete
  /-- A page named the cursor that it had been asked for with. -/
  | repeatedCursor
  | failed (error : FetchError)
  deriving DecidableEq, Repr

/-- The pages that were read of a list. -/
structure Listing where
  pages : List Page
  ending : ListingEnd
  deriving Repr

namespace Listing

def after (page : Page) (listing : Listing) : Listing :=
  { listing with pages := page :: listing.pages }

/-- Reads at most a number of pages from a cursor on. Nothing is asked for once the run has been
cancelled. -/
def read (plane : ControlPlane σ) (resource : ResourceType)
    : Nat → Option String → StateM σ Listing
  | 0, _ => pure ⟨[], .failed (.endless resource.key)⟩
  | budget + 1, cursor => do
      if plane.cancelled (← get) then pure ⟨[], .failed .cancelled⟩
      else
        match ← plane.listPage resource cursor with
        | .error source => pure ⟨[], .failed (.remote resource.key source)⟩
        | .ok page =>
            match page.next? with
            | none => pure ⟨[page], .complete⟩
            | some next =>
                if cursor = some next then pure ⟨[page], .repeatedCursor⟩
                else do
                  let rest ← read plane resource budget (some next)
                  pure (rest.after page)

/-- All records on the pages, in the order in which they came. -/
def items (listing : Listing) : List Json :=
  listing.pages.flatMap Page.items

end Listing

/-- Sorts records into those that are kept and warnings about the others. The first argument
holds the identities met before. -/
def distinctRecords (resource : ResourceType)
    : List String → List Json → List Json × List FetchWarning
  | _, [] => ([], [])
  | seen, record :: rest =>
      match identity record resource.idField with
      | none =>
          let (kept, warnings) := distinctRecords resource seen rest
          (kept,
            .unidentified resource.key (resource.nameOf? record) resource.idField :: warnings)
      | some id =>
          if seen.contains id then
            let (kept, warnings) := distinctRecords resource seen rest
            (kept, .duplicate resource.key id :: warnings)
          else
            let (kept, warnings) := distinctRecords resource (id :: seen) rest
            (record :: kept, warnings)

namespace Listing

/-- The records that a fetch hands out. -/
def records (resource : ResourceType) (listing : Listing) : Except FetchError (List Json) :=
  match listing.ending with
  | .failed error => .error error
  | _ => .ok (distinctRecords resource [] listing.items).1

/-- The warnings of a fetch, in their order. -/
def warnings (resource : ResourceType) (listing : Listing) : List FetchWarning :=
  (distinctRecords resource [] listing.items).2
    ++ if listing.ending = .repeatedCursor then [.repeatedCursor resource.key] else []

end Listing

/-- Fetches all records of a type, reading at most a number of pages. -/
def fetchAll (plane : ControlPlane σ) (budget : Nat) (resource : ResourceType)
    : StateM σ (Except FetchError (List Json)) := do
  let listing ← Listing.read plane resource budget none
  pure (listing.records resource)

end Remediation
