import Remediation.Json.Printer
import Remediation.Run.Record
import Remediation.Text.Blank

/-!
Reports for readers, as tables of plain text or as JSON. The columns of a table are as wide as
their widest cell, counted in characters, and no line ends in white space.
-/

namespace Remediation

/-- How reports are written. -/
inductive ReportFormat where
  | table
  | json
  deriving DecidableEq, Repr

namespace ReportTable

/-- How many characters the last cell of a row may have. -/
def maxDetail : Nat := 60

/-- A text cut to a number of characters, the last three of which then are dots. -/
def truncated (most : Nat) (text : String) : String :=
  if text.length ≤ most then text
  else String.ofList (text.toList.take (most - 3)) ++ "..."

/-- What a row says of an outcome. -/
def detail : Outcome → String
  | .succeeded .null => ""
  | .succeeded response => response.text
  | .failed kind message => s!"{kind.name}: {message}"
  | .skipped reason => reason

/-- The cells of a result. -/
def row (result : ActionResult) : List String :=
  [
    result.action,
    result.resourceId,
    result.outcome.label,
    truncated maxDetail (detail result.outcome)
  ]

def header : List String := ["ACTION", "RESOURCE", "STATUS", "DETAIL"]

/-- The width of every column. -/
def widths (rows : List (List String)) : List Nat :=
  rows.foldl (fun widths cells => List.zipWith (fun w cell => max w cell.length) widths cells)
    [0, 0, 0, 0]

/-- A text filled up with blanks to a width. -/
def padded (width : Nat) (text : String) : String :=
  text ++ String.ofList (List.replicate (width - text.length) ' ')

/-- The line of a row. -/
def line (widths : List Nat) (cells : List String) : String :=
  let text := "  ".intercalate (List.zipWith padded widths cells)
  "  " ++ String.ofList (Text.trimRight text.toList) ++ "\n"

/-- The rows of a report. -/
def rows (report : RunReport) (showExcluded : Bool) : List (List String) :=
  report.results.map row ++ if showExcluded then report.excluded.map row else []

/-- The lines between the title and the summary. -/
def body (rows : List (List String)) : String :=
  if rows.isEmpty then "  no actions taken\n"
  else
    let rows := header :: rows
    String.join (rows.map (line (widths rows)))

def title (report : RunReport) : String :=
  let cancelled := if report.cancelled then " (cancelled)" else ""
  s!"Policy {report.policy} on {report.resource}: {report.matched} of {report.population} matched"
    ++ cancelled ++ "\n"

def summaryLine (summary : Summary) (millis : Int) : String :=
  s!"  {summary.succeeded} succeeded, {summary.failed} failed, {summary.skipped} skipped"
    ++ s!" ({millis} ms)\n"

end ReportTable

namespace RunReport

/-- A report of a run that took some milliseconds, as a table. -/
def renderTable (report : RunReport) (showExcluded : Bool) (millis : Int) : String :=
  ReportTable.title report ++ ReportTable.body (ReportTable.rows report showExcluded)
    ++ ReportTable.summaryLine report.summary millis

end RunReport

/-! ### JSON -/

/-- The fields of an outcome, its status first. -/
def Outcome.fields (outcome : Outcome) : List (String × Json) :=
  ("status", .string outcome.label)
    :: match outcome with
      | .succeeded response => [("response", response)]
      | .failed kind message => [("kind", .string kind.name), ("message", .string message)]
      | .skipped reason => [("reason", .string reason)]

/-- A result, its fields in the order in which they are written. -/
def ActionResult.toJson (result : ActionResult) : Json :=
  .object
    (("action", .string result.action) :: ("resource_id", .string result.resourceId)
      :: result.outcome.fields)

namespace RunRecord

/-- A record, its fields in the order in which they are written. -/
def toJson (record : RunRecord) : Json :=
  .object
    [
      ("run_id", .string record.id.text),
      ("policy", .string record.report.policy),
      ("resource", .string record.report.resource),
      ("started_at", .string record.startedAt.text),
      ("finished_at", .string record.finishedAt.text),
      ("population", .ofNat record.report.population),
      ("matched", .ofNat record.report.matched),
      ("results", .array (record.report.results.map ActionResult.toJson)),
      ("excluded", .array (record.report.excluded.map ActionResult.toJson)),
      ("cancelled", .bool record.report.cancelled)
    ]

/-- The table of a record. -/
def renderTable (record : RunRecord) (showExcluded : Bool) : String :=
  record.report.renderTable showExcluded record.millis

/-- The text of records. What was left out is always part of JSON. -/
def render (records : List RunRecord) (format : ReportFormat) (showExcluded : Bool) : String :=
  match format with
  | .json => (Json.array (records.map toJson)).pretty
  | .table => "\n".intercalate (records.map (renderTable · showExcluded))

end RunRecord

end Remediation
