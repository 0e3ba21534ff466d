import Remediation.Proofs.Run.Columns

/-! Tables of reports, line by line. There is a title, a line for each result that is shown under a
header, and a summary. The columns start at the same places in all lines, every cell stands whole at
its column, and a detail that is too long is cut.
-/

namespace Remediation

-----------------------------------------------------------------------------------------
-- What a table shows
-----------------------------------------------------------------------------------------

/-- The results that are shown, those of the records that were left out behind the others. -/
def RunReport.shown (report : RunReport) (showExcluded : Bool) : List ActionResult :=
  report.results ++ if showExcluded then report.excluded else []

/-- What stands between the last two line breaks of a table. -/
def RunReport.summaryLine (report : RunReport) (millis : Int) : String :=
  s!"  {report.summary.succeeded} succeeded, {report.summary.failed} failed, "
    ++ s!"{report.summary.skipped} skipped ({millis} ms)"

namespace ReportTable

end ReportTable

namespace Sample

end Sample

end Remediation
