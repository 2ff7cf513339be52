import ManifestLint.Report.Basic
import ManifestLint.Json.Printer

/-!
# Reports as JSON

The head of the report, a summary in numbers, the outcome of each file, and all
findings.
-/

namespace ManifestLint.Report

/-- The JSON object of a file's outcome. -/
def fileJson (result : FileReport) : Json :=
  .object
    [ ("file", .string result.file),
      ("passed", .bool result.passed),
      ("resources_linted", .nat result.resourcesLinted),
      ("duration_ms", .nat result.duration) ]

/-- The JSON object of the summary. -/
def summaryJson (report : Report) : Json :=
  .object
    [ ("files_scanned", .nat report.filesScanned),
      ("files_passed", .nat report.filesPassed),
      ("resources_linted", .nat report.resourcesLinted),
      ("lint_errors", .nat report.counts.lintErrors),
      ("parse_errors", .nat report.counts.parseErrors) ]

/-- The JSON object of a report. -/
def toJson (report : Report) : Json :=
  .object
    [ ("target", .string report.target),
      ("lint_timestamp", .string report.timestamp),
      ("trusted", .bool report.trusted),
      ("status", .string report.status),
      ("passed", .bool report.passed),
      ("summary", summaryJson report),
      ("files", .array (report.files.map fileJson)),
      ("findings", .array (report.findings.map Finding.toJson)) ]

/-- The JSON text of a report. -/
def json (report : Report) : String :=
  report.toJson.pretty

end ManifestLint.Report
