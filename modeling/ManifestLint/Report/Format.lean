import ManifestLint.Report.Pretty
import ManifestLint.Report.Summary
import ManifestLint.Report.Sarif

/-!
# Formats of reports
-/

namespace ManifestLint

/-- The formats that a report can be written in. -/
inductive ReportFormat where
  | pretty
  | json
  | sarif
deriving DecidableEq, Repr

namespace ReportFormat

/-- The names of the formats. -/
def names : List (String × ReportFormat) :=
  [("pretty", .pretty), ("json", .json), ("sarif", .sarif)]

/-- The format with a name. -/
def ofName? (name : String) : Option ReportFormat :=
  names.lookup name

end ReportFormat

/-- The text of a report in a format. -/
def Report.format (colored : Bool) (format : ReportFormat) (report : Report) : String :=
  match format with
  | .pretty => report.pretty colored
  | .json => report.json
  | .sarif => report.sarif

end ManifestLint
