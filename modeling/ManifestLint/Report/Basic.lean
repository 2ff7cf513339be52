import ManifestLint.Finding

/-!
# Reports

The outcome of linting some files.  Everything that a report says besides its
head follows from the outcomes of the files.
-/

namespace ManifestLint

/-- The outcome of linting one file. -/
structure FileReport where
  file : String
  resourcesLinted : Nat
  findings : List Finding
  /-- Whether the file could not be loaded. -/
  parseFailed : Bool
  /-- How long it took, in milliseconds. -/
  duration : Nat
deriving DecidableEq, Repr

/-- Whether nothing is wrong with the file. -/
def FileReport.passed (result : FileReport) : Bool :=
  result.findings.isEmpty

/-- The outcome of a run. -/
structure Report where
  /-- The file or directory that was linted. -/
  target : String
  timestamp : String
  trusted : Bool
  files : List FileReport
deriving DecidableEq, Repr

/-- The numbers of findings by their kind. -/
structure FindingCounts where
  lintErrors : Nat
  parseErrors : Nat
deriving DecidableEq, Repr

namespace Report

/-- All findings, file by file. -/
def findings (report : Report) : List Finding :=
  report.files.flatMap (·.findings)

/-- Whether nothing is wrong with any file. -/
def passed (report : Report) : Bool :=
  report.findings.isEmpty

/-- The word for the outcome. -/
def status (report : Report) : String :=
  if report.passed then "passed" else "failed"

/-- The number of files. -/
def filesScanned (report : Report) : Nat :=
  report.files.length

/-- The number of files with which nothing is wrong. -/
def filesPassed (report : Report) : Nat :=
  (report.files.filter (·.passed)).length

/-- The number of resources in all files. -/
def resourcesLinted (report : Report) : Nat :=
  report.files.foldr (fun file total => file.resourcesLinted + total) 0

/-- The numbers of rejected resources and of files that could not be loaded. -/
def counts (report : Report) : FindingCounts where
  lintErrors := (report.findings.filter fun finding => !finding.isLoadFailure).length
  parseErrors := (report.findings.filter (·.isLoadFailure)).length

end Report

end ManifestLint
