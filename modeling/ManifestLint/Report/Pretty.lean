import ManifestLint.Report.Basic
import ManifestLint.Text.Styled

/-!
# Reports for readers

A title, a line for each file, the findings with their places and what to do
about them, and a line that sums up.
-/

namespace ManifestLint.Report

open ManifestLint.Text

/-- The width of the column of file names. -/
def fileWidth : Nat :=
  40

/-- The width of the column of rules. -/
def ruleWidth : Nat :=
  25

/-- The tag of a file. -/
def fileTag (colored : Bool) (result : FileReport) : String :=
  if result.parseFailed then paint colored .red 0 "ERR "
  else if result.passed then paint colored .green 0 "PASS"
  else paint colored .red 0 "FAIL"

/-- The line of a file. -/
def fileLine (colored : Bool) (result : FileReport) : String :=
  let detail :=
    toString result.resourcesLinted ++ " resources, " ++
      toString result.findings.length ++ " findings"
  "  [" ++ fileTag colored result ++ "] " ++
    String.ofList (padRight fileWidth result.file.toList) ++ " " ++
    paint colored .dimmed 0 detail ++ "\n"

/-- Where a finding is: its file, the position of its document counted from one,
and the name of its resource, as far as they are known. -/
def location (finding : Finding) : String :=
  let document := match finding.document with
    | some index => " (document " ++ toString (index + 1) ++ ")"
    | none => ""
  let resource := match finding.resource with
    | some name => " pipeline '" ++ name ++ "'"
    | none => ""
  finding.file.getD "" ++ document ++ resource

/-- The line of a finding's place, unless nothing is known of it. -/
def locationLine (colored : Bool) (finding : Finding) : String :=
  let place := location finding
  if place.isEmpty then "" else "         " ++ paint colored .dimmed 0 place ++ "\n"

/-- The line of what to do about a finding. -/
def remediationLine (colored : Bool) (finding : Finding) : String :=
  match finding.remediation with
  | some remediation => "         > " ++ paint colored .dimmed 0 remediation ++ "\n"
  | none => ""

/-- The lines of a finding. -/
def findingLines (colored : Bool) (finding : Finding) : String :=
  "  [" ++ paint colored .red 0 "ERROR" ++ "] " ++
    paint colored .dimmed ruleWidth finding.ruleId ++ " " ++ finding.message ++ "\n" ++
    locationLine colored finding ++ remediationLine colored finding

/-- The lines of all findings, if there are any. -/
def findingsPart (colored : Bool) (findings : List Finding) : String :=
  if findings.isEmpty then ""
  else
    paint colored .heading 0 "Findings" ++ "\n" ++
      String.join (findings.map (findingLines colored)) ++ "\n"

/-- The line that sums up. -/
def summaryLine (colored : Bool) (report : Report) : String :=
  let status :=
    if report.passed then paint colored .green 0 "PASSED" else paint colored .red 0 "FAILED"
  "Result: " ++ status ++ "  |  " ++ toString report.filesScanned ++ " files, " ++
    toString report.resourcesLinted ++ " resources, " ++
    toString report.counts.lintErrors ++ " lint errors, " ++
    toString report.counts.parseErrors ++ " parse errors\n"

/-- The text for readers. -/
def pretty (colored : Bool) (report : Report) : String :=
  "\n" ++ paint colored .title 0 ("  Pipeline Lint: " ++ report.target ++ "  ") ++ "\n" ++
    "  Timestamp: " ++ report.timestamp ++ "\n" ++
    "  Trusted:   " ++ toString report.trusted ++ "\n\n" ++
    paint colored .heading 0 "Files" ++ "\n" ++
    String.join (report.files.map (fileLine colored)) ++ "\n" ++
    findingsPart colored report.findings ++
    summaryLine colored report

end ManifestLint.Report
