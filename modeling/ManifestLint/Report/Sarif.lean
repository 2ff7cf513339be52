import ManifestLint.Report.Basic
import ManifestLint.Json.Printer

/-!
# Reports for code scanning

A log in the static analysis results interchange format: the tool with all of
its rules, and one result for each finding.  A result names its rule and, where
the rule is registered, its position among the rules.
-/

namespace ManifestLint.Report

/-- The name of the tool. -/
def toolName : String :=
  "pipeline-lint"

/-- The version of the tool. -/
def toolVersion : String :=
  "0.4.0"

/-- A text as a message. -/
def messageJson (text : String) : Json :=
  .object [("text", .string text)]

/-- The description of a rule. -/
def ruleJson (rule : Rule) : Json :=
  .object
    [ ("help", messageJson rule.remediation),
      ("id", .string rule.id),
      ("shortDescription", messageJson rule.message) ]

/-- The reference to a file.  Backslashes count as separators. -/
def fileUri (file : String) : String :=
  file.map fun c => if c = '\\' then '/' else c

/-- The location of a file. -/
def locationJson (file : String) : Json :=
  .object
    [("physicalLocation",
      .object [("artifactLocation", .object [("uri", .string (fileUri file))])])]

/-- The position of a rule among all rules. -/
def ruleIndex? (id : String) : Option Nat :=
  Rule.all.findIdx? (·.id = id)

/-- The result of a finding. -/
def resultJson (finding : Finding) : Json :=
  .object
    ([("level", .string "error")] ++
      (finding.file.map fun file => ("locations", .array [locationJson file])).toList ++
      [("message", messageJson finding.message), ("ruleId", .string finding.ruleId)] ++
      ((ruleIndex? finding.ruleId).map fun index => ("ruleIndex", Json.nat index)).toList)

/-- The description of the tool. -/
def toolJson : Json :=
  .object
    [("driver",
      .object
        [ ("name", .string toolName),
          ("rules", .array (Rule.all.map ruleJson)),
          ("version", .string toolVersion) ])]

/-- The log of a report. -/
def sarifJson (report : Report) : Json :=
  .object
    [ ("runs",
        .array
          [.object
            [("results", .array (report.findings.map resultJson)), ("tool", toolJson)]]),
      ("version", .string "2.1.0") ]

/-- The text of the log. -/
def sarif (report : Report) : String :=
  report.sarifJson.pretty

end ManifestLint.Report
