import ManifestLint.Proofs.ReportReadBack
import ManifestLint.Report.Sarif

/-!
# Logs for code scanning are read back

The text of a log is a JSON document with one run.  Its results say what the findings
of the report say, one result for each finding in their order, and the tool of the run
describes the rules.
-/

namespace ManifestLint

open ManifestLint.Json (WordNumbers itemsOf?)
open ManifestLint.Number (powerOfTwo)
open ManifestLint.Finding (stringOf? wordOf?)

/-! ## What is read from a log -/

/-- What is read from a member, if it is there. -/
def Json.memberOf? {α : Type} (read : Json → Option α) (name : String) (value : Json) :
    Option (Option α) :=
  match value.member? name with
  | none => some none
  | some content => (read content).map some

/-- The only item of an array. -/
def Json.singleOf? : Json → Option Json
  | .array [item] => some item
  | _ => none

/-- What is read along a path of members. -/
def Json.inside? (value : Json) (names : List String) : Option Json :=
  names.foldlM (fun content name => content.member? name) value

open ManifestLint.Json (memberOf? singleOf? inside?)

/-- What a log says about a finding. -/
structure ResultEntry where
  ruleId : String
  message : String
  level : String
  /-- The reference to the file, if the result has a location. -/
  uri : Option String
  /-- The position of the rule among the rules of the tool. -/
  ruleIndex : Option Nat

namespace ResultEntry

/-- The reference to the file in an array of one location. -/
def uriOf? (locations : Json) : Option String := do
  let location ← singleOf? locations
  stringOf? (← inside? location ["physicalLocation", "artifactLocation", "uri"])

/-- Read what is said about a finding. -/
def ofJson (value : Json) : Option ResultEntry := do
  return {
    ruleId := ← stringOf? (← value.member? "ruleId")
    message := ← stringOf? (← inside? value ["message", "text"])
    level := ← stringOf? (← value.member? "level")
    uri := ← memberOf? uriOf? "locations" value
    ruleIndex := ← memberOf? wordOf? "ruleIndex" value }

/-- What there is to say about a finding. -/
def of (finding : Finding) : ResultEntry where
  ruleId := finding.ruleId
  message := finding.message
  level := "error"
  uri := finding.file.map Report.fileUri
  ruleIndex := Report.ruleIndex? finding.ruleId

end ResultEntry

/-- What a log says about a rule. -/
structure RuleEntry where
  id : String
  help : String
  description : String

namespace RuleEntry

/-- Read what is said about a rule. -/
def ofJson (value : Json) : Option RuleEntry := do
  return {
    id := ← stringOf? (← value.member? "id")
    help := ← stringOf? (← inside? value ["help", "text"])
    description := ← stringOf? (← inside? value ["shortDescription", "text"]) }

/-- What there is to say about a rule. -/
def of (rule : Rule) : RuleEntry where
  id := rule.id
  help := rule.remediation
  description := rule.message

end RuleEntry

/-- What a log says about its only run. -/
structure SarifLog where
  results : List ResultEntry
  rules : List RuleEntry

/-- Read what a log says. -/
def SarifLog.ofJson (value : Json) : Option SarifLog := do
  let run ← singleOf? (← value.member? "runs")
  return {
    results := ← (← itemsOf? (← run.member? "results")).mapM ResultEntry.ofJson
    rules := ← (← itemsOf? (← inside? run ["tool", "driver", "rules"])).mapM RuleEntry.ofJson }

/-! ## Results and rules -/

namespace Report

theorem ruleIndex?_lt {id : String} {index : Nat} (found : ruleIndex? id = some index) :
    index < powerOfTwo 64 := by
  have inside : index < Rule.all.length := (List.findIdx?_eq_some_iff_findIdx_eq.mp found).1
  have few : Rule.all.length < powerOfTwo 64 := by decide
  exact Nat.lt_trans inside few

theorem ofJson_resultJson (finding : Finding) :
    ResultEntry.ofJson (resultJson finding) = some (.of finding) := by
  have index : ∀ position, ruleIndex? finding.ruleId = some position →
      wordOf? (.nat position) = some position :=
    fun position found => wordOf?_nat (ruleIndex?_lt found)
  unfold ResultEntry.ofJson ResultEntry.of resultJson
  -- The members depend on whether there is a file and a registered rule.
  cases file : finding.file <;> cases found : ruleIndex? finding.ruleId
  all_goals
    simp [Json.member?, inside?, memberOf?, ResultEntry.uriOf?, singleOf?, stringOf?,
      messageJson, locationJson, index, found]

theorem ofJson_ruleJson (rule : Rule) : RuleEntry.ofJson (ruleJson rule) = some (.of rule) :=
  rfl

/-- What is read from the log of a report. -/
def sarifLog (report : Report) : SarifLog where
  results := report.findings.map ResultEntry.of
  rules := Rule.all.map RuleEntry.of

theorem ofJson_sarifJson (report : Report) :
    SarifLog.ofJson report.sarifJson = some report.sarifLog := by
  have results : (report.findings.map resultJson).mapM ResultEntry.ofJson =
      some (report.findings.map ResultEntry.of) :=
    mapM_map_eq_some fun finding _ => ofJson_resultJson finding
  have rules : (Rule.all.map ruleJson).mapM RuleEntry.ofJson =
      some (Rule.all.map RuleEntry.of) :=
    mapM_map_eq_some fun rule _ => ofJson_ruleJson rule
  change (do
    let results ← (report.findings.map resultJson).mapM ResultEntry.ofJson
    let rules ← (Rule.all.map ruleJson).mapM RuleEntry.ofJson
    return { results, rules }) = some report.sarifLog
  rw [results, rules]
  rfl

/-! ## Numbers in the text -/

theorem wordNumbers_single {name : String} {value : Json} (inner : WordNumbers value) :
    WordNumbers (.object [(name, value)]) :=
  .object (List.forall_mem_singleton.mpr inner)

theorem wordNumbers_locationJson (file : String) : WordNumbers (locationJson file) :=
  wordNumbers_single (wordNumbers_single (wordNumbers_single (.string (fileUri file))))

theorem wordNumbers_resultJson (finding : Finding) : WordNumbers (resultJson finding) := by
  apply WordNumbers.object
  simp only [List.forall_mem_append, List.forall_mem_cons, Option.mem_toList,
    Option.map_eq_some_iff]
  refine ⟨⟨⟨⟨.string _, List.forall_mem_nil _⟩, ?_⟩, ?_⟩, ?_⟩
  · rintro member ⟨file, _, rfl⟩
    exact .array (List.forall_mem_singleton.mpr (wordNumbers_locationJson file))
  · exact ⟨wordNumbers_single (.string _), .string _, List.forall_mem_nil _⟩
  · rintro member ⟨index, found, rfl⟩
    exact .nat (ruleIndex?_lt found)

theorem wordNumbers_ruleJson (rule : Rule) : WordNumbers (ruleJson rule) := by
  apply WordNumbers.object
  simp only [List.forall_mem_cons]
  exact ⟨wordNumbers_single (.string _), .string _, wordNumbers_single (.string _),
    List.forall_mem_nil _⟩

theorem wordNumbers_toolJson : WordNumbers toolJson := by
  apply wordNumbers_single
  apply WordNumbers.object
  simp only [List.forall_mem_cons]
  refine ⟨.string _, .array ?_, .string _, List.forall_mem_nil _⟩
  rw [List.forall_mem_map]
  exact fun rule _ => wordNumbers_ruleJson rule

theorem wordNumbers_sarifJson (report : Report) : WordNumbers report.sarifJson := by
  have results : WordNumbers (.array (report.findings.map resultJson)) := by
    apply WordNumbers.array
    rw [List.forall_mem_map]
    exact fun finding _ => wordNumbers_resultJson finding
  have run : WordNumbers (.object
      [("results", .array (report.findings.map resultJson)), ("tool", toolJson)]) := by
    apply WordNumbers.object
    simp only [List.forall_mem_cons]
    exact ⟨results, wordNumbers_toolJson, List.forall_mem_nil _⟩
  apply WordNumbers.object
  simp only [List.forall_mem_cons]
  exact ⟨.array (List.forall_mem_singleton.mpr run), .string _, List.forall_mem_nil _⟩

/-! ## The log that comes back -/

/-- The text of a log is read back, whatever stands in the report. -/
theorem read_sarif (report : Report) :
    (Json.read report.sarif).bind SarifLog.ofJson = some report.sarifLog := by
  rw [sarif, Json.read_pretty report.wordNumbers_sarifJson, Option.bind_some, ofJson_sarifJson]

end Report

end ManifestLint
