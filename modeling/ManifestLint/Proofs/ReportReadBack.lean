import ManifestLint.Proofs.JsonGrammar
import ManifestLint.Report.Summary
import Mathlib.Data.List.Basic

/-!
# Reports are read back from JSON

The JSON text of a report is a JSON document that says everything about the report:
its head, every finding, and every file come back from it, and the numbers of the
summary are those that the files and the findings of the text add up to.
-/

namespace ManifestLint

open ManifestLint.Json (WordNumbers)
open ManifestLint.Number (powerOfTwo)
open ManifestLint.Finding (stringOf? wordOf? optionOf?)

/-! ## What is read from a text -/

/-- A boolean. -/
def Json.boolOf? : Json → Option Bool
  | .bool value => some value
  | _ => none

/-- The items of an array. -/
def Json.itemsOf? : Json → Option (List Json)
  | .array items => some items
  | _ => none

open ManifestLint.Json (boolOf? itemsOf?)

/-- What the text of a report says about a file. -/
structure FileEntry where
  file : String
  passed : Bool
  resourcesLinted : Nat
  duration : Nat

namespace FileEntry

/-- What there is to say about the outcome of linting a file. -/
def of (result : FileReport) : FileEntry where
  file := result.file
  passed := result.findings.isEmpty
  resourcesLinted := result.resourcesLinted
  duration := result.duration

/-- What is said about a file in the given fields. -/
def ofFields (file passed resourcesLinted duration : Json) : Option FileEntry := do
  return {
    file := ← stringOf? file
    passed := ← boolOf? passed
    resourcesLinted := ← wordOf? resourcesLinted
    duration := ← wordOf? duration }

/-- Read what is said about a file. -/
def ofJson (value : Json) : Option FileEntry :=
  let field (name : String) : Json := (value.member? name).getD .null
  ofFields (field "file") (field "passed") (field "resources_linted") (field "duration_ms")

end FileEntry

/-- The numbers that the text of a report begins with. -/
structure SummaryEntry where
  filesScanned : Nat
  filesPassed : Nat
  resourcesLinted : Nat
  lintErrors : Nat
  parseErrors : Nat

namespace SummaryEntry

/-- The numbers in the given fields. -/
def ofFields (filesScanned filesPassed resourcesLinted lintErrors parseErrors : Json) :
    Option SummaryEntry := do
  return {
    filesScanned := ← wordOf? filesScanned
    filesPassed := ← wordOf? filesPassed
    resourcesLinted := ← wordOf? resourcesLinted
    lintErrors := ← wordOf? lintErrors
    parseErrors := ← wordOf? parseErrors }

/-- Read the numbers of a summary. -/
def ofJson (value : Json) : Option SummaryEntry :=
  let field (name : String) : Json := (value.member? name).getD .null
  ofFields (field "files_scanned") (field "files_passed") (field "resources_linted")
    (field "lint_errors") (field "parse_errors")

end SummaryEntry

/-- What the text of a report says. -/
structure ReportEntry where
  target : String
  timestamp : String
  trusted : Bool
  status : String
  passed : Bool
  summary : SummaryEntry
  files : List FileEntry
  findings : List Finding

namespace ReportEntry

/-- What is said in the given fields. -/
def ofFields (target timestamp trusted status passed summary files findings : Json) :
    Option ReportEntry := do
  return {
    target := ← stringOf? target
    timestamp := ← stringOf? timestamp
    trusted := ← boolOf? trusted
    status := ← stringOf? status
    passed := ← boolOf? passed
    summary := ← SummaryEntry.ofJson summary
    files := ← (← itemsOf? files).mapM FileEntry.ofJson
    findings := ← (← itemsOf? findings).mapM Finding.ofJson }

/-- Read what is said about a run. -/
def ofJson (value : Json) : Option ReportEntry :=
  let field (name : String) : Json := (value.member? name).getD .null
  ofFields (field "target") (field "lint_timestamp") (field "trusted") (field "status")
    (field "passed") (field "summary") (field "files") (field "findings")

/-- What is said is what the report is. -/
structure Restates (said : ReportEntry) (report : Report) : Prop where
  target : said.target = report.target
  timestamp : said.timestamp = report.timestamp
  trusted : said.trusted = report.trusted
  status : said.status = report.status
  passed : said.passed = report.passed
  files : said.files = report.files.map FileEntry.of
  findings : said.findings = report.findings

/-- The numbers that are said are those that the files and the findings add up to. -/
structure AddsUp (said : ReportEntry) : Prop where
  filesScanned : said.summary.filesScanned = said.files.length
  filesPassed : said.summary.filesPassed = (said.files.filter (·.passed)).length
  resourcesLinted : said.summary.resourcesLinted =
    said.files.foldr (fun file total => file.resourcesLinted + total) 0
  lintErrors : said.summary.lintErrors =
    (said.findings.filter fun finding => finding.ruleId ≠ parseErrorRule).length
  parseErrors : said.summary.parseErrors =
    (said.findings.filter fun finding => finding.ruleId = parseErrorRule).length
  allErrors : said.summary.lintErrors + said.summary.parseErrors = said.findings.length

end ReportEntry

/-! ## Findings and files -/

theorem wordOf?_nat {n : Nat} (bound : n < powerOfTwo 64) : wordOf? (.nat n) = some n := by
  have bounds : 0 ≤ (n : Int) ∧ (n : Int) < powerOfTwo 64 :=
    ⟨Int.natCast_nonneg n, Int.ofNat_lt.mpr bound⟩
  rw [Json.nat, wordOf?, if_pos bounds, Int.toNat_natCast]

theorem optionOf?_ofOption {α : Type} {read : Json → Option α} {encode : α → Json}
    {content : Option α}
    (inner : ∀ value, content = some value → read (encode value) = some value)
    (notNull : ∀ value, encode value ≠ .null) :
    optionOf? read (.ofOption encode content) = some content := by
  cases content with
  | none => rfl
  | some value =>
      rw [Json.ofOption, optionOf?]
      · rw [inner value rfl]
        rfl
      · exact notNull value

/-- A finding is read back if the position that it names is a word. -/
theorem Finding.ofJson_toJson {finding : Finding}
    (bound : ∀ document, finding.document = some document → document < powerOfTwo 64) :
    Finding.ofJson finding.toJson = some finding := by
  have text (content : Option String) :
      optionOf? stringOf? (.ofOption .string content) = some content :=
    optionOf?_ofOption (fun _ _ => rfl) fun _ => nofun
  have document : optionOf? wordOf? (.ofOption .nat finding.document) = some finding.document :=
    optionOf?_ofOption (fun document found => wordOf?_nat (bound document found)) fun _ => nofun
  change Finding.ofFields (.string finding.ruleId) (.string finding.message)
    (.ofOption .string finding.file) (.ofOption .string finding.resource)
    (.ofOption .string finding.kind) (.ofOption .nat finding.document)
    (.ofOption .string finding.remediation) = some finding
  simp [Finding.ofFields, text, document, stringOf?]

theorem FileEntry.ofJson_fileJson {result : FileReport}
    (resources : result.resourcesLinted < powerOfTwo 64)
    (duration : result.duration < powerOfTwo 64) :
    FileEntry.ofJson (Report.fileJson result) = some (.of result) := by
  change FileEntry.ofFields (.string result.file) (.bool result.passed)
    (.nat result.resourcesLinted) (.nat result.duration) = some (.of result)
  rw [FileEntry.ofFields, wordOf?_nat resources, wordOf?_nat duration]
  rfl

/-- Whatever is read item by item comes back item by item. -/
theorem mapM_map_eq_some {α β γ : Type} {items : List α} {encode : α → β} {read : β → Option γ}
    {result : α → γ} (each : ∀ item ∈ items, read (encode item) = some (result item)) :
    (items.map encode).mapM read = some (items.map result) := by
  induction items with
  | nil => rfl
  | cons item rest ih =>
      rw [List.forall_mem_cons] at each
      rw [List.map_cons, List.mapM_cons, each.1, ih each.2]
      rfl

/-! ## Reports -/

namespace Report

/-- The counts of a report are unsigned integers of sixty-four bits. -/
structure IsCounted (report : Report) : Prop where
  files : report.files.length < powerOfTwo 64
  findings : report.findings.length < powerOfTwo 64
  resources : report.resourcesLinted < powerOfTwo 64
  durations : ∀ file ∈ report.files, file.duration < powerOfTwo 64
  documents : ∀ finding ∈ report.findings, ∀ document, finding.document = some document →
    document < powerOfTwo 64

theorem resourcesLinted_le_foldr {files : List FileReport} {file : FileReport}
    (member : file ∈ files) :
    file.resourcesLinted ≤ files.foldr (fun file total => file.resourcesLinted + total) 0 := by
  induction member with
  | head rest => exact Nat.le_add_right _ _
  | tail first _ ih => exact Nat.le_trans ih (Nat.le_add_left _ _)

theorem IsCounted.resources_of_file {report : Report} (counted : report.IsCounted)
    {file : FileReport} (member : file ∈ report.files) :
    file.resourcesLinted < powerOfTwo 64 :=
  Nat.lt_of_le_of_lt (resourcesLinted_le_foldr member) counted.resources

/-- Every finding is one of a file that could not be loaded or one of a resource. -/
theorem counts_add_up (report : Report) :
    report.counts.lintErrors + report.counts.parseErrors = report.findings.length := by
  rw [List.length_eq_length_filter_add (·.isLoadFailure), Nat.add_comm]
  rfl

/-- What is read from the JSON value of a report. -/
def entry (report : Report) : ReportEntry where
  target := report.target
  timestamp := report.timestamp
  trusted := report.trusted
  status := report.status
  passed := report.passed
  summary :=
    { filesScanned := report.filesScanned
      filesPassed := report.filesPassed
      resourcesLinted := report.resourcesLinted
      lintErrors := report.counts.lintErrors
      parseErrors := report.counts.parseErrors }
  files := report.files.map FileEntry.of
  findings := report.findings

/-- All numbers of the summary are words. -/
structure IsSummarized (report : Report) : Prop where
  filesScanned : report.filesScanned < powerOfTwo 64
  filesPassed : report.filesPassed < powerOfTwo 64
  resourcesLinted : report.resourcesLinted < powerOfTwo 64
  lintErrors : report.counts.lintErrors < powerOfTwo 64
  parseErrors : report.counts.parseErrors < powerOfTwo 64

theorem IsCounted.isSummarized {report : Report} (counted : report.IsCounted) :
    report.IsSummarized where
  filesScanned := counted.files
  filesPassed := Nat.lt_of_le_of_lt (List.length_filter_le _ _) counted.files
  resourcesLinted := counted.resources
  lintErrors := Nat.lt_of_le_of_lt (List.length_filter_le _ _) counted.findings
  parseErrors := Nat.lt_of_le_of_lt (List.length_filter_le _ _) counted.findings

theorem ofJson_summaryJson {report : Report} (summarized : report.IsSummarized) :
    SummaryEntry.ofJson report.summaryJson = some report.entry.summary := by
  change SummaryEntry.ofFields (.nat report.filesScanned) (.nat report.filesPassed)
    (.nat report.resourcesLinted) (.nat report.counts.lintErrors)
    (.nat report.counts.parseErrors) = some report.entry.summary
  rw [SummaryEntry.ofFields, wordOf?_nat summarized.filesScanned,
    wordOf?_nat summarized.filesPassed, wordOf?_nat summarized.resourcesLinted,
    wordOf?_nat summarized.lintErrors, wordOf?_nat summarized.parseErrors]
  rfl

theorem ofJson_toJson {report : Report} (counted : report.IsCounted) :
    ReportEntry.ofJson report.toJson = some report.entry := by
  have files : (report.files.map fileJson).mapM FileEntry.ofJson =
      some (report.files.map FileEntry.of) :=
    mapM_map_eq_some fun file member =>
      FileEntry.ofJson_fileJson (counted.resources_of_file member) (counted.durations file member)
  have findings : (report.findings.map Finding.toJson).mapM Finding.ofJson =
      some (report.findings.map id) :=
    mapM_map_eq_some fun finding member => Finding.ofJson_toJson (counted.documents finding member)
  rw [List.map_id] at findings
  change ReportEntry.ofFields (.string report.target) (.string report.timestamp)
    (.bool report.trusted) (.string report.status) (.bool report.passed) report.summaryJson
    (.array (report.files.map fileJson)) (.array (report.findings.map Finding.toJson)) =
      some report.entry
  simp only [ReportEntry.ofFields, itemsOf?, Option.bind_eq_bind, Option.bind_some, files,
    findings, ofJson_summaryJson counted.isSummarized]
  rfl

/-! ## Numbers in the text -/

theorem wordNumbers_ofOption {α : Type} {encode : α → Json} {content : Option α}
    (inner : ∀ value, content = some value → WordNumbers (encode value)) :
    WordNumbers (.ofOption encode content) := by
  cases content with
  | none => exact .null
  | some value => exact inner value rfl

theorem wordNumbers_finding {finding : Finding}
    (bound : ∀ document, finding.document = some document → document < powerOfTwo 64) :
    WordNumbers finding.toJson := by
  have text (content : Option String) : WordNumbers (.ofOption .string content) :=
    wordNumbers_ofOption fun value _ => .string value
  have document : WordNumbers (.ofOption .nat finding.document) :=
    wordNumbers_ofOption fun document found => .nat (bound document found)
  apply WordNumbers.object
  simp only [List.forall_mem_cons]
  exact ⟨.string _, .string _, text _, text _, text _, document, text _, List.forall_mem_nil _⟩

theorem wordNumbers_fileJson {result : FileReport}
    (resources : result.resourcesLinted < powerOfTwo 64)
    (duration : result.duration < powerOfTwo 64) : WordNumbers (fileJson result) := by
  apply WordNumbers.object
  simp only [List.forall_mem_cons]
  exact ⟨.string _, .bool _, .nat resources, .nat duration, List.forall_mem_nil _⟩

theorem wordNumbers_summaryJson {report : Report} (summarized : report.IsSummarized) :
    WordNumbers report.summaryJson := by
  apply WordNumbers.object
  simp only [List.forall_mem_cons]
  exact ⟨.nat summarized.filesScanned, .nat summarized.filesPassed,
    .nat summarized.resourcesLinted, .nat summarized.lintErrors, .nat summarized.parseErrors,
    List.forall_mem_nil _⟩

theorem wordNumbers_toJson {report : Report} (counted : report.IsCounted) :
    WordNumbers report.toJson := by
  have files : WordNumbers (.array (report.files.map fileJson)) := by
    apply WordNumbers.array
    rw [List.forall_mem_map]
    exact fun file member =>
      wordNumbers_fileJson (counted.resources_of_file member) (counted.durations file member)
  have findings : WordNumbers (.array (report.findings.map Finding.toJson)) := by
    apply WordNumbers.array
    rw [List.forall_mem_map]
    exact fun finding member => wordNumbers_finding (counted.documents finding member)
  apply WordNumbers.object
  simp only [List.forall_mem_cons]
  exact ⟨.string _, .string _, .bool _, .string _, .bool _,
    wordNumbers_summaryJson counted.isSummarized, files, findings, List.forall_mem_nil _⟩

/-! ## The report that comes back -/

theorem restates_entry (report : Report) : report.entry.Restates report :=
  ⟨rfl, rfl, rfl, rfl, rfl, rfl, rfl⟩

theorem addsUp_entry (report : Report) : report.entry.AddsUp where
  filesScanned := by simp [entry, filesScanned]
  filesPassed := by
    simp [entry, filesPassed, List.filter_map, Function.comp_def, FileEntry.of, FileReport.passed]
  resourcesLinted := by
    simp [entry, resourcesLinted, List.foldr_map, FileEntry.of]
  lintErrors := by
    simp [entry, counts, Finding.isLoadFailure]
  parseErrors := by
    simp [entry, counts, Finding.isLoadFailure]
  allErrors := report.counts_add_up

theorem read_json {report : Report} (counted : report.IsCounted) :
    (Json.read report.json).bind ReportEntry.ofJson = some report.entry := by
  rw [json, Json.read_pretty (wordNumbers_toJson counted), Option.bind_some,
    ofJson_toJson counted]

/-- The JSON text of a report is a JSON document from which the report comes back, with
a summary that adds up. -/
theorem json_readBack {report : Report} (counted : report.IsCounted) :
    Json.IsDocument report.json.toList ∧
      ∃ said, (Json.read report.json).bind ReportEntry.ofJson = some said ∧
        said.Restates report ∧ said.AddsUp := by
  have words := wordNumbers_toJson counted
  constructor
  · exact Json.isDocument_pretty words
  · refine ⟨report.entry, ?_, report.restates_entry, report.addsUp_entry⟩
    rw [json, Json.read_pretty words, Option.bind_some, ofJson_toJson counted]

/-- A report with texts that have to be escaped. -/
def escaped : Report where
  target := "\"nightly\""
  timestamp := "2024-05-01T00:00:00+00:00"
  trusted := false
  files :=
    [ { file := "ci\\😀.yml", resourcesLinted := 2, findings := [], parseFailed := false,
        duration := 7 },
      { file := "bell.yml", resourcesLinted := 0, parseFailed := true, duration := 0,
        findings :=
          [ { ruleId := parseErrorRule, message := "control\x07\tcharacters",
              file := some "bell.yml", resource := none, kind := none, document := some 1,
              remediation := none } ] } ]

theorem json_readBack_escaped :
    escaped.IsCounted ∧ Json.IsDocument escaped.json.toList ∧
      ∃ said, (Json.read escaped.json).bind ReportEntry.ofJson = some said ∧
        said.findings = escaped.findings ∧ said.summary.parseErrors = 1 := by
  have counted : escaped.IsCounted := by
    constructor
    · decide
    · decide
    · decide
    · simp [escaped, powerOfTwo]
    · simp [escaped, findings, powerOfTwo]
  rcases json_readBack counted with ⟨isDocument, said, read, restates, addsUp⟩
  refine ⟨counted, isDocument, said, read, restates.findings, ?_⟩
  rw [addsUp.parseErrors, restates.findings]
  rfl

end Report

end ManifestLint
