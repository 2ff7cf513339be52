import ManifestLint.Proofs.FirstViolation
import ManifestLint.Proofs.PrettyReadBack
import ManifestLint.Proofs.RunAccounts
import ManifestLint.Report.Timestamp

/-!
# The lines of reports for readers

The text for readers is made of lines that are ended one by one: one for each file, three
for each finding of a run.  Names and messages are written into these lines as they are, so
there are as many lines as there should be exactly if none of them breaks a line.  A
manifest can break lines, and then its text stands in the report like lines of its own.
-/

namespace ManifestLint

namespace Text

/-! ## Line feeds -/

/-- The number of line feeds in a text. -/
def breaks (text : String) : Nat :=
  text.toList.count '\n'

theorem breaks_eq_zero_iff {text : String} : breaks text = 0 ↔ OneLine text :=
  List.count_eq_zero

theorem breaks_append (text other : String) :
    breaks (text ++ other) = breaks text + breaks other := by
  rw [breaks, String.toList_append, List.count_append, breaks, breaks]

theorem length_split (separator : Char) (text : List Char) :
    (split separator text).length = text.count separator + 1 := by
  induction text with
  | nil => rfl
  | cons c rest ih =>
      rw [split]
      split
      · simp_all
      · cases parts : split separator rest <;> simp_all

/-- Every line feed ends a line. -/
theorem length_lines (text : String) : (lines text.toList).length = breaks text := by
  rw [lines, List.length_dropLast, length_split, Nat.add_sub_cancel, breaks]

theorem breaks_join_lines (separate : List String) :
    breaks (String.join (separate.map (· ++ "\n"))) =
      separate.length + (separate.map breaks).sum := by
  have lineFeed : breaks "\n" = 1 := rfl
  induction separate with
  | nil => rfl
  | cons line rest ih =>
      rw [List.map_cons, String.join_cons, breaks_append, breaks_append, ih, lineFeed,
        List.length_cons, List.map_cons, List.sum_cons]
      omega

/-- Lines that are ended one by one stay as many exactly if none of them is broken. -/
theorem length_lines_join_iff (separate : List String) :
    (lines (String.join (separate.map (· ++ "\n"))).toList).length = separate.length ↔
      ∀ line ∈ separate, OneLine line := by
  rw [length_lines, breaks_join_lines, Nat.add_eq_left, List.sum_eq_zero_iff_forall_eq_nat,
    List.forall_mem_map]
  exact forall₂_congr fun _ _ => breaks_eq_zero_iff

/-- What stands between two line feeds is a line if it holds none itself. -/
theorem mem_lines_between {line : List Char} (single : '\n' ∉ line) (before after : List Char) :
    line ∈ lines (before ++ '\n' :: (line ++ '\n' :: after)) := by
  rw [lines, split_append_cons, List.dropLast_append_of_ne_nil (split_ne_nil _ _)]
  apply List.mem_append_right
  rw [← lines, lines_line single]
  exact List.mem_cons_self

@[simp]
theorem oneLine_append_iff {text other : String} :
    OneLine (text ++ other) ↔ OneLine text ∧ OneLine other :=
  not_mem_toList_append

theorem oneLine_padRight_iff {width : Nat} {text : String} :
    OneLine (String.ofList (padRight width text.toList)) ↔ OneLine text := by
  rw [OneLine, String.toList_ofList, not_mem_padRight_iff (by decide), OneLine]

theorem noControls_padZeros (width number : Nat) : NoControls (padZeros width number) := by
  apply NoControls.append _ (noControls_toString number)
  apply NoControls.ofList
  rw [List.all_eq_true]
  intro c member
  rw [List.eq_of_mem_replicate member]
  decide

/-- The times that the program writes keep to one line. -/
theorem oneLine_timestampText (seconds nanoseconds : Nat) :
    OneLine (timestampText seconds nanoseconds) := by
  have padded (width number : Nat) : OneLine (padZeros width number) :=
    (noControls_padZeros width number).oneLine
  have mark : ∀ mark ∈ ["-", "T", ":", ".", "+00:00", ""], OneLine mark := by decide
  simp only [List.forall_mem_cons] at mark
  have fraction : OneLine (fractionText nanoseconds) := by
    unfold fractionText
    split_ifs <;> simp [mark, padded]
  simp [timestampText, mark, padded, fraction]

theorem paint_plain (style : Style) (text : String) : paint false style 0 text = text := by
  simp [paint, padRight]

end Text

open ManifestLint.Text

/-! ## Lines of findings -/

namespace Report

/-- The line of a finding's place, unless nothing is known of it. -/
def placeTexts (finding : Finding) : List String :=
  if (location finding).isEmpty then [] else ["         " ++ location finding]

/-- The line of what to do about a finding. -/
def remedyTexts (finding : Finding) : List String :=
  finding.remediation.toList.map ("         > " ++ ·)

/-- The lines of a finding. -/
def findingTexts (finding : Finding) : List String :=
  ("  [ERROR] " ++ String.ofList (padRight ruleWidth finding.ruleId.toList) ++ " " ++
    finding.message) :: (placeTexts finding ++ remedyTexts finding)

/-- The lines of all findings, if there are any. -/
def findingsTexts (findings : List Finding) : List String :=
  if findings.isEmpty then [] else "Findings" :: (findings.flatMap findingTexts ++ [""])

/-- The line that sums up. -/
def summaryText (report : Report) : String :=
  "Result: " ++ report.verdict ++ report.numbersText

/-- The lines of a report, without styles. -/
def texts (report : Report) : List String :=
  headLines false report ++ report.files.map (fileText false) ++
    ("" :: (findingsTexts report.findings ++ [report.summaryText]))

/-- What is left of the text once styles are off is made of these lines. -/
theorem findingLines_eq (finding : Finding) :
    findingLines false finding = String.join ((findingTexts finding).map (· ++ "\n")) := by
  have place : locationLine false finding = String.join ((placeTexts finding).map (· ++ "\n")) := by
    simp only [locationLine, placeTexts, paint_plain]
    split <;> simp
  have remedy : remediationLine false finding =
      String.join ((remedyTexts finding).map (· ++ "\n")) := by
    unfold remediationLine remedyTexts
    cases finding.remediation <;> simp [paint_plain]
  have tag : "  [" ++ paint false .red 0 "ERROR" ++ "] " = "  [ERROR] " := by
    rw [paint_plain]
    rfl
  unfold findingLines findingTexts
  rw [place, remedy, tag, paint, if_neg Bool.false_ne_true]
  simp only [List.map_cons, List.map_append, String.join_cons, String.join_append,
    String.append_assoc]

theorem findingsPart_eq (findings : List Finding) :
    findingsPart false findings =
      String.join ((findingsTexts findings).map (· ++ "\n")) := by
  have each : String.join (findings.map (findingLines false)) =
      String.join ((findings.flatMap findingTexts).map (· ++ "\n")) := by
    induction findings with
    | nil => rfl
    | cons finding rest ih =>
        rw [List.map_cons, String.join_cons, ih, findingLines_eq, List.flatMap_cons,
          List.map_append, String.join_append]
  unfold findingsPart findingsTexts
  split
  · rfl
  · rw [paint_plain, each]
    simp [String.append_assoc]

theorem pretty_eq_texts (report : Report) :
    report.pretty false = String.join (report.texts.map (· ++ "\n")) := by
  have summary : summaryLine false report = report.summaryText ++ "\n" := by
    rw [summaryLine_eq, paintedVerdict, paint_plain, summaryText]
  rw [pretty_eq_lists, foot, findingsPart_eq, summary, texts]
  simp only [List.map_append, List.map_cons, List.map_nil, String.join_append, String.join_cons,
    String.join_nil, String.append_assoc, String.append_empty, String.empty_append]

/-! ## Names and messages that keep to their lines -/

theorem oneLine_location_iff (finding : Finding) :
    OneLine (location finding) ↔ (∀ file, finding.file = some file → OneLine file) ∧
      ∀ name, finding.resource = some name → OneLine name := by
  have empty : OneLine "" := .ofList (by decide)
  unfold location
  rw [oneLine_append_iff, oneLine_append_iff]
  refine and_congr ((and_iff_left ?document).trans ?file) ?resource
  case file => cases finding.file <;> simp [empty]
  case document =>
    cases finding.document with
    | none => exact empty
    | some index =>
        have before : OneLine " (document " := .ofList (by decide)
        have closing : OneLine ")" := .ofList (by decide)
        exact (before.append (noControls_toString (index + 1)).oneLine).append closing
  case resource =>
    have before : OneLine " pipeline '" := .ofList (by decide)
    have closing : OneLine "'" := .ofList (by decide)
    cases finding.resource <;> simp [empty, before, closing]

end Report

/-- What the text for readers shows of a finding keeps to its line. -/
structure Finding.KeepsLines (finding : Finding) : Prop where
  ruleId : OneLine finding.ruleId
  message : OneLine finding.message
  file : ∀ file, finding.file = some file → OneLine file
  resource : ∀ name, finding.resource = some name → OneLine name
  remediation : ∀ remediation, finding.remediation = some remediation → OneLine remediation

namespace Report

theorem oneLine_placeTexts_iff (finding : Finding) :
    (∀ text ∈ placeTexts finding, OneLine text) ↔ OneLine (location finding) := by
  have indent : OneLine "         " := .ofList (by decide)
  unfold placeTexts
  split
  · rename_i nothing
    rw [String.isEmpty_iff.mp nothing]
    decide
  · rw [List.forall_mem_singleton, oneLine_append_iff, and_iff_right indent]

theorem oneLine_remedyTexts_iff (finding : Finding) :
    (∀ text ∈ remedyTexts finding, OneLine text) ↔
      ∀ remediation, finding.remediation = some remediation → OneLine remediation := by
  have indent : OneLine "         > " := .ofList (by decide)
  unfold remedyTexts
  cases finding.remediation <;> simp [indent]

theorem oneLine_findingTexts_iff (finding : Finding) :
    (∀ text ∈ findingTexts finding, OneLine text) ↔ finding.KeepsLines := by
  have tag : OneLine "  [ERROR] " := .ofList (by decide)
  have blank : OneLine " " := .ofList (by decide)
  rw [findingTexts, List.forall_mem_cons, List.forall_mem_append, oneLine_placeTexts_iff,
    oneLine_remedyTexts_iff, oneLine_location_iff, oneLine_append_iff, oneLine_append_iff,
    oneLine_append_iff, oneLine_padRight_iff]
  constructor
  · rintro ⟨⟨⟨⟨-, ruleId⟩, -⟩, message⟩, ⟨file, resource⟩, remediation⟩
    exact ⟨ruleId, message, file, resource, remediation⟩
  · rintro ⟨ruleId, message, file, resource, remediation⟩
    exact ⟨⟨⟨⟨tag, ruleId⟩, blank⟩, message⟩, ⟨file, resource⟩, remediation⟩

theorem oneLine_findingsTexts_iff (findings : List Finding) :
    (∀ text ∈ findingsTexts findings, OneLine text) ↔
      ∀ finding ∈ findings, finding.KeepsLines := by
  have heading : OneLine "Findings" := .ofList (by decide)
  have empty : OneLine "" := .ofList (by decide)
  unfold findingsTexts
  split
  · rename_i nothing
    simp [List.isEmpty_iff.mp nothing]
  · simp only [List.forall_mem_cons, List.forall_mem_append, List.forall_mem_flatMap,
      List.not_mem_nil, oneLine_findingTexts_iff, heading, empty, true_and, false_implies,
      implies_true, and_true]

theorem oneLine_headLines_iff (report : Report) :
    (∀ line ∈ headLines false report, OneLine line) ↔
      OneLine report.target ∧ OneLine report.timestamp := by
  have empty : OneLine "" := .ofList (by decide)
  have before : OneLine "  Pipeline Lint: " := .ofList (by decide)
  have behind : OneLine "  " := .ofList (by decide)
  have time : OneLine "  Timestamp: " := .ofList (by decide)
  have trusted : OneLine ("  Trusted:   " ++ toString report.trusted) := by
    cases report.trusted <;> decide
  have heading : OneLine "Files" := .ofList (by decide)
  simp only [headLines, List.forall_mem_cons, paint_plain, oneLine_append_iff] at trusted ⊢
  simp [empty, before, behind, time, trusted, heading]

theorem oneLine_fileText_iff (result : FileReport) :
    OneLine (fileText false result) ↔ OneLine result.file := by
  constructor
  · intro single
    simp only [fileText, oneLine_append_iff, oneLine_padRight_iff] at single
    exact single.1.1.2
  · exact oneLine_fileText false

/-- The lines of a report are as they should be if nothing in it breaks a line. -/
theorem oneLine_texts_iff (report : Report) :
    (∀ text ∈ report.texts, OneLine text) ↔
      OneLine report.target ∧ OneLine report.timestamp ∧
        (∀ result ∈ report.files, OneLine result.file) ∧
        ∀ finding ∈ report.findings, finding.KeepsLines := by
  have empty : OneLine "" := .ofList (by decide)
  have summary : OneLine report.summaryText := by
    have start : OneLine "Result: " := .ofList (by decide)
    exact (start.append report.noControls_verdict.oneLine).append
      report.noControls_numbersText.oneLine
  simp only [texts, List.forall_mem_append, List.forall_mem_cons, List.forall_mem_map,
    List.not_mem_nil, oneLine_headLines_iff, oneLine_fileText_iff, oneLine_findingsTexts_iff,
    empty, summary, true_and, false_implies, implies_true, and_true, and_assoc]

/-! ## Lines of each kind -/

/-- How the line of a file begins. -/
def statusStarts : List String :=
  ["  [PASS] ", "  [FAIL] ", "  [ERR ] "]

/-- Whether a line begins like that of a file. -/
def isStatusLine (line : List Char) : Bool :=
  statusStarts.any fun start => start.toList.isPrefixOf line

/-- Whether a line begins like the one that sums up. -/
def isResultLine (line : List Char) : Bool :=
  "Result: ".toList.isPrefixOf line

/-- A line that begins neither like that of a file nor like the one that sums up. -/
def IsOther (line : String) : Prop :=
  isStatusLine line.toList = false ∧ isResultLine line.toList = false

theorem isStatusLine_fileText (result : FileReport) :
    isStatusLine (fileText false result).toList = true ∧
      isResultLine (fileText false result).toList = false := by
  have start : ∃ rest, (fileText false result).toList =
      "  [".toList ++ (result.tag.toList ++ ("] ".toList ++ rest)) := by
    unfold fileText
    rw [fileTag_eq, paint_plain]
    simp only [String.toList_append, List.append_assoc]
    exact ⟨_, rfl⟩
  obtain ⟨rest, start⟩ := start
  rw [start, FileReport.tag]
  cases result.parseFailed <;> cases result.passed <;> exact ⟨rfl, rfl⟩

theorem isResultLine_summaryText (report : Report) :
    isStatusLine report.summaryText.toList = false ∧
      isResultLine report.summaryText.toList = true := by
  rw [summaryText, String.append_assoc, String.toList_append]
  exact ⟨rfl, rfl⟩

theorem isOther_headLines (report : Report) : ∀ line ∈ headLines false report, IsOther line := by
  have title : IsOther ("  Pipeline Lint: " ++ report.target ++ "  ") := by
    rw [IsOther, String.append_assoc, String.toList_append]
    exact ⟨rfl, rfl⟩
  have time : IsOther ("  Timestamp: " ++ report.timestamp) := by
    rw [IsOther, String.toList_append]
    exact ⟨rfl, rfl⟩
  have trusted : IsOther ("  Trusted:   " ++ toString report.trusted) := by
    rw [IsOther, String.toList_append]
    exact ⟨rfl, rfl⟩
  simp only [headLines, List.forall_mem_cons, paint_plain]
  exact ⟨⟨rfl, rfl⟩, title, time, trusted, ⟨rfl, rfl⟩, ⟨rfl, rfl⟩, List.forall_mem_nil _⟩

theorem isOther_findingTexts (finding : Finding) :
    ∀ text ∈ findingTexts finding, IsOther text := by
  have head : IsOther ("  [ERROR] " ++
      String.ofList (padRight ruleWidth finding.ruleId.toList) ++ " " ++ finding.message) := by
    rw [IsOther, String.append_assoc, String.append_assoc, String.toList_append]
    exact ⟨rfl, rfl⟩
  have place : ∀ text ∈ placeTexts finding, IsOther text := by
    unfold placeTexts
    split
    · exact List.forall_mem_nil _
    · rw [List.forall_mem_singleton, IsOther, String.toList_append]
      exact ⟨rfl, rfl⟩
  have remedy : ∀ text ∈ remedyTexts finding, IsOther text := by
    unfold remedyTexts
    rw [List.forall_mem_map]
    intro remediation _
    rw [IsOther, String.toList_append]
    exact ⟨rfl, rfl⟩
  rw [findingTexts, List.forall_mem_cons, List.forall_mem_append]
  exact ⟨head, place, remedy⟩

theorem isOther_findingsTexts (findings : List Finding) :
    ∀ text ∈ findingsTexts findings, IsOther text := by
  unfold findingsTexts
  split
  · exact List.forall_mem_nil _
  · rw [List.forall_mem_cons, List.forall_mem_append, List.forall_mem_singleton,
      List.forall_mem_flatMap]
    exact ⟨⟨rfl, rfl⟩, fun finding _ => isOther_findingTexts finding, ⟨rfl, rfl⟩⟩

/-- A report without styles has one line that begins like that of a file for each of its
files, and one that begins like the one that sums up. -/
theorem length_filter_texts (report : Report) :
    ((report.texts.map String.toList).filter isStatusLine).length = report.filesScanned ∧
      ((report.texts.map String.toList).filter isResultLine).length = 1 := by
  have none {separate : List String} (other : ∀ line ∈ separate, IsOther line) :
      (separate.map String.toList).filter isStatusLine = [] ∧
        (separate.map String.toList).filter isResultLine = [] := by
    simp only [List.filter_eq_nil_iff, List.forall_mem_map, Bool.not_eq_true]
    exact ⟨fun line member => (other line member).1, fun line member => (other line member).2⟩
  have head := none (isOther_headLines report)
  have below := none (isOther_findingsTexts report.findings)
  have files : ((report.files.map (fileText false)).map String.toList).filter isStatusLine =
        (report.files.map (fileText false)).map String.toList ∧
      ((report.files.map (fileText false)).map String.toList).filter isResultLine = [] := by
    simp only [List.filter_eq_self, List.filter_eq_nil_iff, List.forall_mem_map, Bool.not_eq_true]
    exact ⟨fun result _ => (isStatusLine_fileText result).1,
      fun result _ => (isStatusLine_fileText result).2⟩
  have summary := report.isResultLine_summaryText
  have empty : IsOther "" := ⟨rfl, rfl⟩
  simp only [texts, List.map_append, List.map_cons, List.map_nil, List.filter_append,
    List.filter_cons, List.filter_nil, head, below, files, summary, empty.1, empty.2]
  simp [filesScanned]

end Report

/-! ## Findings of a run -/

theorem Path.join_ne_empty (directory name : String) : join directory name ≠ "" := by
  intro empty
  rw [join] at empty
  split at empty
  · rename_i closed
    obtain ⟨rfl, -⟩ := String.append_eq_empty_iff.mp empty
    cases closed
  · simp [String.append_eq_empty_iff] at empty

mutual

/-- A walk from a place with a path finds files with paths. -/
theorem Discovery.path_of_mem_filesOf (discovery : Discovery) {path : String} (named : path ≠ "")
    (name : String) (tree : Tree) {source : SourceFile}
    (member : source ∈ discovery.filesOf path name tree) : source.path ≠ "" := by
  match tree with
  | .file content =>
      rw [filesOf] at member
      split at member
      · rw [List.mem_singleton.mp member]
        exact named
      · cases member
  | .directory entries =>
      rw [filesOf] at member
      split at member
      · cases member
      · exact discovery.path_of_mem_filesIn path entries member

theorem Discovery.path_of_mem_filesIn (discovery : Discovery) (path : String)
    (entries : List (String × Tree)) {source : SourceFile}
    (member : source ∈ discovery.filesIn path entries) : source.path ≠ "" := by
  match entries with
  | [] => cases member
  | (name, tree) :: rest =>
      rw [filesIn, List.mem_append] at member
      rcases member with inEntry | inRest
      · exact discovery.path_of_mem_filesOf (Path.join_ne_empty path name) name tree inEntry
      · exact discovery.path_of_mem_filesIn path rest inRest

end

/-- What is linted has a path, since the empty path leads nowhere. -/
theorem LoadedFile.path_ne_empty {config : Config} {path : String} {tree : Option Tree}
    (nowhere : path = "" → tree = none) {file : LoadedFile}
    (member : file ∈ all config path tree) : file.path ≠ "" := by
  obtain ⟨source, found, rfl⟩ := List.mem_map.mp member
  change source.path ≠ ""
  match tree with
  | none => cases found
  | some (.file content) =>
      rw [List.mem_singleton.mp found]
      intro empty
      cases nowhere empty
  | some (.directory entries) =>
      rw [Discovery.discover, List.mem_mergeSort] at found
      exact config.discovery.path_of_mem_filesIn path entries found

/-- The texts of the rule that guards a privilege keep to their lines. -/
theorem Privilege.oneLine_rule (privilege : Privilege) :
    OneLine privilege.rule.id ∧ OneLine privilege.rule.remediation := by
  cases privilege with
  | hostPort => exact ⟨.ofList (by decide), .append (.ofList (by decide)) (.ofList (by decide))⟩
  | _ => exact ⟨.ofList (by decide), .ofList (by decide)⟩

theorem Rule.oneLine_structural :
    ∀ rule ∈ structural, OneLine rule.id ∧ OneLine rule.remediation := by
  simp only [structural, List.forall_mem_cons]
  refine ⟨?yaml, ?_, ?_, ?_, ?_, ?_, ?_, ?_, List.forall_mem_nil _⟩
  case yaml => exact ⟨.ofList (by decide), .append (.ofList (by decide)) (.ofList (by decide))⟩
  all_goals exact ⟨.ofList (by decide), .ofList (by decide)⟩

/-- The texts of the registry keep to their lines. -/
theorem Rule.oneLine_of_mem {rule : Rule} (member : rule ∈ all) :
    OneLine rule.id ∧ OneLine rule.remediation := by
  rcases List.mem_append.mp member with isStructural | guards
  · exact oneLine_structural rule isStructural
  · obtain ⟨privilege, -, rfl⟩ := List.mem_map.mp guards
    exact privilege.oneLine_rule

namespace Finding

/-- A finding that says of a registered rule what to do about it. -/
structure NamesRule (finding : Finding) : Prop where
  ruleId : OneLine finding.ruleId
  remediation : ∃ remediation, finding.remediation = some remediation ∧ OneLine remediation

theorem namesRule_of_find? {finding : Finding}
    (registered : (Rule.find? finding.ruleId).isSome = true)
    (remedied : finding.remediation = (Rule.find? finding.ruleId).map (·.remediation)) :
    finding.NamesRule := by
  obtain ⟨rule, found⟩ := Option.isSome_iff_exists.mp registered
  have isRule : rule.id = finding.ruleId := by simpa using List.find?_some found
  have texts := Rule.oneLine_of_mem (List.mem_of_find?_eq_some found)
  constructor
  · rw [← isRule]
    exact texts.1
  · rw [remedied, found]
    exact ⟨rule.remediation, rfl, texts.2⟩

theorem namesRule_ofViolation (violation : Violation) (file : String) (index : Nat)
    (resource : Resource) : (ofViolation violation file index resource).NamesRule :=
  namesRule_of_find? violation.isSome_find? rfl

theorem namesRule_ofLoadError (error : LoadError) (file : String) :
    (ofLoadError error file).NamesRule :=
  namesRule_of_find? Rule.isSome_find?_parseErrorRule rfl

/-- A finding of a run has three lines: what is wrong, where, and what to do. -/
theorem length_findingTexts_of_mem_lint {config : Config} {path : String} {clock : Clock}
    {tree : Option Tree} (nowhere : path = "" → tree = none) {finding : Finding}
    (member : finding ∈ (Report.lint config path clock tree).findings) :
    (Report.findingTexts finding).length = 3 := by
  have located {finding : Finding} (named : finding.NamesRule)
      (placed : ∃ file, finding.file = some file ∧ file ≠ "") :
      (Report.findingTexts finding).length = 3 := by
    obtain ⟨remediation, remedied, -⟩ := named.remediation
    obtain ⟨file, inFile, notEmpty⟩ := placed
    have place : (Report.location finding).isEmpty = false := by
      simp [Report.location, inFile, notEmpty, String.append_eq_empty_iff]
    simp [Report.findingTexts, Report.placeTexts, Report.remedyTexts, place, remedied]
  obtain ⟨file, loaded, ⟨error, _, rfl⟩ | ⟨_, index, resource, violation, _, _, _, rfl⟩⟩ :=
    Report.mem_findings_lint_iff.mp member
  · exact located (namesRule_ofLoadError error file.path)
      ⟨file.path, rfl, LoadedFile.path_ne_empty nowhere loaded⟩
  · exact located (namesRule_ofViolation violation file.path index resource)
      ⟨file.path, rfl, LoadedFile.path_ne_empty nowhere loaded⟩

theorem keepsLines_iff {finding : Finding} (named : finding.NamesRule) :
    finding.KeepsLines ↔ OneLine finding.message ∧
      (∀ file, finding.file = some file → OneLine file) ∧
        ∀ name, finding.resource = some name → OneLine name := by
  constructor
  · intro keeps
    exact ⟨keeps.message, keeps.file, keeps.resource⟩
  · rintro ⟨message, file, resource⟩
    refine ⟨named.ruleId, message, file, resource, fun remediation remedied => ?_⟩
    obtain ⟨known, isKnown, single⟩ := named.remediation
    rw [isKnown] at remedied
    cases remedied
    exact single

end Finding

/-! ## What manifests show of themselves -/

/-- What the diagnostic of a violation takes over from a manifest as it is. -/
def Violation.shown? : Violation → Option String
  | .unsupportedOs os => some os
  | .unsupportedArch arch => some arch
  | _ => none

theorem Violation.mem_when_iff {condition : Bool} {violation other : Violation} :
    other ∈ when condition violation ↔ condition = true ∧ other = violation := by
  cases condition <;> simp [when]

theorem Verdict.mem_of_ofList_eq_error {trusted : Bool} {violations : List Violation}
    {violation : Violation} (rejected : ofList trusted violations = .error violation) :
    violation ∈ violations := by
  rw [ofList] at rejected
  split at rejected
  · rename_i first found
    cases rejected
    exact List.mem_of_find?_eq_some found
  · cases rejected

/-- Names of volumes show up in diagnostics only if they are reserved. -/
theorem Resource.reserved_of_rejected {trusted : Bool} {resource : Resource} {name : String}
    (rejected : resource.check trusted = .error (.reservedVolumeName name)) :
    name ∈ ["_workspace", "_docker_socket"] := by
  cases resource with
  | secret declared => cases rejected
  | signature declared => cases rejected
  | pipeline declared =>
      rw [check, Pipeline.check_eq_ofList] at rejected
      have listed := Verdict.mem_of_ofList_eq_error rejected
      simp only [Pipeline.violations, Platform.violations, Build.violations, Volume.violations,
        Container.violations, List.mem_append, List.mem_flatMap, Violation.mem_when_iff,
        Option.mem_toList, Option.map_eq_some_iff, reduceCtorEq, and_false, or_false,
        false_or, exists_false, Violation.reservedVolumeName.injEq, decide_eq_true_eq] at listed
      obtain ⟨volume, -, reserved, rfl⟩ := listed
      exact reserved

/-- The diagnostic of a rejected resource is broken only by what it takes over. -/
theorem Resource.oneLine_message_iff {trusted : Bool} {resource : Resource} {violation : Violation}
    (rejected : resource.check trusted = .error violation) :
    OneLine violation.message ↔ ∀ text, violation.shown? = some text → OneLine text := by
  have constant (single : OneLine violation.message) (nothing : violation.shown? = none) :
      OneLine violation.message ↔ ∀ text, violation.shown? = some text → OneLine text := by
    simp [single, nothing]
  have taken {front text : String} (single : OneLine front) :
      OneLine (front ++ text) ↔ ∀ other, some text = some other → OneLine other := by
    simp [single]
  cases violation with
  | unsupportedOs os => exact taken (.ofList (by decide))
  | unsupportedArch arch => exact taken (.ofList (by decide))
  | reservedVolumeName name =>
      have front : OneLine "linter: invalid volume name: " := .ofList (by decide)
      have single : ∀ name ∈ ["_workspace", "_docker_socket"], OneLine name := by decide
      exact constant (front.append (single name (reserved_of_rejected rejected))) rfl
  | untrusted privilege =>
      have front : OneLine "linter: untrusted repositories cannot " := .ofList (by decide)
      have action : OneLine privilege.action := by cases privilege <;> exact .ofList (by decide)
      exact constant (front.append action) rfl
  | duplicateStepName name => exact constant (.ofList (by decide)) rfl
  | missingBuildImage => exact constant (.ofList (by decide)) rfl
  | missingName => exact constant (.ofList (by decide)) rfl
  | missingImage => exact constant (.ofList (by decide)) rfl

/-- Nothing that is shown of a file breaks a line: its path, why it cannot be loaded, and of
the resources that are rejected the names and what their diagnostics take over. -/
structure LoadedFile.KeepsLines (trusted : Bool) (file : LoadedFile) : Prop where
  path : OneLine file.path
  failure : ∀ error, file.outcome = .error error → OneLine error.message
  rejected : ∀ manifest, file.outcome = .ok manifest → ∀ resource ∈ manifest.resources,
    ∀ violation, resource.check trusted = .error violation →
      OneLine resource.name ∧ ∀ text, violation.shown? = some text → OneLine text

namespace Finding

theorem keepsLines_ofLoadError_iff (error : LoadError) (file : String) :
    (ofLoadError error file).KeepsLines ↔ OneLine error.message ∧ OneLine file := by
  rw [keepsLines_iff (namesRule_ofLoadError error file)]
  simp [ofLoadError]

theorem keepsLines_ofViolation_iff {trusted : Bool} {resource : Resource} {violation : Violation}
    (rejected : resource.check trusted = .error violation) (file : String) (index : Nat) :
    (ofViolation violation file index resource).KeepsLines ↔
      (∀ text, violation.shown? = some text → OneLine text) ∧ OneLine file ∧
        OneLine resource.name := by
  have unnamed : OneLine "" := .ofList (by decide)
  have resource_iff : (∀ name, (if resource.name.isEmpty then none else some resource.name) =
      some name → OneLine name) ↔ OneLine resource.name := by
    by_cases empty : resource.name = ""
    · simp [empty, unnamed]
    · simp [empty]
  rw [keepsLines_iff (namesRule_ofViolation violation file index resource),
    ← Resource.oneLine_message_iff rejected]
  simp only [ofViolation, resource_iff, Option.some.injEq, forall_eq']

end Finding

namespace Report

/-- What a run shows keeps to its lines if nothing that is shown of a file breaks one. -/
theorem keepsLines_lint_iff (config : Config) (path : String) (clock : Clock)
    (tree : Option Tree) :
    ((∀ result ∈ (lint config path clock tree).files, OneLine result.file) ∧
      ∀ finding ∈ (lint config path clock tree).findings, finding.KeepsLines) ↔
      ∀ file ∈ LoadedFile.all config path tree, file.KeepsLines config.trusted := by
  have file_ofLoaded (file : LoadedFile) : (FileReport.ofLoaded config.trusted file.path
      (clock.elapsed file.path) file.outcome).file = file.path := by
    cases file.outcome <;> rfl
  have paths : (∀ result ∈ (lint config path clock tree).files, OneLine result.file) ↔
      ∀ file ∈ LoadedFile.all config path tree, OneLine file.path := by
    rw [lint, ofLoaded, List.forall_mem_map]
    simp only [file_ofLoaded]
  rw [paths]
  constructor
  · rintro ⟨single, keeps⟩ file member
    refine { path := single file member, failure := ?_, rejected := ?_ }
    · intro error failed
      have found := keeps _ (mem_findings_lint_iff.mpr ⟨file, member, .inl ⟨error, failed, rfl⟩⟩)
      exact ((Finding.keepsLines_ofLoadError_iff error file.path).mp found).1
    · intro manifest loaded resource declared violation rejected
      obtain ⟨index, there⟩ := List.mem_iff_getElem?.mp declared
      have found := keeps _ (mem_findings_lint_iff.mpr ⟨file, member,
        .inr ⟨manifest, index, resource, violation, loaded, there, rejected, rfl⟩⟩)
      have shown := (Finding.keepsLines_ofViolation_iff rejected file.path index).mp found
      exact ⟨shown.2.2, shown.1⟩
  · intro keeps
    refine ⟨fun file member => (keeps file member).path, fun finding member => ?_⟩
    obtain ⟨file, among, ⟨error, failed, rfl⟩ |
        ⟨manifest, index, resource, violation, loaded, there, rejected, rfl⟩⟩ :=
      mem_findings_lint_iff.mp member
    · exact (Finding.keepsLines_ofLoadError_iff error file.path).mpr
        ⟨(keeps file among).failure error failed, (keeps file among).path⟩
    · have shown := (keeps file among).rejected manifest loaded resource
        (List.mem_of_getElem? there) violation rejected
      exact (Finding.keepsLines_ofViolation_iff rejected file.path index).mpr
        ⟨shown.2, (keeps file among).path, shown.1⟩

/-! ## Main statement -/

/-- The number of lines that a report is to have: three for each finding. -/
def lineCount (report : Report) : Nat :=
  if report.findings.isEmpty then 8 + report.filesScanned
  else 10 + report.filesScanned + 3 * report.findings.length

/-- The text for readers without styles has a line for each file, one that sums up, and as
many lines as it is to have. -/
structure OneLineEach (report : Report) : Prop where
  statusLines : ((lines (report.pretty false).toList).filter isStatusLine).length =
    report.filesScanned
  resultLines : ((lines (report.pretty false).toList).filter isResultLine).length = 1
  allLines : (lines (report.pretty false).toList).length = report.lineCount

section Lint

variable {config : Config} {path : String} {clock : Clock} {tree : Option Tree}
  (nowhere : path = "" → tree = none)

include nowhere

theorem length_texts_lint :
    let report := lint config path clock tree
    report.texts.length = report.lineCount := by
  intro report
  have each : (report.findings.flatMap findingTexts).length = 3 * report.findings.length := by
    have three : report.findings.map (fun finding => (findingTexts finding).length) =
        report.findings.map fun _ => 3 :=
      List.map_congr_left fun finding member =>
        Finding.length_findingTexts_of_mem_lint nowhere member
    rw [List.length_flatMap, three, List.map_const', List.sum_replicate_nat, Nat.mul_comm]
  rw [texts, lineCount, findingsTexts, filesScanned]
  split
  · simp [headLines]
    omega
  · simp [headLines, each]
    omega

/-- A text of as many lines as it is to have is made of unbroken ones. -/
theorem OneLineEach.unbroken (each : (lint config path clock tree).OneLineEach) :
    ∀ text ∈ (lint config path clock tree).texts, OneLine text := by
  rw [← length_lines_join_iff, ← pretty_eq_texts, length_texts_lint nowhere]
  exact each.allLines

theorem oneLineEach_of_unbroken
    (unbroken : ∀ text ∈ (lint config path clock tree).texts, OneLine text) :
    (lint config path clock tree).OneLineEach := by
  have separate : lines ((lint config path clock tree).pretty false).toList =
      (lint config path clock tree).texts.map String.toList := by
    have told := lines_join unbroken []
    rwa [← pretty_eq_texts, List.append_nil, show lines [] = [] from rfl, List.append_nil] at told
  have kinds := (lint config path clock tree).length_filter_texts
  rw [← separate] at kinds
  refine ⟨kinds.1, kinds.2, ?_⟩
  rw [separate, List.length_map, length_texts_lint nowhere]

end Lint

/-- A line inside of a message becomes a line of the report. -/
theorem mem_lines_of_message {report : Report} {finding : Finding}
    (member : finding ∈ report.findings) (front : String) {line : String} (back : String)
    (single : OneLine line)
    (message : finding.message ++ "\n" = front ++ "\n" ++ line ++ "\n" ++ back) :
    line.toList ∈ lines (report.pretty false).toList := by
  have listed : ∃ start, start ++ finding.message ∈ report.texts := by
    refine ⟨"  [ERROR] " ++ String.ofList (padRight ruleWidth finding.ruleId.toList) ++ " ", ?_⟩
    have found : report.findings ≠ [] := List.ne_nil_of_mem member
    have shown : report.findings.flatMap findingTexts ⊆ report.texts := by
      intro text inFindings
      rw [texts, findingsTexts, if_neg (by simpa using found)]
      simp [inFindings]
    exact shown (List.mem_flatMap.mpr ⟨finding, member, List.mem_cons_self⟩)
  obtain ⟨start, inTexts⟩ := listed
  obtain ⟨earlier, later, split⟩ := List.append_of_mem inTexts
  have lineFeed : "\n".toList = ['\n'] := rfl
  have spelled : ∃ before after, (report.pretty false).toList =
      before ++ '\n' :: (line.toList ++ '\n' :: after) := by
    have whole : start ++ finding.message ++ "\n" =
        start ++ (front ++ "\n" ++ line ++ "\n" ++ back) := by
      rw [String.append_assoc, message]
    rw [pretty_eq_texts, split, List.map_append, List.map_cons, String.join_append,
      String.join_cons, whole]
    simp only [String.toList_append, lineFeed, List.append_assoc, List.singleton_append]
    rw [← List.append_assoc, ← List.append_assoc]
    exact ⟨_, _, rfl⟩
  obtain ⟨before, after, spelled⟩ := spelled
  rw [spelled]
  exact mem_lines_between single before after

/-- The text of a run has its lines, and no other line that looks like one of a file or like
the one that sums up, exactly if nothing that is shown of the files breaks a line.  A path may
lead anywhere, but the empty path leads nowhere. -/
theorem oneLineEach_iff (config : Config) {path : String} {clock : Clock} {tree : Option Tree}
    (nowhere : path = "" → tree = none) (time : OneLine clock.timestamp) :
    (lint config path clock tree).OneLineEach ↔
      OneLine path ∧ ∀ file ∈ LoadedFile.all config path tree,
        file.KeepsLines config.trusted := by
  have single := oneLine_texts_iff (lint config path clock tree)
  rw [keepsLines_lint_iff] at single
  constructor
  · intro each
    have shown := single.mp (each.unbroken nowhere)
    exact ⟨shown.1, shown.2.2⟩
  · rintro ⟨target, files⟩
    exact oneLineEach_of_unbroken nowhere (single.mpr ⟨target, time, files⟩)

/-- A file with a pipeline for an operating system, which is written as given. -/
def pipelineFor (os : String) : Option Tree :=
  some (.file ("kind: pipeline\nplatform:\n  os: " ++ os ++ "\n").toUTF8)

theorem oneLineEach_plan9 :
    let clock : Clock := ⟨timestampText 0 0, fun _ => 7⟩
    ("/ci.yml" = "" → pipelineFor "plan9" = none) ∧ OneLine clock.timestamp ∧
      (lint {} "/ci.yml" clock (pipelineFor "plan9")).OneLineEach ∧
      (lint {} "/ci.yml" clock (pipelineFor "plan9")).findings.length = 1 := by
  intro clock
  have nowhere : "/ci.yml" = "" → pipelineFor "plan9" = none := by simp
  have time : OneLine clock.timestamp := oneLine_timestampText 0 0
  have verdicts : ∀ file ∈ LoadedFile.all {} "/ci.yml" (pipelineFor "plan9"),
      file.path = "/ci.yml" ∧ file.outcome.toOption.map (fun manifest =>
        manifest.resources.map fun resource => (resource.name, resource.check false)) =
          some [("", .error (.unsupportedOs "plan9"))] := by
    decide +kernel
  have unbroken : OneLine "/ci.yml" ∧ OneLine "" ∧ OneLine "plan9" := by decide
  have files : ∀ file ∈ LoadedFile.all {} "/ci.yml" (pipelineFor "plan9"),
      file.KeepsLines false := by
    intro file member
    obtain ⟨path, verdict⟩ := verdicts file member
    refine { path := path ▸ unbroken.1, failure := ?_, rejected := ?_ }
    · intro error failed
      rw [failed] at verdict
      cases verdict
    · intro manifest loaded resource declared violation rejected
      rw [loaded] at verdict
      have only := Option.some.inj verdict
      have here : (resource.name, resource.check false) ∈
          [("", (.error (.unsupportedOs "plan9") : Verdict))] :=
        only ▸ List.mem_map_of_mem declared
      rw [rejected, List.mem_singleton, Prod.mk.injEq, Except.error.injEq] at here
      obtain ⟨name, rfl⟩ := here
      simp [name, Violation.shown?, unbroken]
  exact ⟨nowhere, time, (oneLineEach_iff {} nowhere time).mpr ⟨unbroken.1, files⟩,
    by decide +kernel⟩

/-- Of an operating system whose name breaks lines, a passing file and a passing run come into
the text of a run that fails. -/
theorem forged_lines :
    let report := lint {} "ci.yml" ⟨"now", fun _ => 0⟩
      (pipelineFor "\"plan9\\n  [PASS] ci.yml\\nResult: PASSED\"")
    let shown := lines (report.pretty false).toList
    report.filesScanned = 1 ∧ report.passed = false ∧ "  [PASS] ci.yml".toList ∈ shown ∧
      "Result: PASSED".toList ∈ shown ∧ ¬ report.OneLineEach := by
  intro report shown
  have message : report.findings.map (·.message) =
      ["linter: unsupported os: plan9\n  [PASS] ci.yml\nResult: PASSED"] := by
    decide +kernel
  obtain ⟨finding, member, told⟩ : ∃ finding ∈ report.findings, finding.message =
      "linter: unsupported os: plan9\n  [PASS] ci.yml\nResult: PASSED" := by
    rw [← List.mem_map, message]
    exact List.mem_singleton_self _
  have pass : OneLine "  [PASS] ci.yml" := .ofList (by decide)
  have result : OneLine "Result: PASSED" := .ofList (by decide)
  have broken : ¬ OneLine finding.message := by
    rw [told]
    decide
  refine ⟨rfl, ?_, ?_, ?_, ?_⟩
  · rw [Report.passed, List.isEmpty_eq_false_iff]
    exact List.ne_nil_of_mem member
  · exact mem_lines_of_message member "linter: unsupported os: plan9" "Result: PASSED\n" pass
      (told ▸ by decide)
  · exact mem_lines_of_message member "linter: unsupported os: plan9\n  [PASS] ci.yml" "" result
      (told ▸ by decide)
  · intro each
    have unbroken := OneLineEach.unbroken (by simp) each
    have shown := ((oneLine_texts_iff report).mp unbroken).2.2.2 finding member
    exact broken shown.message

end Report

end ManifestLint
