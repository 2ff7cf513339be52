import ManifestLint.Proofs.ReadBackJson
import ManifestLint.Proofs.StyledText

/-!
# Reports for readers are read back

The last line of the text for readers gives the verdict and the numbers of a report.  The
files have one line each, in their order, and the line of a file begins with its tag.
None of this depends on whether the text is in colours.
-/

namespace ManifestLint

open ManifestLint.Text

/-! ## What is read from the text -/

/-- What the line that sums up says. -/
structure SummaryLine where
  verdict : String
  filesScanned : Nat
  resourcesLinted : Nat
  lintErrors : Nat
  parseErrors : Nat

/-- The number that a word of digits writes. -/
def number? (word : String) : Option Nat :=
  let digits := word.toList
  if !digits.isEmpty && digits.all Char.isDigit then some (Number.decimalValue digits) else none

theorem number?_toString (n : Nat) : number? (toString n) = some n := by
  have digits : (toString n).toList = Nat.toDigits 10 n := by
    rw [Nat.toString_eq_ofList_toDigits, String.toList_ofList]
  have written : (!(Nat.toDigits 10 n).isEmpty && (Nat.toDigits 10 n).all Char.isDigit) = true := by
    rw [← digits, Bool.and_eq_true, Bool.not_eq_true', List.isEmpty_eq_false_iff, List.all_eq_true]
    exact ⟨digits ▸ Nat.toDigits_ne_nil, fun _ => isDigit_of_mem_toString⟩
  rw [number?, digits, if_pos written, Json.decimalValue_toDigits]

namespace SummaryLine

/-- Read the words of a line that sums up. -/
def ofWords? : List String → Option SummaryLine
  | ["Result:", verdict, "", "|", "", files, "files,", resources, "resources,",
      lintErrors, "lint", "errors,", parseErrors, "parse", "errors"] => do
      return {
        verdict
        filesScanned := ← number? files
        resourcesLinted := ← number? resources
        lintErrors := ← number? lintErrors
        parseErrors := ← number? parseErrors }
  | _ => none

/-- Read what the last line of a text says behind its styles. -/
def ofText? (text : String) : Option SummaryLine := do
  let line ← (lines text.toList).getLast?
  ofWords? (words (unstyled line))

end SummaryLine

/-- The tag between the brackets that the line of a file begins with, behind its styles. -/
def tag? (line : String) : Option String :=
  match unstyled line.toList with
  | ' ' :: ' ' :: '[' :: first :: second :: third :: fourth :: ']' :: ' ' :: _ =>
      some (.ofList [first, second, third, fourth])
  | _ => none

/-- The tag that a file is to have. -/
def FileReport.tag (result : FileReport) : String :=
  if result.parseFailed then "ERR "
  else if result.passed then "PASS"
  else "FAIL"

namespace Report

/-- The word for the outcome on the line that sums up. -/
def verdict (report : Report) : String :=
  if report.passed then "PASSED" else "FAILED"

/-- What the line that sums up is to say. -/
def summaryEntry (report : Report) : SummaryLine where
  verdict := report.verdict
  filesScanned := report.filesScanned
  resourcesLinted := report.resourcesLinted
  lintErrors := report.counts.lintErrors
  parseErrors := report.counts.parseErrors

/-! ## The line that sums up -/

/-- The verdict as it is painted. -/
def paintedVerdict (colored : Bool) (report : Report) : String :=
  paint colored (if report.passed then .green else .red) 0 report.verdict

/-- The numbers on the line that sums up. -/
def numbersText (report : Report) : String :=
  "  |  " ++ toString report.filesScanned ++ " files, " ++
    toString report.resourcesLinted ++ " resources, " ++
    toString report.counts.lintErrors ++ " lint errors, " ++
    toString report.counts.parseErrors ++ " parse errors"

/-- The words on the line that sums up. -/
def summaryWords (report : Report) : List String :=
  ["Result:", report.verdict, "", "|", "", toString report.filesScanned, "files,",
    toString report.resourcesLinted, "resources,", toString report.counts.lintErrors, "lint",
    "errors,", toString report.counts.parseErrors, "parse", "errors"]

theorem summaryLine_eq (colored : Bool) (report : Report) :
    summaryLine colored report =
      "Result: " ++ report.paintedVerdict colored ++ report.numbersText ++ "\n" := by
  have painted : (if report.passed then paint colored .green 0 "PASSED"
      else paint colored .red 0 "FAILED") = report.paintedVerdict colored := by
    rw [paintedVerdict, verdict]
    cases report.passed <;> rfl
  have ended : " parse errors\n" = " parse errors" ++ "\n" := rfl
  unfold summaryLine numbersText
  simp only [painted, ended, String.append_assoc]

theorem noControls_verdict (report : Report) : NoControls report.verdict := by
  unfold verdict
  cases report.passed <;> decide

theorem noControls_numbersText (report : Report) : NoControls report.numbersText := by
  have blank : NoControls "  |  " := .ofList (by decide)
  have files : NoControls " files, " := .ofList (by decide)
  have resources : NoControls " resources, " := .ofList (by decide)
  have lintErrors : NoControls " lint errors, " := .ofList (by decide)
  have parseErrors : NoControls " parse errors" := .ofList (by decide)
  exact (((((((blank.append (noControls_toString _)).append files).append
    (noControls_toString _)).append resources).append (noControls_toString _)).append
    lintErrors).append (noControls_toString _)).append parseErrors

/-- Behind its styles the line is made of its words. -/
theorem unstyled_summary (colored : Bool) (report : Report) :
    unstyled ("Result: " ++ report.paintedVerdict colored ++ report.numbersText).toList =
      (" ".intercalate report.summaryWords).toList := by
  have plain : '\x1b' ∉ "Result: ".toList := by decide
  have shown : padRight 0 report.verdict.toList = report.verdict.toList := by
    rw [padRight, Nat.zero_sub, List.replicate_zero, List.append_nil]
  rw [String.append_assoc, String.toList_append, String.toList_append, unstyled_append plain,
    paintedVerdict, unstyled_paint colored _ 0 report.noControls_verdict.noEscape, shown,
    unstyled_of_not_mem report.noControls_numbersText.noEscape]
  unfold numbersText summaryWords
  simp only [String.intercalate_cons_cons, String.intercalate_singleton]
  simp

theorem words_summary (report : Report) :
    words (" ".intercalate report.summaryWords).toList = report.summaryWords := by
  have number (n : Nat) : ' ' ∉ (toString n).toList := by
    intro member
    exact absurd (isDigit_of_mem_toString member) (by decide)
  have verdict : ' ' ∉ report.verdict.toList := by
    unfold Report.verdict
    cases report.passed <;> decide
  apply words_intercalate (List.cons_ne_nil _ _)
  simp only [List.forall_mem_cons, number, verdict, not_false_eq_true, true_and]
  decide

theorem ofWords?_summary (report : Report) :
    SummaryLine.ofWords? report.summaryWords = some report.summaryEntry := by
  simp only [summaryWords, SummaryLine.ofWords?, number?_toString]
  rfl

/-- A line feed stands before the line that sums up. -/
theorem pretty_eq_append (colored : Bool) (report : Report) : ∃ before,
    report.pretty colored = before ++ "\n" ++ summaryLine colored report := by
  unfold pretty findingsPart
  split
  · rw [String.append_empty]
    exact ⟨_, rfl⟩
  · rw [← String.append_assoc, ← String.append_assoc]
    exact ⟨_, rfl⟩

/-- The last line of the text for readers sums the report up. -/
theorem ofText?_pretty (colored : Bool) (report : Report) :
    SummaryLine.ofText? (report.pretty colored) = some report.summaryEntry := by
  have start : OneLine "Result: " := .ofList (by decide)
  have single : OneLine ("Result: " ++ report.paintedVerdict colored ++ report.numbersText) :=
    (start.append (report.noControls_verdict.oneLine.paint colored _ 0)).append
      report.noControls_numbersText.oneLine
  rcases pretty_eq_append colored report with ⟨before, text⟩
  have lineFeed : "\n".toList = ['\n'] := rfl
  have placed := getLast?_lines before.toList single
  rw [← List.singleton_append, ← lineFeed, ← String.toList_append, ← String.toList_append,
    ← String.toList_append, ← String.append_assoc, ← summaryLine_eq, ← text] at placed
  rw [SummaryLine.ofText?, placed]
  change SummaryLine.ofWords? (words (unstyled _)) = _
  rw [unstyled_summary, words_summary, ofWords?_summary]

/-! ## The lines of files -/

/-- The line of a file up to its end. -/
def fileText (colored : Bool) (result : FileReport) : String :=
  "  [" ++ fileTag colored result ++ "] " ++
    String.ofList (padRight fileWidth result.file.toList) ++ " " ++
    paint colored .dimmed 0 (toString result.resourcesLinted ++ " resources, " ++
      toString result.findings.length ++ " findings")

theorem fileLine_eq (colored : Bool) (result : FileReport) :
    fileLine colored result = fileText colored result ++ "\n" := by
  unfold fileLine fileText
  rfl

/-- The style of a file's tag. -/
def tagStyle (result : FileReport) : Style :=
  if result.parseFailed then .red
  else if result.passed then .green
  else .red

theorem fileTag_eq (colored : Bool) (result : FileReport) :
    fileTag colored result = paint colored (tagStyle result) 0 result.tag := by
  unfold fileTag tagStyle FileReport.tag
  cases result.parseFailed <;> cases result.passed <;> rfl

theorem noControls_tag (result : FileReport) : NoControls result.tag := by
  unfold FileReport.tag
  cases result.parseFailed <;> cases result.passed <;> decide

/-- The numbers on the line of a file are without controls. -/
theorem noControls_detail (result : FileReport) :
    NoControls (toString result.resourcesLinted ++ " resources, " ++
      toString result.findings.length ++ " findings") := by
  have resources : NoControls " resources, " := .ofList (by decide)
  have findings : NoControls " findings" := .ofList (by decide)
  exact (((noControls_toString _).append resources).append (noControls_toString _)).append findings

/-- Behind its styles the line of a file begins with the tag of the file. -/
theorem tag?_fileText (colored : Bool) (result : FileReport) :
    tag? (fileText colored result) = some result.tag := by
  have plain : '\x1b' ∉ "  [".toList := by decide
  have closing : '\x1b' ∉ "] ".toList := by decide
  have shown : padRight 0 result.tag.toList = result.tag.toList := by
    rw [padRight, Nat.zero_sub, List.replicate_zero, List.append_nil]
  have start : ∃ rest, unstyled (fileText colored result).toList =
      "  [".toList ++ (result.tag.toList ++ ("] ".toList ++ rest)) := by
    unfold fileText
    simp only [String.append_assoc]
    rw [String.toList_append, unstyled_append plain, String.toList_append, fileTag_eq,
      unstyled_paint colored _ 0 (noControls_tag result).noEscape, shown, String.toList_append,
      unstyled_append closing]
    exact ⟨_, rfl⟩
  rcases start with ⟨rest, start⟩
  rw [tag?, start, FileReport.tag]
  cases result.parseFailed <;> cases result.passed <;> rfl

/-- The line of a file shows the file behind the tag. -/
theorem fileText_shows (colored : Bool) (result : FileReport) : ∃ painted rest,
    fileText colored result = "  [" ++ painted ++ "] " ++ result.file ++ rest := by
  have padded : String.ofList (padRight fileWidth result.file.toList) =
      result.file ++ String.ofList (List.replicate (fileWidth - result.file.length) ' ') := by
    rw [padRight, String.ofList_append, String.ofList_toList, String.length_toList]
  unfold fileText
  rw [padded]
  simp only [String.append_assoc]
  exact ⟨_, _, rfl⟩

/-- The lines above those of the files. -/
def headLines (colored : Bool) (report : Report) : List String :=
  ["", paint colored .title 0 ("  Pipeline Lint: " ++ report.target ++ "  "),
    "  Timestamp: " ++ report.timestamp, "  Trusted:   " ++ toString report.trusted, "",
    paint colored .heading 0 "Files"]

/-- The text below the lines of the files. -/
def foot (colored : Bool) (report : Report) : String :=
  "\n" ++ findingsPart colored report.findings ++ summaryLine colored report

/-- The files have one line each between the head and the foot of the text. -/
theorem pretty_eq_lists (colored : Bool) (report : Report) :
    report.pretty colored =
      String.join ((headLines colored report).map (· ++ "\n")) ++
        String.join ((report.files.map (fileText colored)).map (· ++ "\n")) ++
        report.foot colored := by
  have lines : (report.files.map (fileText colored)).map (· ++ "\n") =
      report.files.map (fileLine colored) := by
    rw [List.map_map]
    exact List.map_congr_left fun result _ => (fileLine_eq colored result).symm
  have twice : "\n\n" = "\n" ++ "\n" := rfl
  rw [lines]
  unfold pretty headLines foot
  simp only [twice, List.map_cons, List.map_nil, String.join_cons, String.join_nil,
    String.empty_append, String.append_empty, String.append_assoc]

theorem oneLine_fileText (colored : Bool) {result : FileReport} (file : OneLine result.file) :
    OneLine (fileText colored result) := by
  have start : OneLine "  [" := .ofList (by decide)
  have closing : OneLine "] " := .ofList (by decide)
  have blank : OneLine " " := .ofList (by decide)
  have tag : OneLine (fileTag colored result) := by
    rw [fileTag_eq]
    exact (noControls_tag result).oneLine.paint colored _ 0
  have padded : OneLine (String.ofList (padRight fileWidth result.file.toList)) := by
    rw [OneLine, String.toList_ofList]
    exact file.padRight fileWidth
  exact ((((start.append tag).append closing).append padded).append blank).append
    ((noControls_detail result).oneLine.paint colored .dimmed 0)

theorem oneLine_headLines (colored : Bool) {report : Report} (target : OneLine report.target)
    (timestamp : OneLine report.timestamp) : ∀ line ∈ headLines colored report, OneLine line := by
  have empty : OneLine "" := .ofList (by decide)
  have before : OneLine "  Pipeline Lint: " := .ofList (by decide)
  have behind : OneLine "  " := .ofList (by decide)
  have title := ((before.append target).append behind).paint colored .title 0
  have time : OneLine "  Timestamp: " := .ofList (by decide)
  have trusted : OneLine ("  Trusted:   " ++ toString report.trusted) := by
    cases report.trusted <;> decide
  have heading : OneLine "Files" := .ofList (by decide)
  simp only [headLines, List.forall_mem_cons]
  exact ⟨empty, title, time.append timestamp, trusted, empty, heading.paint colored .heading 0,
    List.forall_mem_nil _⟩

/-- If no name has a line feed, the lines of the files stand in order behind the lines of
the head. -/
theorem lines_pretty (colored : Bool) {report : Report} (target : OneLine report.target)
    (timestamp : OneLine report.timestamp)
    (files : ∀ result ∈ report.files, OneLine result.file) :
    lines (report.pretty colored).toList =
      (headLines colored report).map String.toList ++
        ((report.files.map (fileText colored)).map String.toList ++
          lines (report.foot colored).toList) := by
  rw [pretty_eq_lists, String.toList_append, String.toList_append, List.append_assoc, lines_join,
    lines_join]
  · rw [List.forall_mem_map]
    exact fun result member => oneLine_fileText colored (files result member)
  · exact oneLine_headLines colored target timestamp

/-- If no name has a line feed, the line of the first file is the seventh. -/
theorem getElem?_lines_pretty (colored : Bool) {report : Report} (target : OneLine report.target)
    (timestamp : OneLine report.timestamp)
    (files : ∀ result ∈ report.files, OneLine result.file) {index : Nat} {line : String}
    (present : (report.files.map (fileText colored))[index]? = some line) :
    (lines (report.pretty colored).toList)[6 + index]? = some line.toList := by
  have head : ((headLines colored report).map String.toList).length = 6 := rfl
  have below : ((headLines colored report).map String.toList).length ≤ 6 + index := by omega
  have inside : index < ((report.files.map (fileText colored)).map String.toList).length := by
    rw [List.length_map]
    exact (List.getElem?_eq_some_iff.mp present).1
  rw [lines_pretty colored target timestamp files, List.getElem?_append_right below, head,
    Nat.add_sub_cancel_left, List.getElem?_append_left inside, List.getElem?_map, present]
  rfl

end Report

end ManifestLint
