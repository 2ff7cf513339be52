import ManifestLint.Proofs.ExitCode
import ManifestLint.Proofs.PrettyReadBack
import ManifestLint.Proofs.RunAccounts
import ManifestLint.Proofs.SarifReadBack

/-!
# All accounts of a run agree

The code of a run, its JSON text, its log for code scanning and its text for readers are
made from different parts of a report.  What is read back from them is one verdict, one set
of numbers, and one outcome for each file.
-/

namespace ManifestLint

open ManifestLint.Text

/-! ## One verdict -/

/-- The JSON text, the line that sums up and the log say the same. -/
structure ReportEntry.AgreesWith (said : ReportEntry) (line : SummaryLine) (log : SarifLog) :
    Prop where
  status : said.status = "passed" ↔ said.passed = true
  verdict : line.verdict = "PASSED" ↔ said.passed = true
  results : log.results = [] ↔ said.passed = true
  filesScanned : line.filesScanned = said.summary.filesScanned
  resourcesLinted : line.resourcesLinted = said.summary.resourcesLinted
  lintErrors : line.lintErrors = said.summary.lintErrors
  parseErrors : line.parseErrors = said.summary.parseErrors
  lintResults : (log.results.filter fun result => result.ruleId ≠ parseErrorRule).length =
    said.summary.lintErrors
  parseResults : (log.results.filter fun result => result.ruleId = parseErrorRule).length =
    said.summary.parseErrors

namespace Report

theorem verdict_eq_iff (report : Report) : report.verdict = "PASSED" ↔ report.passed = true := by
  unfold verdict
  cases report.passed <;> decide

/-- Results that count are the findings that count. -/
theorem length_filter_results (report : Report) (counts : String → Bool) :
    (report.sarifLog.results.filter fun result => counts result.ruleId).length =
      (report.findings.filter fun finding => counts finding.ruleId).length := by
  rw [sarifLog, List.filter_map, List.length_map]
  rfl

theorem entry_agreesWith (report : Report) :
    report.entry.AgreesWith report.summaryEntry report.sarifLog where
  status := report.status_eq_passed_iff
  verdict := report.verdict_eq_iff
  results := by
    rw [sarifLog, List.map_eq_nil_iff]
    exact report.passed_iff.symm
  filesScanned := rfl
  resourcesLinted := rfl
  lintErrors := rfl
  parseErrors := rfl
  lintResults := by
    rw [report.addsUp_entry.lintErrors]
    exact report.length_filter_results fun ruleId => decide (ruleId ≠ parseErrorRule)
  parseResults := by
    rw [report.addsUp_entry.parseErrors]
    exact report.length_filter_results fun ruleId => decide (ruleId = parseErrorRule)

end Report

/-! ## One outcome for each file -/

/-- A file whose line in the text for readers and whose entry in the JSON text tell how
loading and linting it went. -/
structure SourceFile.IsTold (source : SourceFile) (entry : FileEntry) (line : String) : Prop where
  file : entry.file = source.path
  shown : ∃ painted rest, line = "  [" ++ painted ++ "] " ++ source.path ++ rest
  passed : tag? line = some "PASS" ↔ entry.passed = true
  notLoaded : tag? line = some "ERR " ↔
    ∃ error, Manifest.load source.path (some (.file source.content)) = .error error
  otherwise : tag? line = some "FAIL" ↔ entry.passed = false ∧
    ¬ ∃ error, Manifest.load source.path (some (.file source.content)) = .error error

/-- The entries and the lines tell of the files one by one. -/
structure TellFiles (sources : List SourceFile) (entries : List FileEntry) (lines : List String) :
    Prop where
  countEntries : entries.length = sources.length
  countLines : lines.length = sources.length
  each : ∀ (index : Nat) (source : SourceFile), sources[index]? = some source → ∃ entry line,
    entries[index]? = some entry ∧ lines[index]? = some line ∧ source.IsTold entry line

/-- The lines stand in a text one below the other, and if no name breaks a line they are
the seventh line of the text and those that follow it. -/
structure StandIn (fileLines names : List String) (text : String) : Prop where
  together : ∃ front back,
    text = front ++ String.join (fileLines.map (· ++ "\n")) ++ back
  placed : (∀ name ∈ names, OneLine name) → ∀ index line, fileLines[index]? = some line →
    (lines text.toList)[6 + index]? = some line.toList

namespace FileReport

section Lint

variable (trusted : Bool) (path : String) (duration : Nat) (tree : Option Tree)

theorem file_lint : (lint trusted path duration tree).file = path := by
  rw [lint]
  cases Manifest.load path tree <;> rfl

theorem parseFailed_lint_iff :
    (lint trusted path duration tree).parseFailed = true ↔
      ∃ error, Manifest.load path tree = .error error := by
  rw [lint]
  cases Manifest.load path tree with
  | error error => simp [ofLoaded]
  | ok manifest => simp [ofLoaded]

variable {trusted path duration tree} in
/-- A file that is not loaded has a finding. -/
theorem passed_of_parseFailed (failed : (lint trusted path duration tree).parseFailed = true) :
    (lint trusted path duration tree).passed = false := by
  rcases (parseFailed_lint_iff trusted path duration tree).mp failed with ⟨error, notLoaded⟩
  rw [lint, notLoaded]
  rfl

end Lint

theorem tag_eq_pass_iff {result : FileReport}
    (found : result.parseFailed = true → result.passed = false) :
    result.tag = "PASS" ↔ result.passed = true := by
  unfold tag
  cases failed : result.parseFailed with
  | true => simp [found failed]
  | false => cases result.passed <;> decide

theorem tag_eq_err_iff (result : FileReport) :
    result.tag = "ERR " ↔ result.parseFailed = true := by
  unfold tag
  cases result.parseFailed <;> cases result.passed <;> decide

theorem tag_eq_fail_iff {result : FileReport}
    (found : result.parseFailed = true → result.passed = false) :
    result.tag = "FAIL" ↔ result.passed = false ∧ ¬ result.parseFailed = true := by
  unfold tag
  cases failed : result.parseFailed with
  | true => simp [found failed]
  | false => cases result.passed <;> decide

/-- The line and the entry of a file tell how it went. -/
theorem isTold (colored trusted : Bool) (duration : Nat) (source : SourceFile) :
    let result := lint trusted source.path duration (some (.file source.content))
    source.IsTold (.of result) (Report.fileText colored result) := by
  intro result
  have sameFile : result.file = source.path := file_lint trusted source.path duration _
  have found : result.parseFailed = true → result.passed = false := passed_of_parseFailed
  have notLoaded : result.parseFailed = true ↔
      ∃ error, Manifest.load source.path (some (.file source.content)) = .error error :=
    parseFailed_lint_iff trusted source.path duration _
  refine { file := sameFile, shown := ?_, passed := ?_, notLoaded := ?_, otherwise := ?_ }
  · rw [← sameFile]
    exact Report.fileText_shows colored result
  · rw [Report.tag?_fileText, Option.some.injEq]
    exact tag_eq_pass_iff found
  · rw [Report.tag?_fileText, Option.some.injEq, ← notLoaded]
    exact tag_eq_err_iff result
  · rw [Report.tag?_fileText, Option.some.injEq, ← notLoaded]
    exact tag_eq_fail_iff found

end FileReport

namespace Report

variable (config : Config) (path : String) (clock : Clock) (tree : Option Tree)

theorem tellFiles_lint (colored : Bool) :
    TellFiles (config.discovery.discover path tree) (lint config path clock tree).entry.files
      ((lint config path clock tree).files.map (fileText colored)) := by
  rw [entry, (accounts_lint config path clock tree).files]
  constructor
  · rw [List.length_map, List.length_map]
  · rw [List.length_map, List.length_map]
  · intro index source present
    have told := FileReport.isTold colored config.trusted (clock.elapsed source.path) source
    refine ⟨_, _, ?_, ?_, told⟩
    · rw [List.getElem?_map, List.getElem?_map, present]
      rfl
    · rw [List.getElem?_map, List.getElem?_map, present]
      rfl

theorem standIn_lint (colored : Bool) :
    StandIn ((lint config path clock tree).files.map (fileText colored))
      (path :: clock.timestamp :: (config.discovery.discover path tree).map (·.path))
      ((lint config path clock tree).pretty colored) where
  together := ⟨_, _, pretty_eq_lists colored _⟩
  placed := by
    intro names index line present
    simp only [List.forall_mem_cons, List.forall_mem_map] at names
    rcases names with ⟨target, time, files⟩
    have results : ∀ result ∈ (lint config path clock tree).files, OneLine result.file := by
      rw [(accounts_lint config path clock tree).files, List.forall_mem_map]
      intro source member
      rw [FileReport.file_lint]
      exact files source member
    exact getElem?_lines_pretty colored target time results present

end Report

/-! ## The code of a run -/

namespace CommandLine

/-- An accepted command that lints a path under a configuration. -/
structure Lints (system : FileSystem) (arguments : List String) (options : LintOptions)
    (path : String) (config : Config) : Prop where
  accepted : ∃ verbosity, read arguments = .ok ⟨verbosity, .lint options⟩
  path : options.path = path
  config : ∃ stated, Config.InForce system options.config stated ∧ options.apply stated = config

/-- The output that is asked for, if any, can be written. -/
def LintOptions.CanTell (options : LintOptions) (system : FileSystem) : Prop :=
  ∀ output, options.output = some output → system.Writable output

section Run

variable {system : FileSystem} {arguments : List String} {options : LintOptions} {path : String}
  {config : Config} (environment : List (String × String)) (clock : Clock)

/-- A command with files to lint is refused only if it cannot tell the outcome. -/
theorem Lints.refused_iff (lints : Lints system arguments options path config)
    (files : config.discovery.discover path (system.at? path) ≠ []) :
    options.Refused system ↔ ¬ options.CanTell system := by
  rcases lints with ⟨_, rfl, stated, inForce, rfl⟩
  constructor
  · intro refused canTell
    cases there : system.at? options.path with
    | none =>
        rw [there] at files
        exact files rfl
    | some target => exact LintOptions.not_refused there inForce files canTell refused
  · intro cannotTell
    simp only [LintOptions.CanTell, not_forall] at cannotTell
    rcases cannotTell with ⟨output, asked, notWritable⟩
    exact .output asked notWritable

/-- A run that can tell the outcome ends with the code for the verdict of its report, which
it prints unless there is an output. -/
theorem Lints.told (lints : Lints system arguments options path config)
    (files : config.discovery.discover path (system.at? path) ≠ [])
    (canTell : options.CanTell system) :
    let report := Report.lint config path clock (system.at? path)
    let outcome := (run environment clock arguments system).1
    (outcome.code = if report.passed then 0 else 1) ∧
      (options.output = none → outcome.stdout = report.format
        (Surroundings.colored ⟨environment, system.at?, clock⟩) options.format) := by
  have goesOn : ¬ options.Refused system := by
    rw [lints.refused_iff files]
    exact not_not_intro canTell
  rcases lints with ⟨⟨verbosity, accepted⟩, rfl, stated, inForce, rfl⟩
  have ends := run_ends environment clock system accepted
  generalize run environment clock arguments system = result at ends ⊢
  cases ends with
  | refused refused => exact absurd refused goesOn
  | printed _ otherInForce noOutput =>
      obtain rfl := inForce.unique otherInForce
      exact ⟨rfl, fun _ => rfl⟩
  | written _ otherInForce asked written =>
      obtain rfl := inForce.unique otherInForce
      refine ⟨rfl, fun noOutput => ?_⟩
      rw [asked] at noOutput
      cases noOutput

/-- A run that cannot tell the outcome ends with code two. -/
theorem Lints.untold (lints : Lints system arguments options path config)
    (files : config.discovery.discover path (system.at? path) ≠ [])
    (cannotTell : ¬ options.CanTell system) :
    (run environment clock arguments system).1.code = 2 := by
  have refused : options.Refused system := (lints.refused_iff files).mpr cannotTell
  rcases lints with ⟨⟨verbosity, accepted⟩, _, _⟩
  have ends := run_ends environment clock system accepted
  generalize run environment clock arguments system = result at ends ⊢
  cases ends with
  | refused _ => rfl
  | printed goesOn => exact absurd refused goesOn
  | written goesOn => exact absurd refused goesOn

end Run

end CommandLine

/-! ## Main statement -/

/-- What the report of a run says in JSON, in its log, to readers in colours or without, and
by the code of the commands that make such a report is one story; its counts are machine words.
A command whose output cannot be written tells nothing and ends with code two. -/
theorem Report.accounts_agree {config : Config} {path : String} {clock : Clock}
    {system : FileSystem} (files : config.discovery.discover path (system.at? path) ≠ [])
    (counted : (lint config path clock (system.at? path)).IsCounted) :
    let sources := config.discovery.discover path (system.at? path)
    let report := lint config path clock (system.at? path)
    ∃ said log,
      (Json.read report.json).bind ReportEntry.ofJson = some said ∧
      (Json.read report.sarif).bind SarifLog.ofJson = some log ∧
      (∀ colored, ∃ line fileLines,
        SummaryLine.ofText? (report.pretty colored) = some line ∧
        said.AgreesWith line log ∧
        TellFiles sources said.files fileLines ∧
        StandIn fileLines (path :: clock.timestamp :: sources.map (·.path))
          (report.pretty colored)) ∧
      ∀ environment runClock arguments options,
        CommandLine.Lints system arguments options path config →
          let outcome := (CommandLine.run environment runClock arguments system).1
          (options.CanTell system → (outcome.code = 0 ↔ said.passed = true) ∧
            (options.output = none →
              outcome.stdout = (lint config path runClock (system.at? path)).format
                (CommandLine.Surroundings.colored ⟨environment, system.at?, runClock⟩)
                options.format)) ∧
          (¬ options.CanTell system → outcome.code = 2) := by
  intro sources report
  refine ⟨report.entry, report.sarifLog, read_json counted, report.read_sarif, ?_, ?_⟩
  · intro colored
    exact ⟨report.summaryEntry, report.files.map (fileText colored),
      report.ofText?_pretty colored, report.entry_agreesWith,
      tellFiles_lint config path clock _ colored,
      standIn_lint config path clock _ colored⟩
  · intro environment runClock arguments options lints outcome
    constructor
    · intro canTell
      rcases lints.told environment runClock files canTell with ⟨code, printed⟩
      refine ⟨?_, printed⟩
      -- The verdict of the run does not depend on its times.
      have verdict : (lint config path runClock (system.at? path)).passed = true ↔
          report.passed = true := by
        rw [lint_passed_iff, lint_passed_iff]
      change outcome.code = 0 ↔ report.passed = true
      rw [show outcome.code = _ from code, ← verdict]
      cases (lint config path runClock (system.at? path)).passed <;> decide
    · exact lints.untold environment runClock files

/-- The entries of a directory with an empty file and a file that is no text. -/
def mixedFiles : List (String × Tree) :=
  [("a.yml", .file .empty), ("b.yml", .file ⟨#[0xFF]⟩)]

/-- The directory below the root, with another one to work in. -/
def mixedSystem : FileSystem where
  root := .directory [("ci", .directory mixedFiles), ("home", .directory [])]
  workingDirectory := ["home"]
  isThere := ⟨_, rfl⟩

theorem discover_mixedFiles :
    ({} : Config).discovery.discover "/ci" (some (.directory mixedFiles)) =
      [⟨"/ci/a.yml", .empty⟩, ⟨"/ci/b.yml", ⟨#[0xFF]⟩⟩] := by
  have sorted : (({} : Config).discovery.filesIn "/ci" mixedFiles).Pairwise fun left right =>
      Path.precedes left.path right.path = true := by
    decide +kernel
  exact Discovery.discover_of_sorted _ sorted

theorem files_mixedFiles (clock : Clock) :
    (Report.lint {} "/ci" clock (some (.directory mixedFiles))).files =
      [.ofLoaded false "/ci/a.yml" (clock.elapsed "/ci/a.yml") (.ok ⟨[]⟩),
        .ofLoaded false "/ci/b.yml" (clock.elapsed "/ci/b.yml")
          (.error (.read "/ci/b.yml" .notText))] := by
  have empty : Manifest.load "/ci/a.yml" (some (.file .empty)) = .ok ⟨[]⟩ := by
    rfl
  have noText : Manifest.load "/ci/b.yml" (some (.file ⟨#[0xFF]⟩)) =
      .error (.read "/ci/b.yml" .notText) := rfl
  rw [(Report.accounts_lint _ _ _ _).files, discover_mixedFiles, List.map_cons, List.map_cons,
    FileReport.lint, FileReport.lint, empty, noText]
  rfl

theorem isCounted_mixedFiles :
    (Report.lint {} "/ci" ⟨"now", String.length⟩ (some (.directory mixedFiles))).IsCounted := by
  have files := files_mixedFiles ⟨"now", String.length⟩
  constructor
  · rw [files]
    decide
  · rw [Report.findings, files]
    decide
  · rw [Report.resourcesLinted, files]
    decide
  · rw [files]
    decide
  · rw [Report.findings, files]
    simp [FileReport.ofLoaded, Finding.ofResources, Finding.ofLoadError, LoadError.document?]

theorem Report.accounts_agree_mixedFiles :
    ({} : Config).discovery.discover "/ci" (mixedSystem.at? "/ci") ≠ [] ∧
      (lint {} "/ci" ⟨"now", String.length⟩ (mixedSystem.at? "/ci")).IsCounted ∧
      CommandLine.Lints mixedSystem ["lint", "/ci"] { path := "/ci" } "/ci" {} ∧
      ∃ said log,
        (Json.read (lint {} "/ci" ⟨"now", String.length⟩ (mixedSystem.at? "/ci")).json).bind
          ReportEntry.ofJson = some said ∧
        (Json.read (lint {} "/ci" ⟨"now", String.length⟩ (mixedSystem.at? "/ci")).sarif).bind
          SarifLog.ofJson = some log ∧
        said.passed = false ∧ log.results ≠ [] ∧
        (CommandLine.run [] ⟨"later", fun _ => 0⟩ ["lint", "/ci"] mixedSystem).1.code ≠ 0 := by
  have there : mixedSystem.at? "/ci" = some (.directory mixedFiles) := rfl
  have files : ({} : Config).discovery.discover "/ci" (mixedSystem.at? "/ci") ≠ [] := by
    rw [there, discover_mixedFiles]
    exact List.cons_ne_nil _ _
  have counted : (lint {} "/ci" ⟨"now", String.length⟩ (mixedSystem.at? "/ci")).IsCounted :=
    isCounted_mixedFiles
  have lints : CommandLine.Lints mixedSystem ["lint", "/ci"] { path := "/ci" } "/ci" {} :=
    ⟨⟨0, rfl⟩, rfl, {}, .defaults rfl, rfl⟩
  rcases accounts_agree files counted with ⟨said, log, json, sarif, texts, codes⟩
  rcases texts false with ⟨line, fileLines, _, agrees, tell, _⟩
  -- The second entry is that of the file that is no text.
  have failed : said.passed = false := by
    rw [read_json counted, Option.some.injEq] at json
    rw [← json]
    change (lint {} "/ci" ⟨"now", String.length⟩ (some (.directory mixedFiles))).findings.isEmpty =
      false
    rw [Report.findings, files_mixedFiles]
    rfl
  have canTell : CommandLine.LintOptions.CanTell { path := "/ci" } mixedSystem := by
    intro output asked
    cases asked
  have code :=
    ((codes [] ⟨"later", fun _ => 0⟩ ["lint", "/ci"] { path := "/ci" } lints).1 canTell).1
  rw [failed] at code
  have results := agrees.results
  rw [failed] at results
  exact ⟨files, counted, lints, said, log, json, sarif, failed, by simpa using results,
    by simpa using code⟩

/-- A working directory with a file that has no documents. -/
def cleanSystem : FileSystem where
  root := .directory [("home", .directory [("clean.yml", .file .empty)])]
  workingDirectory := ["home"]
  isThere := ⟨_, rfl⟩

/-- A file without documents passes, but the run that is to write this where nothing can
be written does not end with code zero. -/
theorem CommandLine.passed_untold :
    let arguments := ["lint", "clean.yml", "--format", "json", "--output", "missing/report.json"]
    let clock : Clock := ⟨"now", fun _ => 0⟩
    let report := Report.lint {} "clean.yml" clock (cleanSystem.at? "clean.yml")
    ({} : Config).discovery.discover "clean.yml" (cleanSystem.at? "clean.yml") ≠ [] ∧
      (∃ options, Lints cleanSystem arguments options "clean.yml" {}) ∧
      ∃ said, (Json.read report.json).bind ReportEntry.ofJson = some said ∧
        said.passed = true ∧
        ¬ ((run [] clock arguments cleanSystem).1.code = 0 ↔ said.passed = true) := by
  intro arguments clock report
  have files : ({} : Config).discovery.discover "clean.yml" (cleanSystem.at? "clean.yml") ≠ [] :=
    nofun
  have lints : Lints cleanSystem arguments
      { path := "clean.yml", format := .json, output := some "missing/report.json" }
      "clean.yml" {} :=
    ⟨⟨0, rfl⟩, rfl, {}, .defaults rfl, rfl⟩
  have cannotTell : ¬ LintOptions.CanTell
      { path := "clean.yml", format := .json, output := some "missing/report.json" }
      cleanSystem := by
    intro canTell
    rcases canTell _ rfl with ⟨content, changed, written⟩
    cases written
  have clean : report.files = [.ofLoaded false "clean.yml" 0 (.ok ⟨[]⟩)] := by decide +kernel
  have passed : report.passed = true := by
    rw [Report.passed, Report.findings, clean]
    rfl
  have counted : report.IsCounted := by
    have noFindings := report.passed_iff.mp passed
    constructor
    · rw [clean]
      decide
    · rw [noFindings]
      decide
    · rw [Report.resourcesLinted, clean]
      decide
    · rw [clean]
      decide
    · simp [noFindings]
  refine ⟨files, ⟨_, lints⟩, report.entry, Report.read_json counted, passed, ?_⟩
  rw [lints.untold [] clock files cannotTell]
  change ¬ ((2 : UInt32) = 0 ↔ report.passed = true)
  rw [passed]
  decide

end ManifestLint
