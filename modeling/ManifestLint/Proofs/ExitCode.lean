import ManifestLint.CommandLine.Program
import ManifestLint.Proofs.LintCall

/-!
# The outcome of a lint run

A run ends with code two if it cannot lint or cannot tell the outcome, with code
zero if every file can be loaded and every resource in it is accepted, and with
code one otherwise.  The report is printed or written, never both, and a run
that ends with code two prints nothing.
-/

namespace ManifestLint

/-! ## The configuration of a run -/

namespace Config

/-- The file that the configuration of a run is read from: the one that is asked
for, or the default file if it is there. -/
def file? (system : FileSystem) : Option String → Option String
  | some path => some path
  | none => if (system.at? defaultFile).isSome then some defaultFile else none

/-- The configuration of a run: that of the file, or the defaults without a
file. -/
inductive InForce (system : FileSystem) (asked : Option String) : Config → Prop where
  | defaults (noFile : file? system asked = none) : InForce system asked {}
  | read {path text : String} {config : Config}
      (file : file? system asked = some path)
      (readable : Tree.text? (system.at? path) = .ok text)
      (valid : Config.read text = .ok config) : InForce system asked config

/-- The file of the configuration is missing, is no text, or is not valid. -/
inductive Unusable (system : FileSystem) (asked : Option String) : Prop where
  | missing {path : String} (file : file? system asked = some path)
      (nothing : system.at? path = none)
  | unreadable {path : String} {error : ReadError} (file : file? system asked = some path)
      (noText : Tree.text? (system.at? path) = .error error)
  | invalid {path text : String} {fault : Toml.Fault} (file : file? system asked = some path)
      (readable : Tree.text? (system.at? path) = .ok text)
      (refused : Config.read text = .error fault)

/-- Loading reads the file of the configuration unless there is none. -/
theorem load_eq (system : FileSystem) (asked : Option String) :
    load system.at? asked =
      match file? system asked with
      | none => .ok {}
      | some path =>
          if (system.at? path).isSome then loadFile system.at? path
          else .error (.notFound path) := by
  cases asked with
  | some path =>
      by_cases found : (system.at? path).isSome
      · simp only [load, source, file?, found, if_true]
        rfl
      · simp only [load, source, file?, if_neg found]
        rfl
  | none =>
      by_cases found : (system.at? defaultFile).isSome
      · simp only [load, source, file?, found, if_true]
        rfl
      · simp only [load, source, file?, if_neg found]
        rfl

theorem isSome_of_text?_eq_ok {there : Option Tree} {text : String}
    (readable : Tree.text? there = .ok text) : there.isSome = true := by
  cases there with
  | none => contradiction
  | some tree => rfl

/-- A configuration is loaded exactly if it is in force. -/
theorem load_eq_ok_iff (system : FileSystem) (asked : Option String) (config : Config) :
    load system.at? asked = .ok config ↔ InForce system asked config := by
  rw [load_eq]
  constructor
  · intro loaded
    cases file : file? system asked with
    | none =>
        rw [file] at loaded
        cases loaded
        exact .defaults file
    | some path =>
        simp only [file] at loaded
        split at loaded
        · unfold loadFile at loaded
          split at loaded
          · contradiction
          · rename_i text readable
            split at loaded
            · contradiction
            · rename_i valid
              exact .read file readable (Except.ok.inj loaded ▸ valid)
        · contradiction
  · intro inForce
    cases inForce with
    | defaults noFile => rw [noFile]
    | read file readable valid =>
        simp [file, isSome_of_text?_eq_ok readable, loadFile, readable, valid]

/-- At most one configuration is in force. -/
theorem InForce.unique {system : FileSystem} {asked : Option String} {config other : Config}
    (inForce : InForce system asked config) (otherInForce : InForce system asked other) :
    config = other := by
  rw [← load_eq_ok_iff] at inForce otherInForce
  rw [inForce] at otherInForce
  exact Except.ok.inj otherInForce

/-- Loading fails exactly if the file of the configuration is unusable. -/
theorem load_eq_error_iff (system : FileSystem) (asked : Option String) :
    (∃ error, load system.at? asked = .error error) ↔ Unusable system asked := by
  rw [load_eq]
  constructor
  · rintro ⟨error, failed⟩
    cases file : file? system asked with
    | none =>
        rw [file] at failed
        contradiction
    | some path =>
        simp only [file] at failed
        split at failed
        · unfold loadFile at failed
          split at failed
          · rename_i readError noText
            exact .unreadable file noText
          · rename_i text readable
            split at failed
            · rename_i fault refused
              exact .invalid file readable refused
            · contradiction
        · rename_i nothing
          exact .missing file (by simpa using nothing)
  · intro unusable
    cases unusable with
    | missing file nothing => simp [file, nothing]
    | @unreadable path error file noText =>
        rw [file]
        by_cases there : (system.at? path).isSome
        · exact ⟨.unreadable path error, by simp [there, loadFile, noText]⟩
        · exact ⟨.notFound path, by simp [there]⟩
    | @invalid path text fault file readable refused =>
        exact ⟨.malformed path text fault, by
          simp [file, isSome_of_text?_eq_ok readable, loadFile, readable, refused]⟩

/-- What is loaded has a source. -/
theorem source_of_load_eq_ok {at? : String → Option Tree} {asked : Option String}
    {config : Config} (loaded : load at? asked = .ok config) :
    ∃ path, source at? asked = .ok path := by
  cases found : source at? asked with
  | ok path => exact ⟨path, rfl⟩
  | error error =>
      rw [load, found] at loaded
      contradiction

end Config

/-! ## Verdicts on files -/

/-- A file without findings could be loaded, and all of its resources are
accepted. -/
theorem Finding.ofResources_eq_nil_iff (trusted : Bool) (file : String) (index : Nat)
    (resources : List Resource) :
    ofResources trusted file index resources = [] ↔
      ∀ resource ∈ resources, resource.check trusted = .ok () := by
  induction resources generalizing index with
  | nil => simp [ofResources]
  | cons resource rest ih =>
      cases verdict : resource.check trusted with
      | ok accepted => simp [ofResources, verdict, ih]
      | error violation => simp [ofResources, verdict]

theorem FileReport.ofLoaded_findings_eq_nil_iff (trusted : Bool) (file : String) (duration : Nat)
    (loaded : Except LoadError Manifest) :
    (FileReport.ofLoaded trusted file duration loaded).findings = [] ↔
      ∃ manifest, loaded = .ok manifest ∧
        ∀ resource ∈ manifest.resources, resource.check trusted = .ok () := by
  cases loaded with
  | error error => simp [ofLoaded]
  | ok manifest => simp [ofLoaded, Finding.ofResources_eq_nil_iff]

/-- A report is passed if each file that was found could be loaded and has
nothing but accepted resources. -/
theorem Report.lint_passed_iff (config : Config) (path : String) (clock : Clock)
    (tree : Option Tree) :
    (Report.lint config path clock tree).passed = true ↔
      ∀ source ∈ config.discovery.discover path tree, ∃ manifest,
        Manifest.load source.path (some (.file source.content)) = .ok manifest ∧
          ∀ resource ∈ manifest.resources, resource.check config.trusted = .ok () := by
  simp [passed, findings, lint, ofLoaded, LoadedFile.all, FileReport.ofLoaded_findings_eq_nil_iff]

/-! ## Outcomes -/

namespace CommandLine

namespace LintOptions

/-- A configuration with the trust that the options ask for. -/
def apply (options : LintOptions) (config : Config) : Config :=
  { config with trusted := options.trusted || config.trusted }

/-- The report of a run under a configuration. -/
def report (options : LintOptions) (clock : Clock) (system : FileSystem) (config : Config) :
    Report :=
  .lint (options.apply config) options.path clock (system.at? options.path)

/-- The text of the report. -/
def reportText (options : LintOptions) (environment : List (String × String))
    (clock : Clock) (system : FileSystem) (config : Config) : String :=
  (options.report clock system config).format
    (Surroundings.colored ⟨environment, system.at?, clock⟩) options.format

/-- The reasons for which a run cannot lint or cannot tell the outcome. -/
inductive Refused (system : FileSystem) (options : LintOptions) : Prop where
  | path (nothing : system.at? options.path = none)
  | configuration (unusable : Config.Unusable system options.config)
  | files {config : Config} (inForce : Config.InForce system options.config config)
      (nothing : config.discovery.discover options.path (system.at? options.path) = [])
  | output {path : String} (asked : options.output = some path)
      (notWritable : ¬ system.Writable path)

/-- Each file that is found can be loaded, and all resources in it are
accepted. -/
def Passes (system : FileSystem) (options : LintOptions) : Prop :=
  ∀ config, Config.InForce system options.config config →
    ∀ source ∈ config.discovery.discover options.path (system.at? options.path), ∃ manifest,
      Manifest.load source.path (some (.file source.content)) = .ok manifest ∧
        ∀ resource ∈ manifest.resources,
          resource.check (options.trusted || config.trusted) = .ok ()

/-- The configuration in force is the only one. -/
theorem passes_iff {system : FileSystem} {options : LintOptions} {config : Config}
    (inForce : Config.InForce system options.config config) (clock : Clock) :
    options.Passes system ↔ (options.report clock system config).passed = true := by
  rw [report, Report.lint_passed_iff]
  constructor
  · intro passes
    exact passes config inForce
  · intro passed other otherInForce
    obtain rfl := inForce.unique otherInForce
    exact passed

/-- A run that finds a path, a configuration, and files, and that can write its
output, is not refused. -/
theorem not_refused {system : FileSystem} {there : Tree} {options : LintOptions} {config : Config}
    (path : system.at? options.path = some there)
    (inForce : Config.InForce system options.config config)
    (files : config.discovery.discover options.path (system.at? options.path) ≠ [])
    (output : ∀ path, options.output = some path → system.Writable path) :
    ¬ options.Refused system := by
  intro refused
  cases refused with
  | path nothing => simp [path] at nothing
  | configuration unusable =>
      obtain ⟨error, failed⟩ := (Config.load_eq_error_iff system options.config).mpr unusable
      rw [(Config.load_eq_ok_iff system options.config config).mpr inForce] at failed
      contradiction
  | files otherInForce nothing =>
      obtain rfl := inForce.unique otherInForce
      exact files nothing
  | output asked notWritable => exact notWritable (output _ asked)

/-- The ways in which a run ends: it is refused, it prints the report, or it
writes the report. -/
inductive Ends (environment : List (String × String)) (clock : Clock)
    (system : FileSystem) (options : LintOptions) : Outcome × FileSystem → Prop where
  | refused {log : String} (refused : options.Refused system) :
      Ends environment clock system options (⟨2, "", log⟩, system)
  | printed {config : Config} {log : String} (goesOn : ¬ options.Refused system)
      (inForce : Config.InForce system options.config config)
      (noOutput : options.output = none) :
      Ends environment clock system options
        (⟨if (options.report clock system config).passed then 0 else 1,
          options.reportText environment clock system config, log⟩, system)
  | written {config : Config} {log path : String} {changed : FileSystem}
      (goesOn : ¬ options.Refused system)
      (inForce : Config.InForce system options.config config)
      (asked : options.output = some path)
      (written : system.write path
        (options.reportText environment clock system config).toUTF8 = .ok changed) :
      Ends environment clock system options
        (⟨if (options.report clock system config).passed then 0 else 1, "", log⟩, changed)

end LintOptions

/-- With an output the text of the report is written, and the code depends on
whether that fails. -/
theorem tell_of_output {surroundings : Surroundings} {log path : String} {options : LintOptions}
    {report : Report} (asked : options.output = some path) :
    ∃ ending,
      tell surroundings log options report =
          .write path (report.format surroundings.colored options.format) ending ∧
        (∃ log, ending none = ⟨if report.passed then 0 else 1, "", log⟩) ∧
        ∀ reason, ∃ log, ending (some reason) = ⟨2, "", log⟩ := by
  unfold tell
  rw [asked]
  exact ⟨_, rfl, ⟨_, rfl⟩, fun reason => ⟨_, rfl⟩⟩

/-- Telling the outcome ends a run in one of the ways. -/
theorem tell_ends {environment : List (String × String)} {clock : Clock}
    {log : String} {system : FileSystem} {target : Tree} {options : LintOptions} {config : Config}
    (path : system.at? options.path = some target)
    (inForce : Config.InForce system options.config config)
    (files : config.discovery.discover options.path (system.at? options.path) ≠ []) :
    options.Ends environment clock system
      ((tell ⟨environment, system.at?, clock⟩ log options
        (options.report clock system config)).carryOut system) := by
  cases asked : options.output with
  | none =>
      have goesOn : ¬ options.Refused system := by
        refine LintOptions.not_refused path inForce files fun path output => ?_
        rw [asked] at output
        contradiction
      unfold tell
      rw [asked]
      exact .printed goesOn inForce asked
  | some output =>
      obtain ⟨ending, planned, ⟨successLog, success⟩, failure⟩ := tell_of_output asked
      have writable := FileSystem.writable_iff system output
        (options.reportText environment clock system config).toUTF8
      rw [planned, Plan.carryOut, ← LintOptions.reportText]
      cases written : system.write output
          (options.reportText environment clock system config).toUTF8 with
      | ok changed =>
          have goesOn : ¬ options.Refused system := by
            refine LintOptions.not_refused path inForce files fun path same => ?_
            obtain rfl : output = path := Option.some.inj (asked.symm.trans same)
            exact writable.mpr ⟨changed, written⟩
          simp only [success]
          exact .written goesOn inForce asked written
      | error error =>
          obtain ⟨failureLog, failed⟩ := failure error.message
          simp only [failed]
          refine .refused (.output asked fun possible => ?_)
          obtain ⟨changed, possiblyWritten⟩ := writable.mp possible
          rw [written] at possiblyWritten
          contradiction

/-- A lint run ends in one of the ways. -/
theorem lint_ends (environment : List (String × String)) (clock : Clock) (system : FileSystem)
    (verbosity : Nat) (options : LintOptions) :
    options.Ends environment clock system
      ((lint ⟨environment, system.at?, clock⟩ verbosity options).carryOut system) := by
  cases there : system.at? options.path with
  | none =>
      simp only [lint, there]
      exact .refused (.path there)
  | some target =>
      cases loaded : Config.load system.at? options.config with
      | error error =>
          have refused : options.Refused system :=
            .configuration ((Config.load_eq_error_iff system options.config).mp ⟨error, loaded⟩)
          cases found : Config.source system.at? options.config with
          | error problem =>
              simp only [lint, there, found]
              exact .refused refused
          | ok source =>
              simp only [lint, there, found, loaded]
              exact .refused refused
      | ok config =>
          have inForce := (Config.load_eq_ok_iff system options.config config).mp loaded
          obtain ⟨source, found⟩ := Config.source_of_load_eq_ok loaded
          simp only [lint, there, found, loaded]
          split
          · rename_i noFiles
            exact .refused (.files inForce (by simpa [LoadedFile.all, there] using noFiles))
          · rename_i someFiles
            have files : config.discovery.discover options.path (system.at? options.path) ≠ [] := by
              simpa [LoadedFile.all, there] using someFiles
            have report :
                Report.ofLoaded { config with trusted := options.trusted || config.trusted }
                options.path clock
                (LoadedFile.all { config with trusted := options.trusted || config.trusted }
                  options.path (some target)) =
                options.report clock system config := by
              rw [LintOptions.report, Report.lint, there]
              rfl
            rw [report]
            exact tell_ends there inForce files

/-- An accepted lint command runs as its options say. -/
theorem run_ends (environment : List (String × String)) (clock : Clock) (system : FileSystem)
    {arguments : List String} {verbosity : Nat} {options : LintOptions}
    (accepted : read arguments = .ok ⟨verbosity, .lint options⟩) :
    options.Ends environment clock system (run environment clock arguments system) := by
  have planned : plan ⟨environment, system.at?, clock⟩ arguments =
      lint ⟨environment, system.at?, clock⟩ verbosity options := by
    rw [plan, accepted]
  rw [run, planned]
  exact lint_ends environment clock system verbosity options

/-- Without an output the report is printed. -/
theorem printed_text (environment : List (String × String)) (clock : Clock) {system : FileSystem}
    {arguments : List String} {verbosity : Nat} {options : LintOptions} {config : Config}
    (accepted : read arguments = .ok ⟨verbosity, .lint { options with output := none }⟩)
    (goesOn : ¬ options.Refused system)
    (inForce : Config.InForce system options.config config) :
    (run environment clock arguments system).1.stdout =
      options.reportText environment clock system config := by
  have ends := run_ends environment clock system accepted
  generalize run environment clock arguments system = result at ends ⊢
  cases ends with
  | refused refused =>
      cases refused with
      | path nothing => exact absurd (.path nothing) goesOn
      | configuration unusable => exact absurd (.configuration unusable) goesOn
      | files otherInForce nothing => exact absurd (.files otherInForce nothing) goesOn
      | output asked notWritable => contradiction
  | printed _ otherInForce noOutput =>
      obtain rfl := inForce.unique otherInForce
      rfl
  | written _ _ asked written => contradiction

/-- The code of a run that is not refused. -/
theorem code_iff {system : FileSystem} {options : LintOptions} (goesOn : ¬ options.Refused system)
    {passed : Bool} (passes : options.Passes system ↔ passed = true) :
    ((if passed then 0 else 1 : UInt32) = 2 ↔ options.Refused system) ∧
      ((if passed then 0 else 1 : UInt32) = 0 ↔ ¬ options.Refused system ∧ options.Passes system) ∧
      ((if passed then 0 else 1 : UInt32) = 1 ↔
        ¬ options.Refused system ∧ ¬ options.Passes system) := by
  rw [passes]
  cases passed <;> simp [goesOn]

/-! ## Main statement -/

/-- What a lint command does.  Its options are those that it spells out.  It ends
with code two exactly if it is refused, and otherwise with zero or one depending
on whether all files pass.  If it is refused, nothing is printed and no file
changes; otherwise the text of the report is printed, or it is written to the
output.  The same command without an output prints the text with the times of
its own run, so at the same times it prints what is written. -/
theorem run_lint_outcome (environment : List (String × String)) (clock : Clock)
    (system : FileSystem) {arguments : List String} {verbosity : Nat} {options : LintOptions}
    (accepted : read arguments = .ok ⟨verbosity, .lint options⟩) :
    let result := run environment clock arguments system
    (∀ call : LintCall, call.Plain → arguments = call.arguments → options = call.options) ∧
      (result.1.code = 2 ↔ options.Refused system) ∧
      (result.1.code = 0 ↔ ¬ options.Refused system ∧ options.Passes system) ∧
      (result.1.code = 1 ↔ ¬ options.Refused system ∧ ¬ options.Passes system) ∧
      (options.Refused system → result.1.stdout = "" ∧ result.2 = system) ∧
      (¬ options.Refused system → ∃ config, Config.InForce system options.config config ∧
        (options.output = none →
          result.1.stdout = options.reportText environment clock system config ∧
            result.2 = system) ∧
        ∀ path, options.output = some path →
          ∃ text : String, result.1.stdout = "" ∧ result.2.at? path = some (.file text.toUTF8) ∧
            result.2.workingDirectory = system.workingDirectory ∧
            (∃ place, ∀ other, result.2.root.fileAt? other =
              if other = place then some text.toUTF8 else system.root.fileAt? other) ∧
            text = options.reportText environment clock system config ∧
            ∀ printing verbosity,
              read printing = .ok ⟨verbosity, .lint { options with output := none }⟩ →
                (run environment clock printing system).1.stdout = text ∧
                ∀ otherClock, (run environment otherClock printing system).1.stdout =
                  options.reportText environment otherClock system config) := by
  have spelled : ∀ call : LintCall, call.Plain → arguments = call.arguments →
      options = call.options := by
    rintro call plain rfl
    rw [read_arguments call plain] at accepted
    cases accepted
    rfl
  have ends := run_ends environment clock system accepted
  generalize run environment clock arguments system = result at ends ⊢
  refine ⟨spelled, ?_⟩
  cases ends with
  | refused refused => simp [refused]
  | @printed config log goesOn inForce noOutput =>
      obtain ⟨two, zero, one⟩ := code_iff goesOn (LintOptions.passes_iff inForce clock)
      refine ⟨two, zero, one, fun refused => absurd refused goesOn,
        fun _ => ⟨config, inForce, fun _ => ⟨rfl, rfl⟩, ?_⟩⟩
      intro path asked
      rw [noOutput] at asked
      contradiction
  | @written config log path changed goesOn inForce asked written =>
      obtain ⟨two, zero, one⟩ := code_iff goesOn (LintOptions.passes_iff inForce clock)
      refine ⟨two, zero, one, fun refused => absurd refused goesOn,
        fun _ => ⟨config, inForce, ?_, ?_⟩⟩
      · intro noOutput
        rw [asked] at noOutput
        contradiction
      · intro output same
        rw [asked, Option.some.injEq] at same
        subst output
        obtain ⟨there, sameDirectory, elsewhere⟩ := FileSystem.write_spec written
        refine ⟨_, rfl, there, sameDirectory, elsewhere, rfl, fun printing verbosity reads => ?_⟩
        have prints (clock : Clock) := printed_text environment clock reads goesOn inForce
        exact ⟨prints clock, prints⟩

/-- A home directory with a file that is no text. -/
def homeOfNoText : FileSystem where
  root := .directory
    [("home", .directory [("build.yml", .file ⟨#[0xFF]⟩)]), ("tmp", .directory [])]
  workingDirectory := ["home"]
  isThere := ⟨_, rfl⟩

/-- A file that is no text fails a run, which writes its report outside of the working
directory. -/
theorem run_lint_outcome_of_no_text :
    let arguments := ["lint", "../home/build.yml", "--output", "/tmp/report.txt"]
    let result := run [] ⟨"now", String.length⟩ arguments homeOfNoText
    read arguments =
        .ok ⟨0, .lint { path := "../home/build.yml", output := some "/tmp/report.txt" }⟩ ∧
      result.1.code = 1 ∧
      ∃ text : String, result.2.at? "/tmp/report.txt" = some (.file text.toUTF8) ∧
        (run [] ⟨"now", String.length⟩ ["lint", "../home/build.yml"] homeOfNoText).1.stdout =
          text := by
  intro arguments result
  have accepted : read arguments =
      .ok ⟨0, .lint { path := "../home/build.yml", output := some "/tmp/report.txt" }⟩ := rfl
  obtain ⟨-, -, -, one, -, tells⟩ :=
    run_lint_outcome [] ⟨"now", String.length⟩ homeOfNoText accepted
  have goesOn : ¬ LintOptions.Refused homeOfNoText
      { path := "../home/build.yml", output := some "/tmp/report.txt" } := by
    refine LintOptions.not_refused rfl (.defaults rfl) (by decide +kernel) ?_
    rintro path ⟨⟩
    exact ⟨.empty, _, rfl⟩
  have fails : ¬ LintOptions.Passes homeOfNoText
      { path := "../home/build.yml", output := some "/tmp/report.txt" } := by
    intro passes
    obtain ⟨manifest, loaded, -⟩ := passes {} (.defaults rfl) ⟨"../home/build.yml", ⟨#[0xFF]⟩⟩
      (List.mem_singleton.mpr rfl)
    contradiction
  obtain ⟨config, -, -, writes⟩ := tells goesOn
  obtain ⟨text, -, there, -, -, -, prints⟩ := writes _ rfl
  exact ⟨accepted, one.mpr ⟨goesOn, fails⟩, text, there,
    (prints ["lint", "../home/build.yml"] 0 rfl).1⟩

end CommandLine

end ManifestLint
