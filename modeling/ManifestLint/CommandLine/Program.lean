import ManifestLint.CommandLine.Catalogue
import ManifestLint.CommandLine.Help
import ManifestLint.FileSystem
import ManifestLint.Log

/-!
# The program

What the program does with its arguments, as a function of its surroundings.  It
ends with code two if it cannot lint, with code one if something is wrong with a
file, and with code zero otherwise.
-/

namespace ManifestLint.CommandLine

/-- What the program finds when it starts. -/
structure Surroundings where
  /-- The variables of the environment. -/
  environment : List (String × String)
  /-- What a path leads to. -/
  at? : String → Option Tree
  clock : Clock

namespace Surroundings

/-- Whether a variable asks for colors by force. -/
def forcesColor (surroundings : Surroundings) : Bool :=
  match surroundings.environment.lookup "CLICOLOR_FORCE" with
  | some value => value != "0"
  | none => false

/-- Whether what is printed has colors. -/
def colored (surroundings : Surroundings) : Bool :=
  surroundings.forcesColor

/-- Whether the log has colors: a variable of its own decides, or else colors are
forced and not declined. -/
def logColored (surroundings : Surroundings) : Bool :=
  match surroundings.environment.lookup "RUST_LOG_STYLE" with
  | some "always" => true
  | some "never" => false
  | _ =>
      ((surroundings.environment.lookup "NO_COLOR").getD "").isEmpty && surroundings.forcesColor

/-- The level that is asked for by so many options. -/
def levelFor : Nat → LogLevel
  | 0 => .warn
  | 1 => .info
  | 2 => .debug
  | _ => .trace

/-- The filter of the log, and the warnings about it.  A variable takes precedence
over options. -/
def logFilter (surroundings : Surroundings) (verbosity : Nat) : LogFilter × List String :=
  match surroundings.environment.lookup "RUST_LOG" with
  | some text => LogFilter.ofText text
  | none => (.upTo (levelFor verbosity), [])

/-- The text of the log. -/
def logText (surroundings : Surroundings) (verbosity : Nat) (entries : List LogEntry) : String :=
  let (filter, warnings) := surroundings.logFilter verbosity
  String.join warnings ++
    String.join ((entries.filter filter.allows).map (·.line surroundings.logColored))

end Surroundings

/-- How the program ends. -/
structure Outcome where
  code : UInt32
  stdout : String
  stderr : String
deriving DecidableEq, Repr

/-- What the program does: it ends, or it writes a file and then ends, depending
on whether that failed for some reason. -/
inductive Plan where
  | finish (outcome : Outcome)
  | write (path content : String) (ending : Option String → Outcome)

/-- An end with an error message, behind the log. -/
def Plan.refuse (log message : String) : Plan :=
  .finish ⟨2, "", log ++ message ++ "\n"⟩

/-- Tell the outcome of a run. -/
def tell (surroundings : Surroundings) (log : String) (options : LintOptions) (report : Report) :
    Plan :=
  let text := report.format surroundings.colored options.format
  let code : UInt32 := if report.passed then 0 else 1
  match options.output with
  | none => .finish ⟨code, text, log⟩
  | some path =>
      .write path text fun failure =>
        match failure with
        | some reason => ⟨2, "", log ++ "Error writing output: " ++ reason ++ "\n"⟩
        | none => ⟨code, "", log ++ "Output written to " ++ path ++ "\n"⟩

/-- Lint what the options ask for. -/
def lint (surroundings : Surroundings) (verbosity : Nat) (options : LintOptions) : Plan :=
  let log := surroundings.logText verbosity
  match surroundings.at? options.path with
  | none => .refuse (log []) ("Error: path does not exist: " ++ options.path)
  | some tree =>
      match Config.source surroundings.at? options.config with
      | .error error => .refuse (log []) ("Error: " ++ error.message)
      | .ok source =>
          match Config.load surroundings.at? options.config with
          | .error error => .refuse (log []) ("Error: " ++ error.message)
          | .ok config =>
              let config := { config with trusted := options.trusted || config.trusted }
              let files := LoadedFile.all config options.path tree
              let report := Report.ofLoaded config options.path surroundings.clock files
              let log := log
                (.ofConfigSource source :: LogEntry.ofRun config.trusted options.path files)
              if files.isEmpty then
                .refuse log ("Error: no pipeline files found in '" ++ options.path ++
                  "' (extensions: " ++ ", ".intercalate config.discovery.extensions ++ ")")
              else tell surroundings log options report

/-- Explain a rule. -/
def explain (surroundings : Surroundings) (log ruleId : String) : Plan :=
  match Rule.find? ruleId with
  | some rule => .finish ⟨0, rule.explanation surroundings.colored, log⟩
  | none =>
      .refuse log ("Unknown rule: " ++ ruleId ++
        "\nUse 'pipeline-lint list-rules' to see all available rules.")

/-- What the program does with some arguments. -/
def plan (surroundings : Surroundings) (arguments : List String) : Plan :=
  match read arguments with
  | .error (.usage error) => .finish ⟨2, "", error.message⟩
  | .error (.help topic) => .finish ⟨0, topic.helpText, ""⟩
  | .error .version => .finish ⟨0, versionText, ""⟩
  | .ok ⟨verbosity, .lint options⟩ => lint surroundings verbosity options
  | .ok ⟨verbosity, .listRules⟩ =>
      .finish ⟨0, Rule.listing surroundings.colored, surroundings.logText verbosity []⟩
  | .ok ⟨verbosity, .explain ruleId⟩ =>
      explain surroundings (surroundings.logText verbosity []) ruleId

/-- The paths that the program looks at, for some arguments. -/
def pathsOf (arguments : List String) : List String :=
  match read arguments with
  | .ok ⟨_, .lint options⟩ => [options.path, options.config.getD Config.defaultFile]
  | _ => []

/-- Carry out a plan in a file system. -/
def Plan.carryOut (system : FileSystem) : Plan → Outcome × FileSystem
  | .finish outcome => (outcome, system)
  | .write path content ending =>
      match system.write path content.toUTF8 with
      | .ok changed => (ending none, changed)
      | .error error => (ending (some error.message), system)

/-- Run the program in a file system. -/
def run (environment : List (String × String)) (clock : Clock) (arguments : List String)
    (system : FileSystem) : Outcome × FileSystem :=
  (plan ⟨environment, system.at?, clock⟩ arguments).carryOut system

end ManifestLint.CommandLine
