import ManifestLint.CommandLine.Program
import ManifestLint.Report.Timestamp
import Std.Time.DateTime.Timestamp

/-!
# Command line

The outer layer of the program: it finds out what the surroundings are, and does
what the program plans.
-/

namespace ManifestLint.CommandLine

/-- Load the entries of a directory.  What is neither a file nor a directory, such
as a link, is left out. -/
partial def loadEntries (entries : Array IO.FS.DirEntry) : IO (List (String × Tree)) :=
  entries.toList.filterMapM fun entry => do
    let location := entry.path
    match (← location.symlinkMetadata).type with
    | .dir =>
        return some (entry.fileName, .directory (← loadEntries (← location.readDir)))
    | .file => return some (entry.fileName, .file (← IO.FS.readBinFile location))
    | _ => return none

/-- Load what a path leads to. -/
def loadPath (path : String) : IO (Option Tree) := do
  let location := (← IO.currentDir) / path
  if path.isEmpty || !(← location.pathExists) then return none
  else if ← location.isDir then
    return some (.directory (← loadEntries (← location.readDir)))
  else return some (.file (← IO.FS.readBinFile location))

/-- The variables that the program asks for. -/
def loadVariables : IO (List (String × String)) :=
  ["CLICOLOR_FORCE", "NO_COLOR", "RUST_LOG", "RUST_LOG_STYLE"].filterMapM fun name => do
    return (← IO.getEnv name).map fun value => (name, value)

/-- The time of the clock. -/
def loadTime : IO String := do
  let now ← Std.Time.Timestamp.now
  return timestampText now.val.second.val.toNat now.val.nano.val.toNat

/-- Measure how long it takes to load and lint a file, in milliseconds. -/
def measure (trusted : Bool) (path : String) : IO Nat := do
  let start ← IO.monoMsNow
  let content ← IO.FS.readBinFile path
  let result ← IO.lazyPure fun _ => FileReport.lint trusted path 0 (some (.file content))
  let stop ← IO.monoMsNow
  return result.duration + (stop - start)

/-- Measure the files that an invocation lints. -/
def loadTimes (at? : String → Option Tree) (arguments : List String) :
    IO (List (String × Nat)) := do
  match read arguments with
  | .ok ⟨_, .lint options⟩ =>
      match Config.load at? options.config with
      | .ok config =>
          (config.discovery.discover options.path (at? options.path)).mapM fun source => do
            return (source.path, ← measure (options.trusted || config.trusted) source.path)
      | .error _ => return []
  | _ => return []

/-- Find out what the surroundings are, as far as an invocation asks for them. -/
def loadSurroundings (arguments : List String) : IO Surroundings := do
  let trees ← (pathsOf arguments).filterMapM fun path => do
    return (← loadPath path).map fun tree => (path, tree)
  let at? (path : String) : Option Tree := trees.lookup path
  let times ← loadTimes at? arguments
  let clock : Clock :=
    { timestamp := ← loadTime
      elapsed := fun path => (times.lookup path).getD 0 }
  return { environment := ← loadVariables, at?, clock }

/-- The wording of a failure of the system. -/
def failureText : IO.Error → String
  | .noFileOrDirectory _ code details => details ++ " (os error " ++ toString code ++ ")"
  | .inappropriateType _ code details => details ++ " (os error " ++ toString code ++ ")"
  | .permissionDenied _ code details => details ++ " (os error " ++ toString code ++ ")"
  | failure => toString failure

/-- Write a file; the answer is the reason for a failure. -/
def writeFile (path content : String) : IO (Option String) := do
  try
    IO.FS.writeFile path content
    return none
  catch failure => return some (failureText failure)

/-- Do what is planned. -/
def carryOut : Plan → IO Outcome
  | .finish outcome => return outcome
  | .write path content ending => return ending (← writeFile path content)

end ManifestLint.CommandLine

/-- Run the program. -/
def main (arguments : List String) : IO UInt32 := do
  let surroundings ← ManifestLint.CommandLine.loadSurroundings arguments
  let outcome ← ManifestLint.CommandLine.carryOut
    (ManifestLint.CommandLine.plan surroundings arguments)
  IO.eprint outcome.stderr
  IO.print outcome.stdout
  return outcome.code
