import ManifestLint.Config
import ManifestLint.Report.Basic

/-!
# Linting files

A run finds the manifests that a path stands for, loads each of them, and checks
every resource on its own, so that one rejected resource does not hide another.
The report lists the files in the order of their paths.
-/

namespace ManifestLint

/-- A file and its content. -/
structure SourceFile where
  path : String
  content : ByteArray
deriving Inhabited

namespace Discovery

mutual

/-- The files in a tree that stands at a path under a name. -/
def filesOf (discovery : Discovery) (path name : String) : Tree → List SourceFile
  | .file content => if discovery.selects path then [⟨path, content⟩] else []
  | .directory entries =>
      if discovery.excludes name then [] else discovery.filesIn path entries

/-- The files in the entries of a directory. -/
def filesIn (discovery : Discovery) (path : String) : List (String × Tree) → List SourceFile
  | [] => []
  | (name, tree) :: rest =>
      discovery.filesOf (Path.join path name) name tree ++ discovery.filesIn path rest

end

/-- The files to lint at a path that leads to a tree.  A file is taken whatever
its extension, and a directory is entered whatever its name. -/
def discover (discovery : Discovery) (path : String) : Option Tree → List SourceFile
  | none => []
  | some (.file content) => [⟨path, content⟩]
  | some (.directory entries) =>
      (discovery.filesIn path entries).mergeSort fun left right =>
        Path.precedes left.path right.path

end Discovery

/-- Load the manifest at a path that leads to a tree. -/
def Manifest.load (path : String) (tree : Option Tree) : Except LoadError Manifest :=
  match Tree.text? tree with
  | .error error => .error (.read path error)
  | .ok text =>
      match Manifest.read text with
      | .error error => .error (.manifest error)
      | .ok manifest => .ok manifest

/-- The findings about resources from the given position on. -/
def Finding.ofResources (trusted : Bool) (file : String) : Nat → List Resource → List Finding
  | _, [] => []
  | index, resource :: rest =>
      let others := ofResources trusted file (index + 1) rest
      match resource.check trusted with
      | .ok () => others
      | .error violation => .ofViolation violation file index resource :: others

/-- The outcome of linting a file that is loaded or failed to load, which takes
some time. -/
def FileReport.ofLoaded (trusted : Bool) (file : String) (duration : Nat) :
    Except LoadError Manifest → FileReport
  | .error error =>
      { file
        resourcesLinted := 0
        findings := [.ofLoadError error file]
        parseFailed := true
        duration }
  | .ok manifest =>
      { file
        resourcesLinted := manifest.resources.length
        findings := Finding.ofResources trusted file 0 manifest.resources
        parseFailed := false
        duration }

/-- Lint the file at a path that leads to a tree, which takes some time. -/
def FileReport.lint (trusted : Bool) (path : String) (duration : Nat) (tree : Option Tree) :
    FileReport :=
  .ofLoaded trusted path duration (Manifest.load path tree)

/-- A file with what loading it gave. -/
structure LoadedFile where
  path : String
  outcome : Except LoadError Manifest

/-- Load all files that a path stands for. -/
def LoadedFile.all (config : Config) (path : String) (tree : Option Tree) : List LoadedFile :=
  (config.discovery.discover path tree).map fun source =>
    ⟨source.path, Manifest.load source.path (some (.file source.content))⟩

/-- What the clock tells a run. -/
structure Clock where
  /-- When the report is made. -/
  timestamp : String
  /-- How long the file at a path takes to load and lint, in milliseconds. -/
  elapsed : String → Nat

/-- The report on loaded files. -/
def Report.ofLoaded (config : Config) (target : String) (clock : Clock) (files : List LoadedFile) :
    Report where
  target
  timestamp := clock.timestamp
  trusted := config.trusted
  files := files.map fun file =>
    .ofLoaded config.trusted file.path (clock.elapsed file.path) file.outcome

/-- Lint all files that a path stands for. -/
def Report.lint (config : Config) (path : String) (clock : Clock) (tree : Option Tree) : Report :=
  .ofLoaded config path clock (LoadedFile.all config path tree)

end ManifestLint
