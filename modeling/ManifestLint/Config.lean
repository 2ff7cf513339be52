import ManifestLint.Text.Casing
import ManifestLint.Tree
import ManifestLint.Toml.Reader
import ManifestLint.Toml.Record

/-!
# Configuration

Whether repositories are trusted, and which files are manifests: those with one
of some extensions, outside of directories with one of some names.  Extensions
are compared in lower case, so those of a loaded configuration are in lower case
and without points at the start.
-/

namespace ManifestLint

/-- Which files of a directory are manifests. -/
structure Discovery where
  extensions : List String := ["yml", "yaml"]
  /-- The names of directories that are not entered. -/
  exclude : List String := ["target", "node_modules", ".git"]
deriving DecidableEq, Repr

namespace Discovery

/-- An extension without points at the start, in lower case. -/
def normalizeExtension (text : String) : String :=
  Text.lower (String.ofList (text.toList.dropWhile (· = '.')))

/-- The same choice with normalized extensions. -/
def normalize (discovery : Discovery) : Discovery :=
  { discovery with extensions := discovery.extensions.map normalizeExtension }

/-- Whether a path has one of the extensions. -/
def selects (discovery : Discovery) (path : String) : Bool :=
  match Path.extension? path with
  | some ending => discovery.extensions.contains (Text.lower ending)
  | none => false

/-- Whether directories with a name are not entered. -/
def excludes (discovery : Discovery) (name : String) : Bool :=
  discovery.exclude.contains name

/-- The configuration record of a choice of files. -/
def record : Toml.Record Discovery where
  name := "DiscoveryConfig"
  initial := {}
  fields :=
    [ { name := "extensions"
        read := fun value result => do
          return { result with extensions := ← Toml.readList Toml.readText value } },
      { name := "exclude"
        read := fun value result => do
          return { result with exclude := ← Toml.readList Toml.readText value } } ]

end Discovery

/-- A configuration. -/
structure Config where
  trusted : Bool := false
  discovery : Discovery := {}
deriving DecidableEq, Repr

/-- The record of the trust setting alone. -/
def trustRecord : Toml.Record Bool where
  name := "TrustConfig"
  initial := false
  fields := [{ name := "enabled", read := fun value _ => Toml.readBool value }]

/-- Why no configuration can be loaded. -/
inductive ConfigError where
  | notFound (path : String)
  | unreadable (path : String) (error : ReadError)
  | malformed (path text : String) (fault : Toml.Fault)

/-- The wording of a configuration error. -/
def ConfigError.message : ConfigError → String
  | .notFound path => "config file not found: " ++ path
  | .unreadable path error => "failed to read config " ++ path ++ ": " ++ error.message
  | .malformed path text fault =>
      "failed to parse config " ++ path ++ ": " ++ fault.message text

namespace Config

/-- The file that is looked for if none is asked for. -/
def defaultFile : String :=
  "pipeline-lint.toml"

/-- The configuration record of the whole. -/
def record : Toml.Record Config where
  name := "Config"
  initial := {}
  fields :=
    [ { name := "trust"
        read := fun value result => do
          return { result with trusted := ← trustRecord.read value } },
      { name := "discovery"
        read := fun value result => do
          return { result with discovery := ← Discovery.record.read value } } ]

/-- Read a configuration text. -/
def read (text : String) : Except Toml.Fault Config := do
  let entries ← Toml.read text
  let config ← record.setEntries entries record.initial
  return { config with discovery := config.discovery.normalize }

/-- The path of the file to load: the one that is asked for, or else the default
file if it is there.  The first argument tells what a path leads to. -/
def source (at? : String → Option Tree) (path : Option String) :
    Except ConfigError (Option String) :=
  match path with
  | some path => if (at? path).isSome then .ok (some path) else .error (.notFound path)
  | none => .ok (if (at? defaultFile).isSome then some defaultFile else none)

/-- Load the configuration of a file. -/
def loadFile (at? : String → Option Tree) (path : String) : Except ConfigError Config :=
  match Tree.text? (at? path) with
  | .error error => .error (.unreadable path error)
  | .ok text =>
      match read text with
      | .error fault => .error (.malformed path text fault)
      | .ok config => .ok config

/-- Load the configuration; without a file all settings have their defaults. -/
def load (at? : String → Option Tree) (path : Option String) : Except ConfigError Config := do
  match ← source at? path with
  | some path => loadFile at? path
  | none => .ok {}

end Config

end ManifestLint
