import ManifestLint.Run
import ManifestLint.Text.Split
import ManifestLint.Text.Styled

/-!
# The log

What a run tells about itself.  A filter has directives that give a level to all
parts of the program whose name starts with a text; the longest such text counts,
and of directives for the same text the last one.
-/

namespace ManifestLint

open ManifestLint.Text

/-- How weighty a message is. -/
inductive LogLevel where
  | error
  | warn
  | info
  | debug
  | trace
deriving DecidableEq, Repr

namespace LogLevel

/-- The name of a level. -/
def name : LogLevel → String
  | .error => "ERROR"
  | .warn => "WARN"
  | .info => "INFO"
  | .debug => "DEBUG"
  | .trace => "TRACE"

/-- The style of a level's name. -/
def style : LogLevel → Style
  | .error => ⟨[1, 31]⟩
  | .warn => ⟨[33]⟩
  | .info => ⟨[32]⟩
  | .debug => ⟨[34]⟩
  | .trace => ⟨[36]⟩

/-- The place of a level among all of them, the weightiest first. -/
def rank : LogLevel → Nat
  | .error => 1
  | .warn => 2
  | .info => 3
  | .debug => 4
  | .trace => 5

/-- All levels. -/
def all : List LogLevel :=
  [.error, .warn, .info, .debug, .trace]

end LogLevel

/-- A message of the log. -/
structure LogEntry where
  level : LogLevel
  /-- The part of the program that speaks. -/
  origin : String
  message : String
deriving DecidableEq, Repr

namespace LogEntry

/-- The line of an entry. -/
def line (colored : Bool) (entry : LogEntry) : String :=
  let bracket (text : String) : String := paint colored ⟨[90]⟩ 0 text
  bracket "[" ++ paint colored entry.level.style 5 entry.level.name ++ " " ++ entry.origin ++
    bracket "]" ++ " " ++ entry.message ++ "\n"

/-- The entry about where the configuration comes from. -/
def ofConfigSource (source : Option String) : LogEntry where
  level := .debug
  origin := "pipeline_lint::config"
  message := match source with
    | some path => "loaded config from " ++ path
    | none => "no config file found, using defaults"

/-- The text about trust at the end of a message. -/
def trustNote (trusted : Bool) : String :=
  " (trusted: " ++ toString trusted ++ ")"

/-- The entries about checking a resource. -/
def ofResource (trusted : Bool) : Resource → List LogEntry
  | .pipeline declared =>
      let entry (message : String) : LogEntry := ⟨.debug, "pipeline_lint::linter", message⟩
      let start := entry ("linting pipeline '" ++ declared.name ++ "'" ++ trustNote trusted)
      match declared.check trusted with
      | .ok () => [start]
      | .error violation =>
          [start, entry ("pipeline '" ++ declared.name ++ "' rejected: " ++ violation.message)]
  | _ => []

/-- The entries about a file. -/
def ofFile (trusted : Bool) (file : LoadedFile) : List LogEntry :=
  match file.outcome with
  | .error error => [⟨.warn, "pipeline_lint::run", file.path ++ ": " ++ error.message⟩]
  | .ok manifest => manifest.resources.flatMap (ofResource trusted)

/-- The entries about a run. -/
def ofRun (trusted : Bool) (target : String) (files : List LoadedFile) : List LogEntry :=
  let start : LogEntry :=
    { level := .info
      origin := "pipeline_lint::run"
      message := "linting " ++ toString files.length ++ " file(s) under " ++ target ++
        trustNote trusted }
  start :: files.flatMap (ofFile trusted)

end LogEntry

/-! ## Filters -/

/-- The highest rank that is told; zero stands for none. -/
abbrev LogLimit := Nat

/-- The limit that a word stands for, in either case. -/
def LogLimit.ofName? (name : String) : Option LogLimit :=
  let upper := String.ofList (name.toList.map Char.toUpper)
  if upper = "OFF" then some 0
  else (LogLevel.all.find? (·.name = upper)).map LogLevel.rank

/-- A limit for the parts of the program whose name starts with a text, or for
all parts. -/
structure LogDirective where
  start : Option String
  limit : LogLimit
deriving DecidableEq, Repr

/-- Which entries are told. -/
structure LogFilter where
  directives : List LogDirective
  /-- A text that messages have to contain. -/
  pattern : Option String := none
deriving DecidableEq, Repr

namespace LogFilter

/-- The directive that a text stands for, or the text that spoils it. -/
def directive (text : List Char) : Except String LogDirective :=
  let highest := LogLevel.trace.rank
  match (split '=' text).map String.ofList with
  | [word] =>
      match LogLimit.ofName? word with
      | some limit => .ok ⟨none, limit⟩
      | none => .ok ⟨some word, highest⟩
  | [start, word] =>
      let word := String.ofList (trim word.toList)
      if word.isEmpty then .ok ⟨some start, highest⟩
      else
        match LogLimit.ofName? word with
        | some limit => .ok ⟨some start, limit⟩
        | none => .error word
  | _ => .error (String.ofList text)

/-- Put a directive in the place of the one for the same text, or at the end. -/
def place (added : LogDirective) : List LogDirective → List LogDirective
  | [] => [added]
  | old :: rest => if old.start = added.start then added :: rest else old :: place added rest

/-- Add the directives of some texts.  What cannot be understood is returned. -/
def addDirectives : List (List Char) → List LogDirective → List LogDirective × List String
  | [], directives => (directives, [])
  | text :: rest, directives =>
      if text.isEmpty then addDirectives rest directives
      else
        match directive text with
        | .ok added => addDirectives rest (place added directives)
        | .error spoiled =>
            let (directives, others) := addDirectives rest directives
            (directives, spoiled :: others)

/-- The filter that a text describes, and the warnings about it.  Without any
directive only errors are told. -/
def ofText (text : String) : LogFilter × List String :=
  let warning (problem : String) : String :=
    "warning: invalid logging spec '" ++ problem ++ "', ignoring it\n"
  let (directives, pattern, warnings) :=
    match split '/' text.toList with
    | [rules] =>
        let (directives, spoiled) := addDirectives ((split ',' rules).map trim) []
        (directives, none, spoiled.map warning)
    | [rules, pattern] =>
        let (directives, spoiled) := addDirectives ((split ',' rules).map trim) []
        (directives, some (String.ofList pattern), spoiled.map warning)
    | _ =>
        ([], none,
          ["warning: invalid logging spec '" ++ text ++ "' (too many '/'s), ignoring it\n"])
  let directives := if directives.isEmpty then [⟨none, LogLevel.error.rank⟩] else directives
  (⟨directives, pattern⟩, warnings)

/-- The filter that lets through all entries up to a level. -/
def upTo (level : LogLevel) : LogFilter where
  directives := [⟨none, level.rank⟩]

/-- How many octets of a name a directive speaks for, if it speaks for the
name. -/
def reach? (name : String) (directive : LogDirective) : Option Nat :=
  match directive.start with
  | none => some 0
  | some start => if start.toList.isPrefixOf name.toList then some start.utf8ByteSize else none

/-- The limit for a part of the program: that of the directive that reaches
furthest, and of the last one of those. -/
def limitFor (name : String) (directives : List LogDirective) : LogLimit :=
  let furthest := directives.foldl
    (fun best directive =>
      match reach? name directive with
      | some reach => if best.1 ≤ reach then (reach, directive.limit) else best
      | none => best)
    (0, 0)
  furthest.2

/-- Whether an entry is told. -/
def allows (filter : LogFilter) (entry : LogEntry) : Bool :=
  entry.level.rank ≤ limitFor entry.origin filter.directives &&
    match filter.pattern with
    | some pattern => occurs pattern.toList entry.message.toList
    | none => true

end LogFilter

end ManifestLint
