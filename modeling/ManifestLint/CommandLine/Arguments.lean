import ManifestLint.Report.Format

/-!
# Arguments of the program

The arguments name a command, and around it stand options.  An option is a word
behind two hyphens or a letter behind one; letters may share a hyphen.  The value
of an option is the next argument, or it follows an equals sign, or it follows
the letter itself.  Behind two hyphens alone there are no options.  Arguments
are looked at in their order, so the first fault or request for help decides.
-/

namespace ManifestLint.CommandLine

/-- What help is asked about. -/
inductive Topic where
  | program
  | lint
  | listRules
  | explain
  | help
deriving DecidableEq, Repr

/-- Why the arguments make no sense. -/
inductive UsageError where
  | noArguments
  | noCommand
  | unknownCommand (name : String)
  | unknownArgument (argument : String)
  | missingOperand (name : String)
  | missingValue (option : String)
  | surplusValue (option value : String)
  | invalidValue (option value : String)
  | repeated (option : String)
deriving DecidableEq, Repr

/-- What to do when the arguments are no command to carry out. -/
inductive Halt where
  | usage (error : UsageError)
  | help (topic : Topic)
  | version
deriving DecidableEq, Repr

/-- What to lint, and how to tell the outcome. -/
structure LintOptions where
  path : String
  trusted : Bool := false
  format : ReportFormat := .pretty
  output : Option String := none
  config : Option String := none
deriving DecidableEq, Repr

/-- What the program is asked to do. -/
inductive Command where
  | lint (options : LintOptions)
  | listRules
  | explain (ruleId : String)
deriving DecidableEq, Repr

/-- A command, and how often more messages are asked for. -/
structure Invocation where
  verbosity : Nat
  command : Command
deriving DecidableEq, Repr

/-! ## Options -/

/-- The options. -/
inductive Switch where
  | verbose
  | help
  | version
  | trusted
  | format
  | output
  | config
deriving DecidableEq, Repr

namespace Switch

/-- The word of an option. -/
def word : Switch → String
  | .verbose => "verbose"
  | .help => "help"
  | .version => "version"
  | .trusted => "trusted"
  | .format => "format"
  | .output => "output"
  | .config => "config"

/-- The letter of an option. -/
def letter? : Switch → Option Char
  | .verbose => some 'v'
  | .help => some 'h'
  | .version => some 'V'
  | .format => some 'f'
  | .output => some 'o'
  | .trusted => none
  | .config => none

/-- Whether an option has a value. -/
def takesValue : Switch → Bool
  | .format => true
  | .output => true
  | .config => true
  | _ => false

end Switch

/-- What an argument is. -/
inductive Item where
  | operand (text : String)
  | switch (switch : Switch)
  | value (switch : Switch) (text : String)
  | fault (error : UsageError)
deriving DecidableEq, Repr

/-- Whether an argument is no option. -/
def isOperand (argument : String) : Bool :=
  match argument.toList with
  | '-' :: _ :: _ => false
  | _ => true

/-- The options that letters stand for, and the last one if its value is still to
come. -/
def readLetters (known : List Switch) : List Char → List Item × Option Switch
  | [] => ([], none)
  | letter :: rest =>
      match known.find? (·.letter? = some letter) with
      | none => ([.fault (.unknownArgument (String.ofList ['-', letter]))], none)
      | some switch =>
          if switch.takesValue then
            match rest with
            | [] => ([], some switch)
            | '=' :: value => ([.value switch (String.ofList value)], none)
            | value => ([.value switch (String.ofList value)], none)
          else
            let (items, waiting) := readLetters known rest
            (.switch switch :: items, waiting)

/-- The option of a word with perhaps a value, and the option itself if its value
is still to come. -/
def readWord (known : List Switch) (text : List Char) : List Item × Option Switch :=
  let name := text.takeWhile (· != '=')
  match known.find? (·.word.toList = name), text.drop name.length with
  | none, _ => ([.fault (.unknownArgument ("--" ++ String.ofList name))], none)
  | some switch, [] => if switch.takesValue then ([], some switch) else ([.switch switch], none)
  | some switch, _ :: value =>
      if switch.takesValue then ([.value switch (String.ofList value)], none)
      else ([.fault (.surplusValue switch.word (String.ofList value))], none)

/-- What the arguments are, given the options that there are. -/
def readItems (known : List Switch) : List String → List Item
  | [] => []
  | argument :: rest =>
      if argument = "--" then rest.map .operand
      else if isOperand argument then .operand argument :: readItems known rest
      else
        let (items, waiting) := match argument.toList with
          | '-' :: '-' :: text => readWord known text
          | text => readLetters known (text.drop 1)
        match waiting, rest with
        | none, rest => items ++ readItems known rest
        | some switch, [] => items ++ [.fault (.missingValue switch.word)]
        | some switch, next :: others =>
            if isOperand next then items ++ .value switch next :: readItems known others
            else items ++ [.fault (.missingValue switch.word)]

/-! ## Commands -/

/-- What is known of a command so far. -/
structure Draft where
  verbosity : Nat := 0
  operand : Option String := none
  trusted : Bool := false
  format : Option ReportFormat := none
  output : Option String := none
  config : Option String := none

/-- The names of commands. -/
def commandNames : List (String × Topic) :=
  [("lint", .lint), ("list-rules", .listRules), ("explain", .explain), ("help", .help)]

/-- The options of a command. -/
def Topic.switches : Topic → List Switch
  | .program => [.verbose, .help, .version]
  | .lint => [.trusted, .format, .output, .config, .verbose, .help]
  | .listRules => [.verbose, .help]
  | .explain => [.verbose, .help]
  | .help => []

/-- What the operand of a command is, if it has one. -/
def Topic.operand? : Topic → Option String
  | .lint => some "<PATH>"
  | .explain => some "<RULE_ID>"
  | _ => none

namespace Draft

/-- Set the value of an option, which may be done once and not to nothing. -/
def setPath (option : String) (old : Option String) (text : String) :
    Except Halt (Option String) :=
  if old.isSome then .error (.usage (.repeated option))
  else if text.isEmpty then .error (.usage (.invalidValue option text))
  else .ok (some text)

/-- Take one more item into account. -/
def add (topic : Topic) (draft : Draft) : Item → Except Halt Draft
  | .fault error => .error (.usage error)
  | .switch .verbose => .ok { draft with verbosity := draft.verbosity + 1 }
  | .switch .help => .error (.help topic)
  | .switch .version => .error .version
  | .switch .trusted =>
      if draft.trusted then .error (.usage (.repeated "trusted"))
      else .ok { draft with trusted := true }
  | .switch switch => .error (.usage (.missingValue switch.word))
  | .value .format text =>
      match draft.format, ReportFormat.ofName? text with
      | some _, _ => .error (.usage (.repeated "format"))
      | none, none => .error (.usage (.invalidValue "format" text))
      | none, some format => .ok { draft with format := some format }
  | .value .output text => do
      return { draft with output := ← setPath "output" draft.output text }
  | .value .config text => do
      return { draft with config := ← setPath "config" draft.config text }
  | .value switch text => .error (.usage (.surplusValue switch.word text))
  | .operand text =>
      match topic.operand? with
      | none => .error (.usage (.unknownArgument text))
      | some name =>
          if draft.operand.isSome then .error (.usage (.unknownArgument text))
          else if topic = .lint && text.isEmpty then .error (.usage (.invalidValue name text))
          else .ok { draft with operand := some text }

/-- Take all items into account. -/
def addAll (topic : Topic) (draft : Draft) (items : List Item) : Except Halt Draft :=
  items.foldlM (add topic) draft

/-- The command that is drafted. -/
def command (draft : Draft) (topic : Topic) : Except Halt Command :=
  match topic, draft.operand with
  | .lint, some path =>
      .ok (.lint
        { path
          trusted := draft.trusted
          format := draft.format.getD .pretty
          output := draft.output
          config := draft.config })
  | .explain, some ruleId => .ok (.explain ruleId)
  | .listRules, _ => .ok .listRules
  | topic, _ => .error (.usage (.missingOperand (topic.operand?.getD "<COMMAND>")))

end Draft

/-- The arguments of the help command: at most one name of a command. -/
def readHelp : List String → Halt
  | [] => .help .program
  | [name] =>
      match commandNames.lookup name with
      | some topic => .help topic
      | none => .usage (.unknownCommand name)
  | name :: other :: _ =>
      match commandNames.lookup name with
      | some _ => .usage (.unknownCommand other)
      | none => .usage (.unknownCommand name)

/-- Read the arguments of a command.  Asking for more messages behind the command
supersedes asking for them before it. -/
def readCommand (verbosity : Nat) (name : String) (arguments : List String) :
    Except Halt Invocation :=
  match commandNames.lookup name with
  | none => .error (.usage (.unknownCommand name))
  | some .help => .error (readHelp arguments)
  | some topic => do
      let draft ← Draft.addAll topic {} (readItems topic.switches arguments)
      let command ← draft.command topic
      return ⟨if draft.verbosity = 0 then verbosity else draft.verbosity, command⟩

/-- Read the options before a command, and the command. -/
def readOptions (draft : Draft) : List String → Except Halt Invocation
  | [] => .error (.usage .noCommand)
  | argument :: rest =>
      if isOperand argument then readCommand draft.verbosity argument rest
      else if argument = "--" then
        .error (.usage (match rest with
          | [] => .noCommand
          | next :: _ => .unknownArgument next))
      else do
        let draft ← draft.addAll .program (readItems Topic.program.switches [argument])
        readOptions draft rest

/-- Read the arguments of the program. -/
def read (arguments : List String) : Except Halt Invocation :=
  if arguments.isEmpty then .error (.usage .noArguments) else readOptions {} arguments

end ManifestLint.CommandLine
