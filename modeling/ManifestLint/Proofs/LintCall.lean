import ManifestLint.CommandLine.Arguments

/-!
# Spelling out a lint command

A lint command can be written with each option in its long form, its value
behind it.  The arguments are read as just what they spell out, as long as no
path among them looks like an option.
-/

namespace ManifestLint.CommandLine

/-- The word for a format. -/
def formatWord : ReportFormat → String
  | .pretty => "pretty"
  | .json => "json"
  | .sarif => "sarif"

theorem ofName?_formatWord (format : ReportFormat) :
    ReportFormat.ofName? (formatWord format) = some format := by
  cases format <;> decide

/-- A lint command with each option in its long form. -/
structure LintCall where
  path : String
  trusted : Bool := false
  format : Option ReportFormat := none
  output : Option String := none
  config : Option String := none

namespace LintCall

/-- An option with a value, if there is one. -/
def optionWords (word : String) : Option String → List String
  | some value => [word, value]
  | none => []

/-- The arguments of the command. -/
def arguments (call : LintCall) : List String :=
  "lint" :: call.path ::
    ((if call.trusted then ["--trusted"] else []) ++
      (optionWords "--format" (call.format.map formatWord) ++
        (optionWords "--output" call.output ++ optionWords "--config" call.config)))

/-- What the command asks for. -/
def options (call : LintCall) : LintOptions where
  path := call.path
  trusted := call.trusted
  format := call.format.getD .pretty
  output := call.output
  config := call.config

/-- A text that can stand for a path: it is not empty and does not look like an
option. -/
def IsOperand (text : String) : Prop :=
  text ≠ "" ∧ isOperand text = true

/-- No path of the command looks like an option. -/
structure Plain (call : LintCall) : Prop where
  path : IsOperand call.path
  output : ∀ path, call.output = some path → IsOperand path
  config : ∀ path, call.config = some path → IsOperand path

end LintCall

/-! ## Items of the arguments -/

theorem readItems_operand (known : List Switch) {text : String}
    (operand : LintCall.IsOperand text) (rest : List String) :
    readItems known (text :: rest) = .operand text :: readItems known rest := by
  have notDashes : text ≠ "--" := by
    rintro rfl
    exact absurd operand.2 (by decide)
  simp [readItems, notDashes, operand.2]

theorem readItems_trusted (trusted : Bool) (rest : List String) :
    readItems Topic.lint.switches ((if trusted then ["--trusted"] else []) ++ rest) =
      (if trusted then [.switch .trusted] else []) ++ readItems Topic.lint.switches rest := by
  cases trusted <;> rfl

/-- The item of an option with a value, if there is one. -/
def optionItems (switch : Switch) (value : Option String) : List Item :=
  (value.map (Item.value switch)).toList

theorem readItems_option (switch : Switch) (takesValue : switch.takesValue = true)
    {value : Option String} (operand : ∀ text, value = some text → LintCall.IsOperand text)
    (rest : List String) :
    readItems Topic.lint.switches (LintCall.optionWords ("--" ++ switch.word) value ++ rest) =
      optionItems switch value ++ readItems Topic.lint.switches rest := by
  cases value with
  | none => rfl
  | some text =>
      have step : readItems Topic.lint.switches (("--" ++ switch.word) :: text :: rest) =
          if isOperand text then .value switch text :: readItems Topic.lint.switches rest
          else [.fault (.missingValue switch.word)] := by
        cases switch with
        | format => rfl
        | output => rfl
        | config => rfl
        | verbose => contradiction
        | help => contradiction
        | version => contradiction
        | trusted => contradiction
      rw [if_pos (operand text rfl).2] at step
      exact step

/-! ## Taking the items into account -/

namespace Draft

theorem addAll_append (topic : Topic) (draft : Draft) (first rest : List Item) :
    draft.addAll topic (first ++ rest) = (draft.addAll topic first).bind (·.addAll topic rest) :=
  List.foldlM_append

theorem addAll_trusted (draft : Draft) (notYet : draft.trusted = false) (trusted : Bool) :
    draft.addAll .lint (if trusted then [.switch .trusted] else []) =
      .ok { draft with trusted } := by
  cases draft
  cases notYet
  cases trusted <;> rfl

theorem addAll_format (draft : Draft) (notYet : draft.format = none)
    (format : Option ReportFormat) :
    draft.addAll .lint (optionItems .format (format.map formatWord)) =
      .ok { draft with format } := by
  cases draft
  cases notYet
  cases format with
  | none => rfl
  | some format => simp [addAll, optionItems, add, ofName?_formatWord]

theorem setPath_none {option text : String} (operand : LintCall.IsOperand text) :
    setPath option none text = .ok (some text) := by
  simp [setPath, operand.1]

theorem addAll_output (draft : Draft) (notYet : draft.output = none) {output : Option String}
    (operand : ∀ path, output = some path → LintCall.IsOperand path) :
    draft.addAll .lint (optionItems .output output) = .ok { draft with output } := by
  cases draft
  cases notYet
  cases output with
  | none => rfl
  | some path =>
      simp only [addAll, optionItems, Option.map_some, Option.toList_some, List.foldlM_cons, add,
        setPath_none (operand path rfl)]
      rfl

theorem addAll_config (draft : Draft) (notYet : draft.config = none) {config : Option String}
    (operand : ∀ path, config = some path → LintCall.IsOperand path) :
    draft.addAll .lint (optionItems .config config) = .ok { draft with config } := by
  cases draft
  cases notYet
  cases config with
  | none => rfl
  | some path =>
      simp only [addAll, optionItems, Option.map_some, Option.toList_some, List.foldlM_cons, add,
        setPath_none (operand path rfl)]
      rfl

end Draft

/-- The arguments of a command ask for just what they spell out. -/
theorem read_arguments (call : LintCall) (plain : call.Plain) :
    read call.arguments = .ok ⟨0, .lint call.options⟩ := by
  have wordIsOperand : ∀ text, call.format.map formatWord = some text →
      LintCall.IsOperand text := by
    intro text word
    obtain ⟨format, -, rfl⟩ := Option.map_eq_some_iff.mp word
    cases format <;> exact ⟨by decide, by decide⟩
  have format (rest : List String) :
      readItems Topic.lint.switches
          (LintCall.optionWords "--format" (call.format.map formatWord) ++ rest) =
        optionItems .format (call.format.map formatWord) ++ readItems Topic.lint.switches rest :=
    readItems_option .format rfl wordIsOperand rest
  have output (rest : List String) :
      readItems Topic.lint.switches (LintCall.optionWords "--output" call.output ++ rest) =
        optionItems .output call.output ++ readItems Topic.lint.switches rest :=
    readItems_option .output rfl plain.output rest
  have config : readItems Topic.lint.switches (LintCall.optionWords "--config" call.config) =
      optionItems .config call.config := by
    have last := readItems_option .config rfl plain.config []
    simp only [readItems, List.append_nil] at last
    exact last
  have start : Draft.addAll .lint {} [.operand call.path] = .ok { operand := some call.path } := by
    simp [Draft.addAll, Draft.add, Topic.operand?, plain.path.1]
  calc
    read call.arguments = readCommand 0 "lint" call.arguments.tail := rfl
    _ = (Draft.addAll .lint {} (readItems Topic.lint.switches call.arguments.tail)).bind
          fun draft => (draft.command .lint).bind fun command =>
            .ok ⟨if draft.verbosity = 0 then 0 else draft.verbosity, command⟩ := rfl
    _ = (Draft.addAll .lint {} ([.operand call.path] ++
          ((if call.trusted then [.switch .trusted] else []) ++
            (optionItems .format (call.format.map formatWord) ++
              (optionItems .output call.output ++ optionItems .config call.config))))).bind
          fun draft => (draft.command .lint).bind fun command =>
            .ok ⟨if draft.verbosity = 0 then 0 else draft.verbosity, command⟩ := by
      rw [LintCall.arguments, List.tail_cons, readItems_operand _ plain.path, readItems_trusted,
        format, output, config]
      rfl
    _ = .ok ⟨0, .lint call.options⟩ := by
      have setOutput (draft : Draft) (notYet : draft.output = none) :=
        draft.addAll_output notYet plain.output
      have setConfig (draft : Draft) (notYet : draft.config = none) :=
        draft.addAll_config notYet plain.config
      simp (disch := rfl) only [Draft.addAll_append, start, Except.bind, Draft.addAll_trusted,
        Draft.addAll_format, setOutput, setConfig, Draft.command]
      rfl

end ManifestLint.CommandLine
