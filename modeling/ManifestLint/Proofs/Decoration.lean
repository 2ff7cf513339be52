import ManifestLint.Proofs.PrettyReadBack
import Mathlib.Data.List.Forall2

/-!
# Styles only decorate

The text for readers in styles differs from the one without by its style sequences alone:
deleting them gives the plain text, blanks of padding included.  A piece of the text that
decorates its plain form does so wherever it stands, so the pieces can be looked at one by
one.
-/

namespace ManifestLint

namespace Text

/-! ## Decorated texts -/

/-- A text holds no character that could begin a style sequence. -/
def NoEscape (text : String) : Prop :=
  '\x1b' ∉ text.toList

instance (text : String) : Decidable (NoEscape text) :=
  inferInstanceAs (Decidable ('\x1b' ∉ text.toList))

theorem NoEscape.ofList {chars : List Char} (noEscape : '\x1b' ∉ chars) :
    NoEscape (String.ofList chars) := by
  rwa [NoEscape, String.toList_ofList]

theorem NoEscape.append {text other : String} (first : NoEscape text) (second : NoEscape other) :
    NoEscape (text ++ other) :=
  not_mem_toList_append.mpr ⟨first, second⟩

/-- Whatever follows, deleting the style sequences of a styled text leaves the plain one. -/
def Decorates (styled plain : String) : Prop :=
  ∀ rest, unstyled (styled.toList ++ rest) = plain.toList ++ unstyled rest

namespace Decorates

theorem of_noEscape {text : String} (noEscape : NoEscape text) : Decorates text text :=
  unstyled_append noEscape

theorem literal {chars : List Char} (noEscape : '\x1b' ∉ chars) :
    Decorates (String.ofList chars) (String.ofList chars) :=
  of_noEscape (.ofList noEscape)

theorem paint (style : Style) (width : Nat) {text : String} (noEscape : NoEscape text) :
    Decorates (paint true style width text) (paint false style width text) := by
  intro rest
  rw [unstyled_paint true style width noEscape, toList_paint_plain]

theorem append {styled plain otherStyled otherPlain : String} (first : Decorates styled plain)
    (second : Decorates otherStyled otherPlain) :
    Decorates (styled ++ otherStyled) (plain ++ otherPlain) := by
  intro rest
  rw [String.toList_append, String.toList_append, List.append_assoc, first, second,
    List.append_assoc]

theorem join {styled plain : List String} (each : List.Forall₂ Decorates styled plain) :
    Decorates (String.join styled) (String.join plain) := by
  induction each with
  | nil =>
      have empty : NoEscape "" := .ofList (by decide)
      exact of_noEscape empty
  | cons first _ ih =>
      rw [String.join_cons, String.join_cons]
      exact first.append ih

/-- Lines are decorated one by one. -/
theorem lines {styled plain : List String} (each : List.Forall₂ Decorates styled plain) :
    Decorates (String.join (styled.map (· ++ "\n"))) (String.join (plain.map (· ++ "\n"))) := by
  have lineFeed : NoEscape "\n" := .ofList (by decide)
  apply join
  rw [List.forall₂_map_left_iff, List.forall₂_map_right_iff]
  exact each.imp fun _ _ line => line.append (of_noEscape lineFeed)

/-- Items that are each decorated make lists that are. -/
theorem forall₂_map {α : Type} {items : List α} {styled plain : α → String}
    (each : ∀ item ∈ items, Decorates (styled item) (plain item)) :
    List.Forall₂ Decorates (items.map styled) (items.map plain) := by
  rw [List.forall₂_map_left_iff, List.forall₂_map_right_iff]
  exact List.forall₂_same.mpr each

theorem unstyled_eq {styled plain : String} (decorates : Decorates styled plain) :
    unstyled styled.toList = plain.toList := by
  have whole := decorates []
  rwa [List.append_nil, unstyled_nil, List.append_nil] at whole

end Decorates

end Text

open ManifestLint.Text

/-! ## Reports without escapes -/

/-- No text of a finding holds an escape. -/
structure Finding.NoEscapes (finding : Finding) : Prop where
  ruleId : NoEscape finding.ruleId
  message : NoEscape finding.message
  file : ∀ file, finding.file = some file → NoEscape file
  resource : ∀ name, finding.resource = some name → NoEscape name
  kind : ∀ kind, finding.kind = some kind → NoEscape kind
  remediation : ∀ remediation, finding.remediation = some remediation → NoEscape remediation

/-- No text of a report holds an escape. -/
structure Report.NoEscapes (report : Report) : Prop where
  target : NoEscape report.target
  timestamp : NoEscape report.timestamp
  files : ∀ result ∈ report.files, NoEscape result.file
  findings : ∀ finding ∈ report.findings, finding.NoEscapes

namespace Report

/-! ## The lines of a report -/

theorem decorates_headLines {report : Report} (target : NoEscape report.target)
    (timestamp : NoEscape report.timestamp) :
    List.Forall₂ Decorates (headLines true report) (headLines false report) := by
  have empty : NoEscape "" := .ofList (by decide)
  have title : NoEscape ("  Pipeline Lint: " ++ report.target ++ "  ") :=
    (NoEscape.append (.ofList (by decide)) target).append (.ofList (by decide))
  have time : NoEscape ("  Timestamp: " ++ report.timestamp) :=
    NoEscape.append (.ofList (by decide)) timestamp
  have trusted : NoEscape ("  Trusted:   " ++ toString report.trusted) := by
    cases report.trusted <;> decide
  have heading : NoEscape "Files" := .ofList (by decide)
  exact .cons (.of_noEscape empty) (.cons (.paint .title 0 title) (.cons (.of_noEscape time)
    (.cons (.of_noEscape trusted) (.cons (.of_noEscape empty)
      (.cons (.paint .heading 0 heading) .nil)))))

theorem decorates_fileText {result : FileReport} (file : NoEscape result.file) :
    Decorates (fileText true result) (fileText false result) := by
  have padded : NoEscape (String.ofList (padRight fileWidth result.file.toList)) :=
    .ofList ((not_mem_padRight_iff (by decide)).mpr file)
  rw [fileText, fileText, fileTag_eq, fileTag_eq]
  exact (((((Decorates.literal (by decide)).append
    (.paint (tagStyle result) 0 (noControls_tag result).noEscape)).append
    (.literal (by decide))).append (.of_noEscape padded)).append
    (.literal (by decide))).append (.paint .dimmed 0 (noControls_detail result).noEscape)

theorem noEscape_location {finding : Finding} (noEscapes : finding.NoEscapes) :
    NoEscape (location finding) := by
  unfold location
  refine (NoEscape.append ?file ?document).append ?resource
  case file =>
    cases file : finding.file with
    | none => decide
    | some name => exact noEscapes.file name file
  case document =>
    cases finding.document with
    | none => decide
    | some index =>
        exact (NoEscape.append (by decide) (noControls_toString (index + 1)).noEscape).append
          (by decide)
  case resource =>
    cases resource : finding.resource with
    | none => decide
    | some name =>
        exact (NoEscape.append (by decide) (noEscapes.resource name resource)).append (by decide)

theorem decorates_locationLine {finding : Finding} (noEscapes : finding.NoEscapes) :
    Decorates (locationLine true finding) (locationLine false finding) := by
  simp only [locationLine]
  split
  · exact .literal (by decide)
  · exact ((Decorates.literal (by decide)).append
      (.paint .dimmed 0 (noEscape_location noEscapes))).append (.literal (by decide))

theorem decorates_remediationLine {finding : Finding} (noEscapes : finding.NoEscapes) :
    Decorates (remediationLine true finding) (remediationLine false finding) := by
  unfold remediationLine
  cases remediation : finding.remediation with
  | none => exact .literal (by decide)
  | some text =>
      exact ((Decorates.literal (by decide)).append
        (.paint .dimmed 0 (noEscapes.remediation text remediation))).append
        (.literal (by decide))

theorem decorates_findingLines {finding : Finding} (noEscapes : finding.NoEscapes) :
    Decorates (findingLines true finding) (findingLines false finding) := by
  have tag : NoEscape "ERROR" := .ofList (by decide)
  exact ((((((((Decorates.literal (by decide)).append (.paint .red 0 tag)).append
    (.literal (by decide))).append (.paint .dimmed ruleWidth noEscapes.ruleId)).append
    (.literal (by decide))).append (.of_noEscape noEscapes.message)).append
    (.literal (by decide))).append (decorates_locationLine noEscapes)).append
    (decorates_remediationLine noEscapes)

theorem decorates_findingsPart {findings : List Finding}
    (noEscapes : ∀ finding ∈ findings, finding.NoEscapes) :
    Decorates (findingsPart true findings) (findingsPart false findings) := by
  have heading : NoEscape "Findings" := .ofList (by decide)
  unfold findingsPart
  split
  · exact .literal (by decide)
  · exact (((Decorates.paint .heading 0 heading).append (.literal (by decide))).append
      (.join (Decorates.forall₂_map fun finding member =>
        decorates_findingLines (noEscapes finding member)))).append (.literal (by decide))

theorem decorates_summaryLine (report : Report) :
    Decorates (summaryLine true report) (summaryLine false report) := by
  rw [summaryLine_eq, summaryLine_eq]
  exact (((Decorates.literal (by decide)).append
    (.paint _ 0 report.noControls_verdict.noEscape)).append
    (.of_noEscape report.noControls_numbersText.noEscape)).append (.literal (by decide))

/-! ## Main statement -/

/-- If no text of a report holds an escape, deleting the style sequences from the text for
readers in styles gives the text without styles. -/
theorem unstyled_pretty {report : Report} (noEscapes : report.NoEscapes) :
    unstyled (report.pretty true).toList = (report.pretty false).toList := by
  have head := Decorates.lines (decorates_headLines noEscapes.target noEscapes.timestamp)
  have files : Decorates
      (String.join ((report.files.map (fileText true)).map (· ++ "\n")))
      (String.join ((report.files.map (fileText false)).map (· ++ "\n"))) :=
    .lines (Decorates.forall₂_map fun result member =>
      decorates_fileText (noEscapes.files result member))
  have foot : Decorates (report.foot true) (report.foot false) :=
    ((Decorates.literal (by decide)).append
      (decorates_findingsPart noEscapes.findings)).append (decorates_summaryLine report)
  rw [pretty_eq_lists, pretty_eq_lists]
  exact ((head.append files).append foot).unstyled_eq

/-- A report on a name that is wider than its column, with a finding that is not. -/
def wideNames : Report where
  target := "ci"
  timestamp := "2024-05-01T00:00:00+00:00"
  trusted := false
  files :=
    [ { file := "ci/a-name-that-does-not-fit-into-the-column/ä.yml", resourcesLinted := 1,
        parseFailed := false, duration := 0,
        findings :=
          [ { ruleId := "trust/dns", message := "[31mnot a sequence",
              file := some "ci/ä.yml", resource := some "build", kind := some "pipeline",
              document := some 0, remediation := some "Remove `dns`." } ] } ]

theorem unstyled_pretty_wideNames :
    wideNames.NoEscapes ∧
      unstyled (wideNames.pretty true).toList = (wideNames.pretty false).toList ∧
      wideNames.pretty true ≠ wideNames.pretty false := by
  have noEscapes : wideNames.NoEscapes := by
    constructor
    · decide
    · decide
    · decide
    · rintro finding (_ | ⟨_, ⟨⟩⟩)
      constructor <;> simp [NoEscape]
  exact ⟨noEscapes, unstyled_pretty noEscapes, by decide +kernel⟩

end Report

end ManifestLint
