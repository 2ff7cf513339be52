import ManifestLint.Proofs.DiscoveredFiles
import ManifestLint.Proofs.LowerCase

/-!
# Normalized extensions

Normalizing extensions settles them: they start with no point and are in lower
case, so normalizing again changes nothing, and every configuration that is
loaded is normalized.  Points at the start and the case of ASCII letters do not
show afterwards.  The extension of a file is what follows the last point of its
name, so an extension of a configuration selects the files that end with it
unless it has a point further inside.
-/

namespace ManifestLint

/-! ## Names with a point and an extension -/

namespace Path

/-- The part of a path in front of a name: nothing, or all up to a slash. -/
def IsDirectoryPart (part : String) : Prop :=
  part = "" ∨ part.toList.getLast? = some '/'

theorem fileName?_append {part name : String} (isPart : IsDirectoryPart part)
    (entryName : IsEntryName name) : fileName? (part ++ name) = some name := by
  rcases isPart with rfl | slashed
  · rw [String.empty_append]
    simp [fileName?, names, parts_of_entryName entryName, entryName.leads, entryName.down]
  · have joined : join part name = part ++ name := if_pos slashed
    rw [← joined, fileName?_join part entryName]

theorem toList_pointed (stem ending : String) :
    (stem ++ "." ++ ending).toList = stem.toList ++ '.' :: ending.toList := by
  simp [String.toList_append]

/-- A point between two texts makes the name of an entry. -/
theorem isEntryName_append {stem ending : String} (stemmed : stem ≠ "") (ended : ending ≠ "")
    (noSlash : '/' ∉ stem.toList) (noSlashBehind : '/' ∉ ending.toList) :
    IsEntryName (stem ++ "." ++ ending) := by
  have long : 2 < (stem ++ "." ++ ending).toList.length := by
    have before := List.length_pos_iff.mpr (mt String.toList_eq_nil_iff.mp stemmed)
    have behind := List.length_pos_iff.mpr (mt String.toList_eq_nil_iff.mp ended)
    rw [toList_pointed, List.length_append, List.length_cons]
    omega
  have differs {other : String} (short : other.toList.length ≤ 2) :
      stem ++ "." ++ ending ≠ other := by
    intro same
    rw [same] at long
    exact Nat.not_lt_of_le short long
  constructor
  · rw [toList_pointed, List.mem_append, List.mem_cons]
    simp [noSlash, noSlashBehind]
  · have notEmpty : stem ++ "." ++ ending ≠ "" := differs (by decide)
    have notPoint : stem ++ "." ++ ending ≠ "." := differs (by decide)
    simp only [isIdle, notEmpty, notPoint, decide_false, Bool.or_self]
  · exact differs (by decide)

end Path

namespace Discovery

variable {discovery : Discovery}

/-- The case of ASCII letters does not show in whether a name has one of the
extensions. -/
theorem HasExtension.of_toLower_eq {name other : String} (has : discovery.HasExtension name)
    (same : other.toLower = name.toLower) : discovery.HasExtension other := by
  obtain ⟨start, ending, spelled, nonempty, pointless, listed⟩ := has
  rw [Text.toLower_eq_iff, spelled, List.map_append, List.map_cons, List.map_eq_append_iff] at same
  obtain ⟨otherStart, rest, otherSpelled, starts, rests⟩ := same
  obtain ⟨point, otherEnding, rfl, isPoint, endings⟩ := List.map_eq_cons_iff.mp rests
  rw [Text.eq_of_toLower_eq isPoint (by decide)] at otherSpelled
  refine ⟨otherStart, otherEnding, otherSpelled, ?_, ?_, ?_⟩
  · rintro rfl
    exact nonempty (List.map_eq_nil_iff.mp starts.symm)
  · exact fun member => pointless (Text.mem_of_map_toLower_eq endings (by decide) member)
  · have sameEndings : (String.ofList otherEnding).toLower = (String.ofList ending).toLower := by
      rw [Text.toLower_eq_iff, String.toList_ofList, String.toList_ofList, endings]
    rwa [Text.lower_congr sameEndings]

/-- A name with a point and an ending has one of the extensions if the ending
has no point and is one, or if what follows the last point of the ending is. -/
theorem hasExtension_append_iff {stem ending : String} (stemmed : stem ≠ "") :
    discovery.HasExtension (stem ++ "." ++ ending) ↔
      ('.' ∉ ending.toList ∧ Text.lower ending ∈ discovery.extensions) ∨
        ∃ front back, ending.toList = front ++ '.' :: back ∧ '.' ∉ back ∧
          Text.lower (String.ofList back) ∈ discovery.extensions := by
  have spelled := Path.toList_pointed stem ending
  have nonempty : stem.toList ≠ [] := mt String.toList_eq_nil_iff.mp stemmed
  constructor
  · intro has
    by_cases pointed : '.' ∈ ending.toList
    · right
      obtain ⟨back, front, reversed, pointless⟩ :=
        List.eq_append_cons_of_mem (List.mem_reverse.mpr pointed)
      have split : ending.toList = front.reverse ++ '.' :: back.reverse := by
        rw [← List.reverse_reverse ending.toList, reversed]
        simp
      have whole : (stem ++ "." ++ ending).toList =
          (stem.toList ++ '.' :: front.reverse) ++ '.' :: back.reverse := by
        rw [spelled, split]
        simp
      have pointlessBack : '.' ∉ back.reverse := by simpa using pointless
      exact ⟨front.reverse, back.reverse, split, pointlessBack,
        (discovery.hasExtension_iff whole (by simp) pointlessBack).mp has⟩
    · left
      have listed := (discovery.hasExtension_iff spelled nonempty pointed).mp has
      rw [String.ofList_toList] at listed
      exact ⟨pointed, listed⟩
  · rintro (⟨pointless, listed⟩ | ⟨front, back, split, pointless, listed⟩)
    · rw [discovery.hasExtension_iff spelled nonempty pointless, String.ofList_toList]
      exact listed
    · have whole : (stem ++ "." ++ ending).toList =
          (stem.toList ++ '.' :: front) ++ '.' :: back := by
        rw [spelled, split]
        simp
      exact (discovery.hasExtension_iff whole (by simp) pointless).mpr listed

/-! ## Normalizing -/

/-- An extension without the points at its start. -/
def withoutPoints (extension : String) : String :=
  String.ofList (extension.toList.dropWhile (· = '.'))

theorem normalizeExtension_eq (extension : String) :
    normalizeExtension extension = Text.lower (withoutPoints extension) :=
  rfl

theorem head?_withoutPoints (extension : String) :
    (withoutPoints extension).toList.head? ≠ some '.' := by
  intro point
  have noPoint := List.head?_dropWhile_not (· = '.') extension.toList
  rw [withoutPoints, String.toList_ofList] at point
  rw [point] at noPoint
  simp at noPoint

theorem withoutPoints_eq_self {extension : String} (noPoint : extension.toList.head? ≠ some '.') :
    withoutPoints extension = extension := by
  rw [withoutPoints]
  cases spelled : extension.toList with
  | nil => rw [List.dropWhile_nil, ← spelled, String.ofList_toList]
  | cons c rest =>
      have differs : c ≠ '.' := by
        rintro rfl
        exact noPoint (by rw [spelled, List.head?_cons])
      rw [List.dropWhile_cons_of_neg (by simpa using differs), ← spelled, String.ofList_toList]

theorem head?_normalizeExtension (extension : String) :
    (normalizeExtension extension).toList.head? ≠ some '.' :=
  fun point => head?_withoutPoints extension (Text.head?_of_head?_lower point)

@[simp]
theorem normalizeExtension_normalizeExtension (extension : String) :
    normalizeExtension (normalizeExtension extension) = normalizeExtension extension := by
  rw [normalizeExtension_eq (normalizeExtension extension),
    withoutPoints_eq_self (head?_normalizeExtension extension), normalizeExtension_eq,
    Text.lower_lower]

@[simp]
theorem normalize_normalize (discovery : Discovery) :
    discovery.normalize.normalize = discovery.normalize := by
  simp [normalize]

/-- Two extensions differ at most in the points at their start and the case of
ASCII letters. -/
def SameExtension (extension other : String) : Prop :=
  (withoutPoints extension).toLower = (withoutPoints other).toLower

instance (extension other : String) : Decidable (SameExtension extension other) :=
  decidable_of_iff _ Text.toLower_eq_iff.symm

theorem SameExtension.normalizeExtension_eq {extension other : String}
    (same : SameExtension extension other) :
    normalizeExtension extension = normalizeExtension other :=
  Text.lower_congr same

theorem extensions_normalize_eq {other : Discovery}
    (same : List.Forall₂ SameExtension discovery.extensions other.extensions) :
    discovery.normalize.extensions = other.normalize.extensions := by
  have pairs : List.Forall₂ (· = ·) (discovery.extensions.map normalizeExtension)
      (other.extensions.map normalizeExtension) := by
    rw [List.forall₂_map_left_iff, List.forall₂_map_right_iff]
    exact same.imp fun _ _ sameExtension => sameExtension.normalizeExtension_eq
  rwa [List.forall₂_eq_eq_eq] at pairs

end Discovery

/-! ## Configurations -/

namespace Config

/-- The configuration of a text as it is written there, before its extensions are
normalized. -/
def written (text : String) : Except Toml.Fault Config := do
  let entries ← Toml.read text
  record.setEntries entries record.initial

/-- A configuration with normalized extensions. -/
def normalize (config : Config) : Config :=
  { config with discovery := config.discovery.normalize }

theorem read_eq_ok_iff {text : String} {config : Config} :
    read text = .ok config ↔ ∃ draft, written text = .ok draft ∧ config = draft.normalize := by
  rw [read, written]
  cases Toml.read text with
  | error fault => simp [bind, Except.bind]
  | ok entries =>
      cases drafted : record.setEntries entries record.initial with
      | error fault => simp [bind, Except.bind, drafted]
      | ok draft => simp [bind, Except.bind, pure, Except.pure, drafted, normalize, eq_comm]

theorem eq_ok_of_toOption {result : Except Toml.Fault Config} {config : Config}
    (shown : result.toOption = some config) : result = .ok config := by
  cases result with
  | error fault => contradiction
  | ok other => rw [Option.some.inj shown]

/-- The configurations that can be had: the defaults, what a text holds, and what is
loaded. -/
inductive Obtained : Config → Prop where
  | defaults : Obtained {}
  | read {text : String} {config : Config} (valid : Config.read text = .ok config) :
      Obtained config
  | load {at? : String → Option Tree} {asked : Option String} {config : Config}
      (loaded : Config.load at? asked = .ok config) : Obtained config

/-- What is loaded comes from a text, unless it is the defaults. -/
theorem of_load_eq_ok {at? : String → Option Tree} {asked : Option String} {config : Config}
    (loaded : load at? asked = .ok config) :
    config = {} ∨ ∃ text, read text = .ok config := by
  rw [load] at loaded
  cases found : source at? asked with
  | error error => simp [found, bind, Except.bind] at loaded
  | ok file =>
      cases file with
      | none =>
          left
          simpa [found, bind, Except.bind, eq_comm] using loaded
      | some path =>
          right
          have loadedFile : loadFile at? path = .ok config := by
            simpa [found, bind, Except.bind] using loaded
          unfold loadFile at loadedFile
          split at loadedFile
          · contradiction
          · rename_i text readable
            split at loadedFile
            · contradiction
            · rename_i valid
              exact ⟨text, Except.ok.inj loadedFile ▸ valid⟩

theorem normalize_of_read {text : String} {config : Config} (valid : read text = .ok config) :
    config.normalize = config := by
  obtain ⟨draft, -, rfl⟩ := read_eq_ok_iff.mp valid
  rw [normalize, normalize, draft.discovery.normalize_normalize]

theorem Obtained.normalized {config : Config} (obtained : Obtained config) :
    config.normalize = config := by
  cases obtained with
  | defaults => decide
  | read valid => exact normalize_of_read valid
  | load loaded =>
      rcases of_load_eq_ok loaded with rfl | ⟨text, valid⟩
      · decide
      · exact normalize_of_read valid

/-- Normalizing twice is normalizing once; it lowers the extensions in place and
frees them of the points at their start, and changes nothing else.  Every
configuration that can be had is normalized, and extensions that differ in points
at their start and in the case of ASCII letters select the same paths. -/
theorem normalize_projects :
    (∀ discovery : Discovery,
      discovery.normalize.normalize = discovery.normalize ∧
        discovery.normalize.extensions.length = discovery.extensions.length ∧
        (∀ place : Nat, discovery.normalize.extensions[place]? =
          discovery.extensions[place]?.map fun extension =>
            Text.lower (Discovery.withoutPoints extension)) ∧
        discovery.normalize.exclude = discovery.exclude ∧
        ∀ extension ∈ discovery.normalize.extensions, extension.toList.head? ≠ some '.') ∧
      (∀ config, Obtained config → config.normalize = config) ∧
      ∀ discovery other : Discovery,
        List.Forall₂ Discovery.SameExtension discovery.extensions other.extensions →
          ∀ path, discovery.normalize.selects path = other.normalize.selects path := by
  refine ⟨fun discovery => ?_, fun config obtained => obtained.normalized, ?_⟩
  · refine ⟨discovery.normalize_normalize, List.length_map _, fun place => ?_, rfl, ?_⟩
    · exact List.getElem?_map
    · intro extension member
      obtain ⟨draft, -, rfl⟩ := List.mem_map.mp member
      exact Discovery.head?_normalizeExtension draft
  · intro discovery other same path
    rw [Discovery.selects, Discovery.selects, Discovery.extensions_normalize_eq same]

/-- Extensions with a sigma at the end and with a point inside. -/
def sigmaText : String :=
  "[discovery]\nextensions = [\".YAΣ\", \"drone.yml\", \"yml\"]\n"

theorem written_sigmaText :
    written sigmaText = .ok { discovery := { extensions := [".YAΣ", "drone.yml", "yml"] } } :=
  eq_ok_of_toOption (by decide +kernel)

theorem normalize_projects_sigma :
    let pointed : Discovery := { extensions := ["..drone.YML", "YAΣ"] }
    let plain : Discovery := { extensions := ["Drone.yml", ".yaΣ"] }
    pointed.normalize.normalize = pointed.normalize ∧
      (∃ config, read sigmaText = .ok config ∧ config.normalize = config) ∧
      List.Forall₂ Discovery.SameExtension pointed.extensions plain.extensions ∧
      pointed.normalize.selects "ci/build.Yaς" = plain.normalize.selects "ci/build.Yaς" := by
  intro pointed plain
  have valid := read_eq_ok_iff.mpr ⟨_, written_sigmaText, rfl⟩
  have same : List.Forall₂ Discovery.SameExtension pointed.extensions plain.extensions :=
    .cons (by decide) (.cons (by decide) .nil)
  refine ⟨(normalize_projects.1 pointed).1, ⟨_, valid, ?_⟩, same, ?_⟩
  · exact normalize_projects.2.1 _ (.read valid)
  · exact normalize_projects.2.2 pointed plain same _

/-! ## What an extension selects -/

/-- An extension of a configuration selects the files whose names end with a point
and the extension, in whatever case its ASCII letters are, exactly if it has no
point inside, or if what follows its last point is one of the extensions too. -/
theorem selects_written_iff {text : String} {config : Config} (valid : read text = .ok config) :
    ∃ draft, written text = .ok draft ∧ config = draft.normalize ∧
      ∀ extension ∈ draft.discovery.extensions,
        Discovery.withoutPoints extension ≠ "" →
        '/' ∉ (Discovery.withoutPoints extension).toList →
        ∀ part stem ending : String, Path.IsDirectoryPart part → stem ≠ "" → '/' ∉ stem.toList →
          ending.toLower = (Discovery.withoutPoints extension).toLower →
          (config.discovery.selects (part ++ (stem ++ "." ++ ending)) = true ↔
            '.' ∉ (Discovery.withoutPoints extension).toList ∨
              ∃ front back, (Discovery.withoutPoints extension).toList = front ++ '.' :: back ∧
                '.' ∉ back ∧ Text.lower (String.ofList back) ∈ config.discovery.extensions) := by
  obtain ⟨draft, drafted, rfl⟩ := read_eq_ok_iff.mp valid
  refine ⟨draft, drafted, rfl, ?_⟩
  intro extension member
  have listed : Text.lower (Discovery.withoutPoints extension) ∈
      draft.normalize.discovery.extensions := List.mem_map_of_mem member
  generalize Discovery.withoutPoints extension = bare at listed ⊢
  intro nonempty noSlash part stem ending isPart stemmed noSlashInStem same
  have letters := Text.toLower_eq_iff.mp same
  have ended : ending ≠ "" := by
    rintro rfl
    exact nonempty (String.toList_eq_nil_iff.mp (List.map_eq_nil_iff.mp letters.symm))
  have noSlashBehind : '/' ∉ ending.toList := fun slash =>
    noSlash (Text.mem_of_map_toLower_eq letters (by decide) slash)
  -- The case of the letters does not show, so the ending may be taken for the extension itself.
  have sameNames : (stem ++ "." ++ ending).toLower = (stem ++ "." ++ bare).toLower := by
    rw [Text.toLower_eq_iff]
    simp only [String.toList_append, List.map_append, letters]
  have entryName := Path.isEntryName_append stemmed ended noSlashInStem noSlashBehind
  rw [Discovery.selects_iff_of_fileName? _ (Path.fileName?_append isPart entryName)]
  constructor
  · intro has
    exact ((Discovery.hasExtension_append_iff stemmed).mp
      (has.of_toLower_eq sameNames.symm)).imp_left And.left
  · intro either
    apply Discovery.HasExtension.of_toLower_eq _ sameNames
    exact (Discovery.hasExtension_append_iff stemmed).mpr
      (either.imp_left fun pointless => ⟨pointless, listed⟩)

theorem selects_written_iff_sigma : ∃ config, read sigmaText = .ok config ∧
    config.discovery.selects ("ci/" ++ ("build" ++ "." ++ "yaΣ")) = true ∧
    config.discovery.selects ("" ++ ("ci" ++ "." ++ "Drone.yml")) = true := by
  have valid := read_eq_ok_iff.mpr ⟨_, written_sigmaText, rfl⟩
  obtain ⟨draft, drafted, normal, selects⟩ := selects_written_iff valid
  cases written_sigmaText.symm.trans drafted
  have sigma := selects ".YAΣ" (by decide) (by decide) (by decide) "ci/" "build" "yaΣ"
    (.inr (by decide)) (by decide) (by decide) (Text.toLower_eq_iff.mpr (by decide))
  have drone := selects "drone.yml" (by decide) (by decide) (by decide) "" "ci" "Drone.yml"
    (.inl rfl) (by decide) (by decide) (Text.toLower_eq_iff.mpr (by decide))
  have yml : Text.lower (String.ofList "yml".toList) ∈
      [".YAΣ", "drone.yml", "yml"].map Discovery.normalizeExtension := by decide +kernel
  exact ⟨_, valid, sigma.mpr (.inl (by decide)),
    drone.mpr (.inr ⟨"drone".toList, "yml".toList, by decide, by decide, yml⟩)⟩

/-- An extension with a point inside, and nothing else. -/
def droneText : String :=
  "[discovery]\nextensions = [\"drone.yml\"]\n"

/-- The extension of `ci.drone.yml` is `yml`, so `drone.yml` does not select it. -/
theorem innerPoint_selects_nothing :
    ∃ draft config, written droneText = .ok draft ∧ read droneText = .ok config ∧
      draft.discovery.extensions = ["drone.yml"] ∧
      Discovery.withoutPoints "drone.yml" = "drone.yml" ∧
      config.discovery.selects ("" ++ ("ci" ++ "." ++ "drone.yml")) = false := by
  have drafted : written droneText = .ok { discovery := { extensions := ["drone.yml"] } } :=
    eq_ok_of_toOption (by decide +kernel)
  exact ⟨_, _, drafted, read_eq_ok_iff.mpr ⟨_, drafted, rfl⟩, rfl, by decide, by decide +kernel⟩

end Config

end ManifestLint
