import ManifestLint.Proofs.DiscoveredFiles
import ManifestLint.Proofs.SarifReadBack
import Mathlib.Data.List.Forall2

/-!
# References to files

The location of a result refers to a file by a uniform resource identifier.  What it writes
there is the path of the file with slashes for backslashes and nothing encoded, so it refers
to the file exactly if every character of the path stands for itself in a reference.  Paths
that differ in their slashes alone get one reference for several files.
-/

namespace ManifestLint

namespace Uri

/-! ## References -/

/-- Whether a character stands for itself in the path of a reference. -/
def isPathChar (c : Char) : Bool :=
  c.isAlphanum || "-._~!$&'()*+,;=:@/".toList.contains c

/-- Whether a character stands for itself behind the path. -/
def isEndingChar (c : Char) : Bool :=
  isPathChar c || c = '?'

/-- A text spells octets: some characters stand for themselves, and any octet can be written
as a percent sign with two hexadecimal digits. -/
inductive Spells (isPlain : Char → Bool) : List Char → List UInt8 → Prop where
  | nil : Spells isPlain [] []
  | plain {c : Char} {rest : List Char} {octets : List UInt8} (itself : isPlain c = true)
      (others : Spells isPlain rest octets) :
      Spells isPlain (c :: rest) (c.toNat.toUInt8 :: octets)
  | encoded {high low : Char} {octet : Nat} {rest : List Char} {octets : List UInt8}
      (digits : Number.ofDigits? 16 [high, low] = some octet)
      (others : Spells isPlain rest octets) :
      Spells isPlain ('%' :: high :: low :: rest) (octet.toUInt8 :: octets)

/-- The path of a relative reference.  Two slashes in front would name a host, and a colon in
the first segment would end a scheme. -/
structure IsPath (path : List Char) (octets : List UInt8) : Prop where
  spells : Spells isPathChar path octets
  noHost : ¬ ['/', '/'] <+: path
  noScheme : ':' ∉ path.takeWhile (· ≠ '/')

/-- A query or a fragment, which may be missing. -/
def IsEnding (mark : Char) (ending : List Char) : Prop :=
  ending = [] ∨ ∃ content octets, ending = mark :: content ∧ Spells isEndingChar content octets

/-- A relative reference whose path spells octets.  References that name a host are left out:
behind the host stands nothing or a slash, so none of them leads to a relative path. -/
inductive IsReference : List Char → List UInt8 → Prop where
  | of {path query fragment : List Char} {octets : List UInt8} (isPath : IsPath path octets)
      (isQuery : IsEnding '?' query) (isFragment : IsEnding '#' fragment) :
      IsReference (path ++ query ++ fragment) octets

/-- A text is a relative reference to a file: its path spells the name of the file. -/
def Identifies (uri file : String) : Prop :=
  ∃ octets, IsReference uri.toList octets ∧ octets.toByteArray = file.toUTF8

/-! ## Octets and characters -/

theorem val_le_of_isAlphanum {c : Char} (word : c.isAlphanum = true) : c.val ≤ 127 := by
  have upper (is : c.isUpper = true) : c.val ≤ 'Z'.val := (of_decide_eq_true is).2
  have lower (is : c.isLower = true) : c.val ≤ 'z'.val :=
    of_decide_eq_true (Bool.and_eq_true_iff.mp is).2
  have digit (is : c.isDigit = true) : c.val ≤ '9'.val :=
    of_decide_eq_true (Bool.and_eq_true_iff.mp is).2
  rcases Bool.or_eq_true_iff.mp word with letter | isDigit
  · rcases Bool.or_eq_true_iff.mp letter with isUpper | isLower
    · exact UInt32.le_trans (upper isUpper) (by decide)
    · exact UInt32.le_trans (lower isLower) (by decide)
  · exact UInt32.le_trans (digit isDigit) (by decide)

theorem utf8Size_eq_one_of_isPathChar {c : Char} (plain : isPathChar c = true) :
    c.utf8Size = 1 := by
  have marks : "-._~!$&'()*+,;=:@/".toList.all (fun c => decide (c.val ≤ 127)) = true := by
    decide
  rw [Char.utf8Size_eq_one_iff]
  rw [isPathChar, Bool.or_eq_true, List.contains_iff_mem] at plain
  rcases plain with word | mark
  · exact val_le_of_isAlphanum word
  · exact of_decide_eq_true (List.all_eq_true.mp marks c mark)

/-- The octets of a text. -/
def octetsOf (text : List Char) : List UInt8 :=
  text.flatMap String.utf8EncodeChar

theorem toByteArray_octetsOf (text : List Char) :
    (octetsOf text).toByteArray = (String.ofList text).toUTF8 := by
  rw [String.toUTF8_eq_toByteArray, String.toByteArray_ofList]
  rfl

theorem octetsOf_injective {text other : List Char} (same : octetsOf text = octetsOf other) :
    text = other := by
  have bytes := congrArg List.toByteArray same
  rw [toByteArray_octetsOf, toByteArray_octetsOf, String.toUTF8_eq_toByteArray,
    String.toUTF8_eq_toByteArray, String.toByteArray_inj] at bytes
  exact String.ofList_injective bytes

theorem octetsOf_cons_of_isPathChar {c : Char} (plain : isPathChar c = true)
    (rest : List Char) : octetsOf (c :: rest) = c.toNat.toUInt8 :: octetsOf rest := by
  rw [octetsOf, List.flatMap_cons,
    String.utf8EncodeChar_eq_singleton (utf8Size_eq_one_of_isPathChar plain)]
  rfl

/-- A character takes at least one octet. -/
theorem length_le_length_octetsOf (text : List Char) : text.length ≤ (octetsOf text).length := by
  induction text with
  | nil => exact Nat.le_refl 0
  | cons c rest ih =>
      have some := c.utf8Size_pos
      rw [octetsOf, List.flatMap_cons, List.length_append, String.length_utf8EncodeChar,
        List.length_cons]
      rw [octetsOf] at ih
      omega

namespace Spells

variable {isPlain : Char → Bool} {text : List Char} {octets : List UInt8}

/-- No octet takes less than one character. -/
theorem length_le (spells : Spells isPlain text octets) : octets.length ≤ text.length := by
  induction spells with
  | nil => exact Nat.le_refl 0
  | plain itself others ih => exact Nat.succ_le_succ ih
  | encoded digits others ih => exact Nat.le_succ_of_le (Nat.le_succ_of_le (Nat.succ_le_succ ih))

/-- Where there are as many octets as characters nothing is encoded. -/
theorem eq_octetsOf (spells : Spells isPathChar text octets)
    (full : text.length ≤ octets.length) :
    (∀ c ∈ text, isPathChar c = true) ∧ octets = octetsOf text := by
  induction spells with
  | nil => exact ⟨List.forall_mem_nil _, rfl⟩
  | plain itself others ih =>
      obtain ⟨plain, same⟩ := ih (Nat.le_of_succ_le_succ full)
      exact ⟨List.forall_mem_cons.mpr ⟨itself, plain⟩,
        by rw [octetsOf_cons_of_isPathChar itself, same]⟩
  | encoded digits others ih =>
      have short := others.length_le
      simp only [List.length_cons] at full
      omega

theorem of_plain (plain : ∀ c ∈ text, isPathChar c = true) :
    Spells isPathChar text (octetsOf text) := by
  induction text with
  | nil => exact .nil
  | cons c rest ih =>
      obtain ⟨itself, others⟩ := List.forall_mem_cons.mp plain
      rw [octetsOf_cons_of_isPathChar itself]
      exact .plain itself (ih others)

end Spells

/-! ## Paths without encoding -/

/-- A path that leads on from some directory. -/
def IsRelative (file : String) : Prop :=
  file.toList.head? ≠ some '/'
deriving Decidable

/-- A path of which every character stands for itself.  A colon in its first segment would
end a scheme. -/
structure IsLiteral (file : String) : Prop where
  plain : ∀ c ∈ file.toList, isPathChar c = true
  noScheme : ':' ∉ file.toList.takeWhile (· ≠ '/')

theorem isLiteral_iff {file : String} :
    IsLiteral file ↔
      file.toList.all isPathChar = true ∧ ':' ∉ file.toList.takeWhile (· ≠ '/') := by
  rw [List.all_eq_true]
  exact ⟨fun literal => ⟨literal.plain, literal.noScheme⟩, fun parts => ⟨parts.1, parts.2⟩⟩

instance (file : String) : Decidable (IsLiteral file) :=
  decidable_of_iff' _ isLiteral_iff

/-- A literal path is a reference as it stands. -/
theorem IsLiteral.isReference {file : String} (literal : IsLiteral file)
    (relative : IsRelative file) : IsReference file.toList (octetsOf file.toList) := by
  have isPath : IsPath file.toList (octetsOf file.toList) := by
    refine ⟨.of_plain literal.plain, ?_, literal.noScheme⟩
    rintro ⟨rest, spelled⟩
    exact relative (by rw [← spelled]; rfl)
  have reference := IsReference.of isPath (.inl rfl) (.inl rfl)
  rwa [List.append_nil, List.append_nil] at reference

theorem identifies_iff_octetsOf {uri file : String} :
    Identifies uri file ↔ IsReference uri.toList (octetsOf file.toList) := by
  have octets_iff (octets : List UInt8) :
      octets.toByteArray = file.toUTF8 ↔ octets = octetsOf file.toList := by
    rw [← List.toByteArray_inj, toByteArray_octetsOf, String.ofList_toList]
  simp only [Identifies, octets_iff, exists_eq_right]

/-- A reference of no more characters than the path that it leads to is this path. -/
theorem IsReference.eq_of_length_le {uri file : List Char}
    (reference : IsReference uri (octetsOf file)) (short : uri.length ≤ file.length) :
    uri = file ∧ IsPath file (octetsOf file) ∧ ∀ c ∈ file, isPathChar c = true := by
  obtain @⟨path, query, fragment, _, isPath, isQuery, isFragment⟩ := reference
  have spelled := isPath.spells.length_le
  have written := length_le_length_octetsOf file
  rw [List.length_append, List.length_append] at short
  obtain ⟨plain, same⟩ := isPath.spells.eq_octetsOf (by omega)
  obtain rfl := octetsOf_injective same
  have noQuery : query = [] := List.eq_nil_of_length_eq_zero (by omega)
  have noFragment : fragment = [] := List.eq_nil_of_length_eq_zero (by omega)
  refine ⟨?_, isPath, plain⟩
  rw [noQuery, noFragment, List.append_nil, List.append_nil]

end Uri

open ManifestLint.Uri (Identifies IsLiteral IsRelative octetsOf)

namespace Report

/-! ## What the locations refer to -/

/-- A slash for a backslash. -/
def slashed (c : Char) : Char :=
  if c = '\\' then '/' else c

theorem toList_fileUri (file : String) : (fileUri file).toList = file.toList.map slashed :=
  String.toList_map

/-- There is no backslash in a literal path. -/
theorem map_slashed {file : String} (literal : IsLiteral file) :
    file.toList.map slashed = file.toList := by
  have itself : ∀ c ∈ file.toList, slashed c = id c := by
    intro c member
    have plain := literal.plain c member
    rw [slashed, if_neg]
    · rfl
    · rintro rfl
      exact absurd plain (by decide)
  rw [List.map_congr_left itself, List.map_id]

/-- The reference of a location leads to its file exactly if the path of the file is literal. -/
theorem identifies_fileUri_iff {file : String} (relative : IsRelative file) :
    Identifies (fileUri file) file ↔ IsLiteral file := by
  rw [Uri.identifies_iff_octetsOf, toList_fileUri]
  constructor
  · intro reference
    obtain ⟨-, isPath, plain⟩ := reference.eq_of_length_le (by rw [List.length_map])
    exact ⟨plain, isPath.noScheme⟩
  · intro literal
    rw [map_slashed literal]
    exact literal.isReference relative

/-- Whether a character stands where a path is divided, on one system or another. -/
def isSlash (c : Char) : Bool :=
  c = '/' || c = '\\'

/-- Two paths agree in all their characters, slashes and backslashes counted as one. -/
def SameButSlashes (file other : String) : Prop :=
  List.Forall₂ (fun c d => c = d ∨ isSlash c = true ∧ isSlash d = true) file.toList other.toList

theorem slashed_eq_iff {c d : Char} :
    slashed c = slashed d ↔ c = d ∨ isSlash c = true ∧ isSlash d = true := by
  unfold slashed
  grind [isSlash]

/-- Two locations have one reference exactly if their files differ in their slashes alone. -/
theorem fileUri_eq_iff {file other : String} :
    fileUri file = fileUri other ↔ SameButSlashes file other := by
  rw [← String.toList_inj, toList_fileUri, toList_fileUri, SameButSlashes, ← List.forall₂_eq_eq_eq,
    List.forall₂_map_left_iff, List.forall₂_map_right_iff]
  simp only [slashed_eq_iff]

end Report

/-- The location of a result refers to a file. -/
def ResultEntry.Locates (result : ResultEntry) (file : String) : Prop :=
  ∃ uri, result.uri = some uri ∧ Uri.Identifies uri file

namespace Report

theorem locates_of_iff {finding : Finding} {file : String} (within : finding.file = some file)
    (relative : IsRelative file) : (ResultEntry.of finding).Locates file ↔ IsLiteral file := by
  rw [← identifies_fileUri_iff relative]
  simp only [ResultEntry.Locates, ResultEntry.of, within, Option.map_some, Option.some.injEq,
    exists_eq_left']

theorem uri_of_eq_iff {first second : Finding} {file other : String}
    (within : first.file = some file) (behind : second.file = some other) :
    (ResultEntry.of first).uri = (ResultEntry.of second).uri ↔ SameButSlashes file other := by
  rw [← fileUri_eq_iff]
  simp only [ResultEntry.of, within, behind, Option.map_some, Option.some.injEq]

/-! ## Main statement -/

/-- The log of a report has one result for each finding.  The location of a result refers to
the file of its finding exactly if the path of this file is literal, and two locations have
one reference exactly if the paths of the files differ in their slashes alone. -/
theorem sarif_locates_iff (report : Report) : ∃ log,
    (Json.read report.sarif).bind SarifLog.ofJson = some log ∧
      log.results.length = report.findings.length ∧
      (∀ found ∈ report.findings.zip log.results, ∀ file, found.1.file = some file →
        IsRelative file → (found.2.Locates file ↔ IsLiteral file)) ∧
      ∀ first ∈ report.findings.zip log.results, ∀ second ∈ report.findings.zip log.results,
        ∀ file other, first.1.file = some file → second.1.file = some other →
          (first.2.uri = second.2.uri ↔ SameButSlashes file other) := by
  have paired : report.findings.zip report.sarifLog.results =
      report.findings.map fun finding => (finding, .of finding) := by
    rw [sarifLog, List.map_prod_left_eq_zip]
  refine ⟨report.sarifLog, report.read_sarif, List.length_map _, ?_, ?_⟩
  · rw [paired, List.forall_mem_map]
    intro finding _ file within relative
    exact locates_of_iff within relative
  · rw [paired, List.forall_mem_map]
    intro first _
    rw [List.forall_mem_map]
    intro second _ file other within behind
    exact uri_of_eq_iff within behind

/-- A finding in each of some files. -/
def rejectedIn (files : List String) : Report where
  target := "ci"
  timestamp := "2024-05-01T00:00:00+00:00"
  trusted := false
  files := files.map fun file =>
    { file, resourcesLinted := 1, parseFailed := false, duration := 0,
      findings :=
        [ { ruleId := "container/missing-image", message := "linter: invalid or missing image",
            file := some file, resource := none, kind := some "pipeline", document := some 0,
            remediation := none } ] }

theorem sarif_locates_releaseNotes : ∃ log first second,
    (Json.read (rejectedIn ["ci/build.yml", "ci/release notes.yml"]).sarif).bind
        SarifLog.ofJson = some log ∧
      log.results = [first, second] ∧ first.Locates "ci/build.yml" ∧
      ¬ second.Locates "ci/release notes.yml" ∧ first.uri ≠ second.uri := by
  obtain ⟨log, read, counted, located, distinct⟩ :=
    sarif_locates_iff (rejectedIn ["ci/build.yml", "ci/release notes.yml"])
  obtain ⟨first, second, results⟩ := List.length_eq_two.mp counted
  rw [results] at located distinct
  have literal : IsLiteral "ci/build.yml" := by decide
  have blank : ¬ IsLiteral "ci/release notes.yml" := by decide
  have apart : ¬ SameButSlashes "ci/build.yml" "ci/release notes.yml" :=
    fun same => absurd same.length_eq (by decide)
  refine ⟨log, first, second, read, results, ?_, ?_, ?_⟩
  · exact (located (_, first) (.head _) _ rfl (by decide)).mpr literal
  · exact fun locates =>
      blank ((located (_, second) (.tail _ (.head _)) _ rfl (by decide)).mp locates)
  · exact fun shared =>
      apart ((distinct (_, first) (.head _) (_, second) (.tail _ (.head _)) _ _ rfl rfl).mp shared)

/-- The entries of a directory whose files hold a pipeline with a step that has no image. -/
def withoutImages : List (String × Tree) :=
  let pipeline := Tree.file "kind: pipeline\nsteps:\n- name: build\n".toUTF8
  [("a", .directory [("b.yml", pipeline)]), ("a\\b.yml", pipeline), ("release notes.yml", pipeline)]

/-- A file in a directory and one with a backslash in its name share their reference, and a
name with a blank leads to no reference at all. -/
theorem sharedReference :
    let report := lint {} "ci" ⟨"now", fun _ => 0⟩ (some (.directory withoutImages))
    report.findings.map (·.file) =
        [some "ci/a/b.yml", some "ci/a\\b.yml", some "ci/release notes.yml"] ∧
      ∃ log first second third, (Json.read report.sarif).bind SarifLog.ofJson = some log ∧
        log.results = [first, second, third] ∧ first.uri = second.uri ∧
        ¬ second.Locates "ci/a\\b.yml" ∧ ¬ third.Locates "ci/release notes.yml" := by
  intro report
  have sorted : (({} : Config).discovery.filesIn "ci" withoutImages).Pairwise fun left right =>
      Path.precedes left.path right.path = true := by
    decide +kernel
  have files : report.findings.map (·.file) =
      [some "ci/a/b.yml", some "ci/a\\b.yml", some "ci/release notes.yml"] := by
    change ((ofLoaded {} "ci" ⟨"now", fun _ => 0⟩ _).findings.map (·.file)) = _
    rw [LoadedFile.all, Discovery.discover_of_sorted _ sorted]
    decide +kernel
  obtain ⟨first, second, third, findings⟩ :=
    List.length_eq_three.mp (by simpa using congrArg List.length files)
  rw [findings] at files
  simp only [List.map_cons, List.map_nil, List.cons.injEq, and_true] at files
  obtain ⟨inFirst, inSecond, inThird⟩ := files
  have same : SameButSlashes "ci/a/b.yml" "ci/a\\b.yml" := by
    unfold SameButSlashes
    decide
  have backslash : ¬ IsLiteral "ci/a\\b.yml" := by decide
  have blank : ¬ IsLiteral "ci/release notes.yml" := by decide
  refine ⟨by rw [findings]; simp only [List.map_cons, List.map_nil, inFirst, inSecond, inThird],
    report.sarifLog, .of first, .of second, .of third, report.read_sarif, ?_, ?_, ?_, ?_⟩
  · rw [sarifLog, findings]
    rfl
  · exact (uri_of_eq_iff inFirst inSecond).mpr same
  · exact fun locates => backslash ((locates_of_iff inSecond (by decide)).mp locates)
  · exact fun locates => blank ((locates_of_iff inThird (by decide)).mp locates)

end Report

end ManifestLint
