import ManifestLint.Run
import ManifestLint.Tree.Writing
import Mathlib.Data.List.Lex
import Mathlib.Data.String.Basic

/-!
# The files that are discovered

A walk through a directory finds the files with one of the extensions that no
directory with an excluded name is above, and lists them by their names on the
way down.  What it finds depends on what is at which place alone, so the order in
which directories list their entries does not show.
-/

namespace ManifestLint

namespace Text

theorem split_of_not_mem {separator : Char} {text : List Char} (absent : separator ∉ text) :
    split separator text = [text] := by
  induction text with
  | nil => rfl
  | cons c rest ih =>
      rw [List.mem_cons, not_or] at absent
      rw [split, if_neg fun equal => absent.1 equal.symm, ih absent.2]

theorem split_append_cons (separator : Char) (before after : List Char) :
    split separator (before ++ separator :: after) =
      split separator before ++ split separator after := by
  induction before with
  | nil => simp [split]
  | cons c rest ih =>
      rw [List.cons_append, split, split]
      by_cases here : c = separator
      · rw [if_pos here, if_pos here, ih]
        rfl
      · rw [if_neg here, if_neg here, ih]
        cases parts : split separator rest with
        | nil => exact absurd parts (split_ne_nil separator rest)
        | cons part others => rfl

end Text

namespace Path

/-! ## Names on the way -/

/-- The names that an entry of a directory can have. -/
structure IsEntryName (name : String) : Prop where
  noSlash : '/' ∉ name.toList
  leads : isIdle name = false
  down : name ≠ ".."

instance (name : String) : Decidable (IsEntryName name) :=
  decidable_of_iff ('/' ∉ name.toList ∧ isIdle name = false ∧ name ≠ "..")
    ⟨fun ⟨noSlash, leads, down⟩ => ⟨noSlash, leads, down⟩,
      fun ⟨noSlash, leads, down⟩ => ⟨noSlash, leads, down⟩⟩

/-- The path of what is at a place below a directory. -/
def below (directory : String) (place : List String) : String :=
  place.foldl join directory

theorem parts_of_entryName {name : String} (entryName : IsEntryName name) :
    parts name = [name] := by
  rw [parts, Text.split_of_not_mem entryName.noSlash]
  simp

/-- The path of an entry leads through the directory to the entry. -/
theorem names_join (directory : String) {name : String} (entryName : IsEntryName name) :
    names (join directory name) = names directory ++ [name] := by
  have alone : (parts name).filter (fun part => !isIdle part) = [name] := by
    simp [parts_of_entryName entryName, entryName.leads]
  have slash : "/".toList = ['/'] := rfl
  unfold join
  split
  · rename_i slashed
    rcases List.getLast?_eq_some_iff.mp slashed with ⟨start, spelled⟩
    have whole : parts (directory ++ name) =
        (Text.split '/' start).map String.ofList ++ parts name := by
      rw [parts, String.toList_append, spelled, List.append_assoc, List.singleton_append,
        Text.split_append_cons, List.map_append]
      rfl
    have directoryParts : parts directory = (Text.split '/' start).map String.ofList ++ [""] := by
      rw [parts, spelled, Text.split_append_cons, List.map_append]
      rfl
    have idle : isIdle "" = true := rfl
    rw [names, names, whole, directoryParts, List.filter_append, List.filter_append, alone]
    simp [idle]
  · have whole : parts (directory ++ "/" ++ name) = parts directory ++ parts name := by
      rw [parts, String.toList_append, String.toList_append, List.append_assoc, slash,
        List.singleton_append, Text.split_append_cons, List.map_append]
      rfl
    rw [names, whole, List.filter_append, alone]
    rfl

theorem names_below (directory : String) {place : List String}
    (entryNames : ∀ name ∈ place, IsEntryName name) :
    names (below directory place) = names directory ++ place := by
  induction place generalizing directory with
  | nil => simp [below]
  | cons name rest ih =>
      rw [List.forall_mem_cons] at entryNames
      have deeper := ih (join directory name) entryNames.2
      rw [names_join directory entryNames.1, List.append_assoc] at deeper
      exact deeper

theorem fileName?_join (directory : String) {name : String} (entryName : IsEntryName name) :
    fileName? (join directory name) = some name := by
  simp [fileName?, names_join directory entryName, entryName.down]

/-- The extension of a path is that of the name it leads to. -/
theorem extension?_of_fileName? {path name : String} (last : fileName? path = some name) :
    extension? path = (extensionOf? name.toList).map String.ofList := by
  simp only [extension?, last, Option.bind_eq_bind, Option.bind_some]
  cases extensionOf? name.toList <;> rfl

/-- A name has an extension if it has a point behind its first character; the
extension is what follows the last point. -/
theorem extensionOf?_eq_some_iff {name ending : List Char} :
    extensionOf? name = some ending ↔
      ∃ start, name = start ++ '.' :: ending ∧ start ≠ [] ∧ '.' ∉ ending := by
  constructor
  · intro found
    have pointless : ∀ c ∈ name.reverse.takeWhile (· != '.'), c ≠ '.' := by
      intro c member
      simpa using List.all_eq_true.mp List.all_takeWhile c member
    have atPoint := List.head?_dropWhile_not (· != '.') name.reverse
    have whole := List.takeWhile_append_dropWhile (p := (· != '.')) (l := name.reverse)
    rw [extensionOf?] at found
    generalize name.reverse.takeWhile (· != '.') = last at found pointless whole
    generalize name.reverse.dropWhile (· != '.') = behind at atPoint whole
    rw [← whole, List.drop_left] at found
    split at found
    · rename_i point first others
      have isPoint : point = '.' := by simpa using atPoint
      rw [← Option.some.inj found]
      refine ⟨(first :: others).reverse, ?_, by simp, ?_⟩
      · rw [← List.reverse_reverse name, ← whole, isPoint]
        simp
      · rw [List.mem_reverse]
        exact fun member => pointless _ member rfl
    · contradiction
  · rintro ⟨start, rfl, nonempty, pointless⟩
    have taken : (start ++ '.' :: ending).reverse.takeWhile (· != '.') = ending.reverse := by
      rw [List.reverse_append, List.reverse_cons, List.append_assoc,
        List.takeWhile_append_of_pos]
      · simp
      · intro c member
        have differs : c ≠ '.' := by
          rintro rfl
          exact pointless (List.mem_reverse.mp member)
        simpa using differs
    have behind : (start ++ '.' :: ending).reverse.drop ending.reverse.length =
        '.' :: start.reverse := by
      simp
    rw [extensionOf?, taken, behind]
    cases spelled : start.reverse with
    | nil => exact absurd (List.reverse_eq_nil_iff.mp spelled) nonempty
    | cons c others => simp

/-! ## The order of names -/

theorem namesPrecede_iff {left right : List String} :
    namesPrecede left right = true ↔ ¬ right < left := by
  induction left generalizing right with
  | nil => simp [namesPrecede]
  | cons first lefts ih =>
      cases right with
      | nil => simp [namesPrecede]
      | cons other rights =>
          rw [namesPrecede, List.cons_lt_cons_iff]
          by_cases equal : first = other
          · simp [equal, ih]
          · rw [if_neg equal, decide_eq_true_eq]
            constructor
            · rintro before (after | ⟨same, -⟩)
              · exact String.lt_asymm before after
              · exact equal same.symm
            · intro notAfter
              rcases lt_trichotomy first other with before | same | after
              · exact before
              · exact absurd same equal
              · exact absurd (Or.inl after) notAfter

theorem precedes_trans (first second third : String) (early : precedes first second = true)
    (late : precedes second third = true) : precedes first third = true := by
  rw [precedes, namesPrecede_iff, not_lt] at early late ⊢
  exact early.trans late

theorem precedes_total (left right : String) :
    (precedes left right || precedes right left) = true := by
  rw [Bool.or_eq_true, precedes, precedes, namesPrecede_iff, namesPrecede_iff, not_lt, not_lt]
  exact le_total _ _

end Path

namespace Tree

/-! ## Trees of a file system -/

/-- The entries of every directory have names that entries can have, and no two
entries of one directory have the same. -/
inductive WellFormed : Tree → Prop where
  | file (content : ByteArray) : WellFormed (.file content)
  | directory {entries : List (String × Tree)}
      (named : ∀ entry ∈ entries, Path.IsEntryName entry.1)
      (distinct : (entries.map Prod.fst).Nodup)
      (inside : ∀ entry ∈ entries, WellFormed entry.2) :
      WellFormed (.directory entries)

/-- Two trees differ at most in the order in which directories list their
entries. -/
inductive Reordered : Tree → Tree → Prop where
  | refl (tree : Tree) : Reordered tree tree
  | entries {entries others : List (String × Tree)} (perm : entries.Perm others) :
      Reordered (.directory entries) (.directory others)
  | inside (before after : List (String × Tree)) (name : String) {tree other : Tree}
      (reordered : Reordered tree other) :
      Reordered (.directory (before ++ (name, tree) :: after))
        (.directory (before ++ (name, other) :: after))
  | trans {first second third : Tree} (early : Reordered first second)
      (late : Reordered second third) : Reordered first third

theorem lookup_eq_some_iff_mem {entries : List (String × Tree)}
    (distinct : (entries.map Prod.fst).Nodup) {name : String} {tree : Tree} :
    entries.lookup name = some tree ↔ (name, tree) ∈ entries := by
  induction entries with
  | nil => simp
  | cons entry rest ih =>
      rcases entry with ⟨first, here⟩
      rw [List.map_cons, List.nodup_cons] at distinct
      rw [List.lookup_cons, List.mem_cons, Prod.mk.injEq]
      by_cases equal : name = first
      · subst equal
        have notLater : (name, tree) ∉ rest := by
          intro later
          exact distinct.1 (List.mem_map.mpr ⟨_, later, rfl⟩)
        simp [notLater, eq_comm]
      · simp [beq_eq_false_iff_ne.mpr equal, equal, ih distinct.2]

/-- A file in a directory is a file in one of its entries. -/
theorem fileAt?_directory_iff {entries : List (String × Tree)}
    (distinct : (entries.map Prod.fst).Nodup) {place : List String} {content : ByteArray} :
    (directory entries).fileAt? place = some content ↔
      ∃ entry ∈ entries, ∃ rest, place = entry.1 :: rest ∧
        entry.2.fileAt? rest = some content := by
  cases place with
  | nil => simp [fileAt?]
  | cons name rest =>
      rw [fileAt?_cons, Option.bind_eq_some_iff]
      constructor
      · rintro ⟨tree, found, file⟩
        exact ⟨(name, tree), (lookup_eq_some_iff_mem distinct).mp found, rest, rfl, file⟩
      · rintro ⟨⟨first, tree⟩, member, others, spelled, file⟩
        cases spelled
        exact ⟨tree, (lookup_eq_some_iff_mem distinct).mpr member, file⟩

theorem WellFormed.distinct {entries : List (String × Tree)}
    (wellFormed : WellFormed (.directory entries)) : (entries.map Prod.fst).Nodup := by
  cases wellFormed with
  | directory named distinct inside => exact distinct

theorem WellFormed.entryNames {tree : Tree} (wellFormed : tree.WellFormed) {place : List String}
    {content : ByteArray} (file : tree.fileAt? place = some content) :
    ∀ name ∈ place, Path.IsEntryName name := by
  induction wellFormed generalizing place with
  | file octets =>
      cases place with
      | nil => simp
      | cons name rest => simp [fileAt?_cons, child?] at file
  | directory named distinct inside ih =>
      rcases (fileAt?_directory_iff distinct).mp file with ⟨entry, member, rest, rfl, deeper⟩
      rw [List.forall_mem_cons]
      exact ⟨named entry member, ih entry member deeper⟩

theorem Reordered.wellFormed {tree other : Tree} (reordered : Reordered tree other)
    (wellFormed : tree.WellFormed) : other.WellFormed := by
  induction reordered with
  | refl tree => exact wellFormed
  | entries perm =>
      cases wellFormed with
      | directory named distinct inside =>
          constructor
          · exact fun entry member => named entry (perm.mem_iff.mpr member)
          · exact (perm.map Prod.fst).nodup distinct
          · exact fun entry member => inside entry (perm.mem_iff.mpr member)
  | @inside before after name tree other reordered ih =>
      cases wellFormed with
      | directory named distinct inside =>
          rw [List.forall_mem_append, List.forall_mem_cons] at named inside
          constructor
          · rw [List.forall_mem_append, List.forall_mem_cons]
            exact named
          · simpa using distinct
          · rw [List.forall_mem_append, List.forall_mem_cons]
            exact ⟨inside.1, ih inside.2.1, inside.2.2⟩
  | trans early late earlyIh lateIh => exact lateIh (earlyIh wellFormed)

/-- The order in which entries are listed does not change what is at a place. -/
theorem Reordered.fileAt?_iff {tree other : Tree} (reordered : Reordered tree other)
    (wellFormed : tree.WellFormed) {place : List String} {content : ByteArray} :
    other.fileAt? place = some content ↔ tree.fileAt? place = some content := by
  induction reordered generalizing place with
  | refl tree => exact Iff.rfl
  | entries perm =>
      have others := ((Reordered.entries perm).wellFormed wellFormed).distinct
      rw [fileAt?_directory_iff others, fileAt?_directory_iff wellFormed.distinct]
      simp only [perm.mem_iff]
  | @inside before after name tree other reordered ih =>
      have others := ((Reordered.inside before after name reordered).wellFormed wellFormed).distinct
      rw [fileAt?_directory_iff others, fileAt?_directory_iff wellFormed.distinct]
      cases wellFormed with
      | directory named distinct inside =>
          have same {rest : List String} : other.fileAt? rest = some content ↔
              tree.fileAt? rest = some content := ih (inside (name, tree) (by simp))
          simp only [List.mem_append, List.mem_cons, or_and_right, exists_or, exists_eq_left, same]
  | trans early late earlyIh lateIh =>
      exact (lateIh (early.wellFormed wellFormed)).trans (earlyIh wellFormed)

end Tree

namespace Discovery

variable (discovery : Discovery)

/-! ## What is found -/

/-- A name has a point behind its first character, and what follows its last
point is one of the extensions in lower case. -/
def HasExtension (name : String) : Prop :=
  ∃ start ending, name.toList = start ++ '.' :: ending ∧ start ≠ [] ∧ '.' ∉ ending ∧
    Text.lower (String.ofList ending) ∈ discovery.extensions

/-- No directory on the way to a place has an excluded name, and the name at the
place has one of the extensions. -/
def Chooses (place : List String) : Prop :=
  ∃ directories name, place = directories ++ [name] ∧
    (∀ directory ∈ directories, directory ∉ discovery.exclude) ∧ discovery.HasExtension name

/-- Whether a name has one of the extensions hangs on what follows its last
point. -/
theorem hasExtension_iff {name : String} {start ending : List Char}
    (spelled : name.toList = start ++ '.' :: ending) (nonempty : start ≠ [])
    (pointless : '.' ∉ ending) :
    discovery.HasExtension name ↔ Text.lower (String.ofList ending) ∈ discovery.extensions := by
  constructor
  · rintro ⟨otherStart, other, otherSpelled, otherNonempty, otherPointless, listed⟩
    have found := Path.extensionOf?_eq_some_iff.mpr ⟨start, spelled, nonempty, pointless⟩
    have otherFound := Path.extensionOf?_eq_some_iff.mpr
      ⟨otherStart, otherSpelled, otherNonempty, otherPointless⟩
    rw [found, Option.some.injEq] at otherFound
    rwa [otherFound]
  · intro listed
    exact ⟨start, ending, spelled, nonempty, pointless, listed⟩

/-- A path is selected if the name it leads to has one of the extensions. -/
theorem selects_iff_of_fileName? {path name : String} (last : Path.fileName? path = some name) :
    discovery.selects path = true ↔ discovery.HasExtension name := by
  rw [selects, Path.extension?_of_fileName? last]
  cases found : Path.extensionOf? name.toList with
  | none =>
      simp only [Option.map_none, Bool.false_eq_true, false_iff]
      rintro ⟨start, ending, spelled, nonempty, pointless, -⟩
      have extension := Path.extensionOf?_eq_some_iff.mpr ⟨start, spelled, nonempty, pointless⟩
      rw [found] at extension
      contradiction
  | some ending =>
      obtain ⟨start, spelled, nonempty, pointless⟩ := Path.extensionOf?_eq_some_iff.mp found
      rw [Option.map_some, discovery.hasExtension_iff spelled nonempty pointless]
      exact List.contains_iff_mem

theorem selects_join_iff (directory : String) {name : String}
    (entryName : Path.IsEntryName name) :
    discovery.selects (Path.join directory name) = true ↔ discovery.HasExtension name :=
  discovery.selects_iff_of_fileName? (Path.fileName?_join directory entryName)

theorem chooses_singleton_iff (name : String) :
    discovery.Chooses [name] ↔ discovery.HasExtension name := by
  constructor
  · rintro ⟨directories, other, spelled, -, extension⟩
    rcases List.append_eq_singleton_iff.mp spelled.symm with ⟨-, same⟩ | ⟨-, same⟩
    · cases same
      exact extension
    · contradiction
  · intro extension
    exact ⟨[], name, rfl, List.forall_mem_nil _, extension⟩

theorem chooses_cons_cons_iff (name next : String) (rest : List String) :
    discovery.Chooses (name :: next :: rest) ↔
      name ∉ discovery.exclude ∧ discovery.Chooses (next :: rest) := by
  constructor
  · rintro ⟨directories, last, spelled, entered, extension⟩
    cases directories with
    | nil => simp at spelled
    | cons first others =>
        rcases List.cons.inj spelled with ⟨rfl, deeper⟩
        rw [List.forall_mem_cons] at entered
        exact ⟨entered.1, others, last, deeper, entered.2, extension⟩
  · rintro ⟨notExcluded, directories, last, spelled, entered, extension⟩
    refine ⟨name :: directories, last, ?_, ?_, extension⟩
    · rw [spelled, List.cons_append]
    · exact List.forall_mem_cons.mpr ⟨notExcluded, entered⟩

theorem filesIn_eq_flatMap (path : String) (entries : List (String × Tree)) :
    discovery.filesIn path entries =
      entries.flatMap fun entry => discovery.filesOf (Path.join path entry.1) entry.1 entry.2 := by
  induction entries with
  | nil => rfl
  | cons entry rest ih =>
      rw [List.flatMap_cons, ← ih]
      rfl

/-- What a walk finds in an entry of a directory. -/
def Finds (path : String) (name : String) (tree : Tree) (source : SourceFile) : Prop :=
  ∃ place content, tree.fileAt? place = some content ∧ discovery.Chooses (name :: place) ∧
    source = ⟨Path.below path (name :: place), content⟩

/-- A directory is entered for each of its entries, unless its name is excluded. -/
theorem finds_directory_iff {entries : List (String × Tree)}
    (distinct : (entries.map Prod.fst).Nodup) (path name : String) (source : SourceFile) :
    discovery.Finds path name (.directory entries) source ↔
      name ∉ discovery.exclude ∧
        ∃ entry ∈ entries, discovery.Finds (Path.join path name) entry.1 entry.2 source := by
  constructor
  · rintro ⟨place, content, file, chosen, rfl⟩
    rcases (Tree.fileAt?_directory_iff distinct).mp file with ⟨entry, member, rest, rfl, deeper⟩
    rcases (discovery.chooses_cons_cons_iff name entry.1 rest).mp chosen with ⟨entered, inside⟩
    exact ⟨entered, entry, member, rest, content, deeper, inside, rfl⟩
  · rintro ⟨entered, entry, member, rest, content, file, chosen, rfl⟩
    refine ⟨entry.1 :: rest, content, ?_, ?_, rfl⟩
    · exact (Tree.fileAt?_directory_iff distinct).mpr ⟨entry, member, rest, rfl, file⟩
    · exact (discovery.chooses_cons_cons_iff name entry.1 rest).mpr ⟨entered, chosen⟩

theorem finds_file_iff (path name : String) (octets : ByteArray) (source : SourceFile) :
    discovery.Finds path name (.file octets) source ↔
      discovery.HasExtension name ∧ source = ⟨Path.join path name, octets⟩ := by
  rw [← chooses_singleton_iff]
  constructor
  · rintro ⟨place, content, file, chosen, rfl⟩
    cases place with
    | nil =>
        cases file
        exact ⟨chosen, rfl⟩
    | cons next rest => simp [Tree.fileAt?_cons, Tree.child?] at file
  · rintro ⟨chosen, rfl⟩
    exact ⟨[], octets, rfl, chosen, rfl⟩

theorem mem_filesOf_iff {tree : Tree} (wellFormed : tree.WellFormed) (path : String) {name : String}
    (entryName : Path.IsEntryName name) (source : SourceFile) :
    source ∈ discovery.filesOf (Path.join path name) name tree ↔
      discovery.Finds path name tree source := by
  induction wellFormed generalizing path name with
  | file octets =>
      rw [finds_file_iff, ← discovery.selects_join_iff path entryName, filesOf]
      split <;> simp_all
  | @directory entries named distinct inside ih =>
      rw [finds_directory_iff _ distinct, filesOf, excludes]
      by_cases excluded : name ∈ discovery.exclude
      · simp [excluded]
      · rw [if_neg (by simpa using excluded), filesIn_eq_flatMap, List.mem_flatMap]
        simp only [excluded, not_false_eq_true, true_and]
        constructor
        · rintro ⟨entry, member, found⟩
          exact ⟨entry, member, (ih entry member _ (named entry member)).mp found⟩
        · rintro ⟨entry, member, found⟩
          exact ⟨entry, member, (ih entry member _ (named entry member)).mpr found⟩

/-- A walk finds the files at the places that are chosen. -/
theorem mem_filesIn_iff {entries : List (String × Tree)}
    (wellFormed : (Tree.directory entries).WellFormed) (path : String) (source : SourceFile) :
    source ∈ discovery.filesIn path entries ↔
      ∃ place content, (Tree.directory entries).fileAt? place = some content ∧
        discovery.Chooses place ∧ source = ⟨Path.below path place, content⟩ := by
  cases wellFormed with
  | directory named distinct inside =>
      simp only [filesIn_eq_flatMap, List.mem_flatMap, Tree.fileAt?_directory_iff distinct]
      constructor
      · rintro ⟨entry, member, found⟩
        rw [mem_filesOf_iff _ (inside entry member) _ (named entry member)] at found
        rcases found with ⟨rest, content, file, chosen, rfl⟩
        exact ⟨entry.1 :: rest, content, ⟨entry, member, rest, rfl, file⟩, chosen, rfl⟩
      · rintro ⟨_, content, ⟨entry, member, rest, rfl, file⟩, chosen, rfl⟩
        refine ⟨entry, member, ?_⟩
        rw [mem_filesOf_iff _ (inside entry member) _ (named entry member)]
        exact ⟨rest, content, file, chosen, rfl⟩

/-! ## The order of what is found -/

/-- The names on the way to a file in an entry go through that entry. -/
theorem names_of_mem_filesOf {tree : Tree} (wellFormed : tree.WellFormed) (path : String)
    {name : String} (entryName : Path.IsEntryName name) {source : SourceFile}
    (member : source ∈ discovery.filesOf (Path.join path name) name tree) :
    ∃ rest, Path.names source.path = Path.names path ++ name :: rest := by
  rcases (discovery.mem_filesOf_iff wellFormed path entryName source).mp member with
    ⟨rest, content, file, -, rfl⟩
  have entryNames : ∀ next ∈ name :: rest, Path.IsEntryName next :=
    List.forall_mem_cons.mpr ⟨entryName, wellFormed.entryNames file⟩
  exact ⟨rest, Path.names_below path entryNames⟩

/-- Entries with different names hold different files. -/
theorem pairwise_of_entries {entries : List (String × Tree)}
    (wellFormed : (Tree.directory entries).WellFormed) (path : String)
    (inEntries : ∀ entry ∈ entries,
      (discovery.filesOf (Path.join path entry.1) entry.1 entry.2).Pairwise
        fun source other => Path.names source.path ≠ Path.names other.path) :
    (discovery.filesIn path entries).Pairwise
      fun source other => Path.names source.path ≠ Path.names other.path := by
  cases wellFormed with
  | directory named distinct inside =>
      rw [filesIn_eq_flatMap, List.pairwise_flatMap]
      refine ⟨inEntries, ?_⟩
      rw [List.Nodup, List.pairwise_map] at distinct
      apply distinct.imp_of_mem
      intro entry next member nextMember differ source found other otherFound same
      rcases discovery.names_of_mem_filesOf (inside entry member) path (named entry member) found
        with ⟨rest, names⟩
      rcases discovery.names_of_mem_filesOf (inside next nextMember) path (named next nextMember)
        otherFound with ⟨others, otherNames⟩
      rw [names, otherNames, List.append_cancel_left_eq] at same
      exact differ (List.cons.inj same).1

theorem pairwise_filesOf {tree : Tree} (wellFormed : tree.WellFormed) (path name : String) :
    (discovery.filesOf path name tree).Pairwise
      fun source other => Path.names source.path ≠ Path.names other.path := by
  induction wellFormed generalizing path name with
  | file octets =>
      rw [filesOf]
      split
      · exact List.pairwise_singleton _ _
      · exact List.Pairwise.nil
  | directory named distinct inside ih =>
      rw [filesOf]
      split
      · exact List.Pairwise.nil
      · exact discovery.pairwise_of_entries (.directory named distinct inside) path
          fun entry member => ih entry member _ _

theorem pairwise_filesIn {entries : List (String × Tree)}
    (wellFormed : (Tree.directory entries).WellFormed) (path : String) :
    (discovery.filesIn path entries).Pairwise
      fun source other => Path.names source.path ≠ Path.names other.path := by
  apply discovery.pairwise_of_entries wellFormed path
  cases wellFormed with
  | directory named distinct inside =>
      exact fun entry member => discovery.pairwise_filesOf (inside entry member) _ _

/-- Files that are found in order are listed as they are found. -/
theorem discover_of_sorted {path : String} {entries : List (String × Tree)}
    (sorted : (discovery.filesIn path entries).Pairwise fun left right =>
      Path.precedes left.path right.path = true) :
    discovery.discover path (some (.directory entries)) = discovery.filesIn path entries :=
  List.mergeSort_of_pairwise sorted

/-- The files that are found are listed by strictly increasing names. -/
theorem increasing_discover {entries : List (String × Tree)}
    (wellFormed : (Tree.directory entries).WellFormed) (path : String) :
    (discovery.discover path (some (.directory entries))).Pairwise
      fun earlier later => Path.names earlier.path < Path.names later.path := by
  rw [discover]
  have transitive (first second third : SourceFile) :=
    Path.precedes_trans first.path second.path third.path
  have total (left right : SourceFile) := Path.precedes_total left.path right.path
  have sorted := List.pairwise_mergeSort transitive total (discovery.filesIn path entries)
  have apart := (List.mergeSort_perm (discovery.filesIn path entries) fun left right =>
    Path.precedes left.path right.path).symm.pairwise
      (discovery.pairwise_filesIn wellFormed path) fun differ same => differ same.symm
  apply (sorted.and apart).imp
  rintro earlier later ⟨precedes, differ⟩
  rw [Path.precedes, Path.namesPrecede_iff, not_lt] at precedes
  exact lt_of_le_of_ne precedes differ

theorem mem_discover_iff {entries : List (String × Tree)}
    (wellFormed : (Tree.directory entries).WellFormed) (path : String) (source : SourceFile) :
    source ∈ discovery.discover path (some (.directory entries)) ↔
      ∃ place content, (Tree.directory entries).fileAt? place = some content ∧
        discovery.Chooses place ∧ source = ⟨Path.below path place, content⟩ := by
  rw [discover, List.mem_mergeSort, mem_filesIn_iff _ wellFormed]

/-- A walk through a directory lists, by strictly increasing names on the way
down, exactly the files with one of the extensions that no directory with an
excluded name is above, in whatever order directories list their entries. -/
theorem discover_lists_chosen (path : String) {entries : List (String × Tree)}
    (wellFormed : (Tree.directory entries).WellFormed) :
    (discovery.discover path (some (.directory entries))).Pairwise
        (fun earlier later => Path.names earlier.path < Path.names later.path) ∧
      (∀ source, source ∈ discovery.discover path (some (.directory entries)) ↔
        ∃ place content, (Tree.directory entries).fileAt? place = some content ∧
          discovery.Chooses place ∧ source = ⟨Path.below path place, content⟩) ∧
      ∀ others, (Tree.directory entries).Reordered (.directory others) →
        discovery.discover path (some (.directory others)) =
          discovery.discover path (some (.directory entries)) := by
  refine ⟨discovery.increasing_discover wellFormed path,
    discovery.mem_discover_iff wellFormed path, ?_⟩
  intro others reordered
  have otherWellFormed := reordered.wellFormed wellFormed
  have increasing := discovery.increasing_discover wellFormed path
  have otherIncreasing := discovery.increasing_discover otherWellFormed path
  have sameMembers : ∀ source, source ∈ discovery.discover path (some (.directory others)) ↔
      source ∈ discovery.discover path (some (.directory entries)) := by
    intro source
    rw [mem_discover_iff _ otherWellFormed, mem_discover_iff _ wellFormed]
    simp only [reordered.fileAt?_iff wellFormed]
  have nodup {files : List SourceFile} (ordered : files.Pairwise
      fun earlier later => Path.names earlier.path < Path.names later.path) : files.Nodup := by
    apply ordered.imp
    rintro earlier later before rfl
    exact lt_irrefl _ before
  apply List.Perm.eq_of_pairwise _ otherIncreasing increasing
  · exact (List.perm_ext_iff_of_nodup (nodup otherIncreasing) (nodup increasing)).mpr sameMembers
  · intro earlier later _ _ before after
    exact absurd before (lt_asymm after)

/-- A directory with an extension that holds a file with an excluded name, beside a
directory with that name. -/
def nested : List (String × Tree) :=
  [ ("target", .directory [("a.yml", .file .empty)]),
    ("ci.yml", .directory [("target", .file .empty), ("build.YAML", .file .empty)]) ]

theorem discover_lists_chosen_nested :
    (Tree.directory nested).WellFormed ∧
      (⟨"target/ci.yml/build.YAML", .empty⟩ : SourceFile) ∈
        Discovery.discover {} "target" (some (.directory nested)) ∧
      Discovery.discover {} "target" (some (.directory nested.reverse)) =
        Discovery.discover {} "target" (some (.directory nested)) := by
  have named : ∀ name ∈ ["target", "ci.yml", "a.yml", "build.YAML"], Path.IsEntryName name := by
    decide
  have wellFormed : (Tree.directory nested).WellFormed := by
    simp only [List.forall_mem_cons] at named
    apply Tree.WellFormed.directory
    · simp [nested, named]
    · simp [nested]
    · simp only [nested, List.forall_mem_cons, List.not_mem_nil, false_implies, implies_true,
        and_true]
      constructor
      · apply Tree.WellFormed.directory <;> simp [named, Tree.WellFormed.file]
      · apply Tree.WellFormed.directory <;> simp [named, Tree.WellFormed.file]
  have place : (Tree.directory nested).fileAt? ["ci.yml", "build.YAML"] = some .empty := rfl
  have spelled : Path.below "target" ["ci.yml", "build.YAML"] = "target/ci.yml/build.YAML" := by
    decide
  have chosen : Discovery.Chooses {} ["ci.yml", "build.YAML"] :=
    ⟨["ci.yml"], "build.YAML", rfl, by decide, "build".toList, "YAML".toList, rfl, by decide,
      by decide, by decide⟩
  have reversed : (Tree.directory nested).Reordered (.directory nested.reverse) :=
    .entries nested.reverse_perm.symm
  rcases discover_lists_chosen {} "target" wellFormed with ⟨-, found, order⟩
  constructor
  · exact wellFormed
  · constructor
    · rw [found]
      exact ⟨_, _, place, chosen, by rw [spelled]⟩
    · exact order _ reversed

end Discovery

end ManifestLint
