import ManifestLint.Tree

/-!
# Writing into a tree

A file is put into a place: directories lead there, and no directory is there.
This changes the content at one place and takes no directory away, so a path
leads to the same place before and after.
-/

namespace ManifestLint.Tree

/-! ## Straight ways down -/

/-- The content of the file at a place. -/
def fileAt? (tree : Tree) (place : List String) : Option ByteArray :=
  match tree.get? place with
  | some (.file content) => some content
  | _ => none

/-- Whether there is a directory at a place. -/
def HasDirectory (tree : Tree) (place : List String) : Prop :=
  ∃ entries, tree.get? place = some (.directory entries)

@[simp]
theorem get?_nil (tree : Tree) : tree.get? [] = some tree :=
  rfl

@[simp]
theorem get?_cons (tree : Tree) (name : String) (rest : List String) :
    tree.get? (name :: rest) = (tree.child? name).bind fun next => next.get? rest :=
  rfl

theorem fileAt?_cons (tree : Tree) (name : String) (rest : List String) :
    tree.fileAt? (name :: rest) = (tree.child? name).bind fun next => next.fileAt? rest := by
  unfold fileAt?
  rw [get?_cons]
  cases tree.child? name <;> rfl

theorem get?_eq_of_fileAt? {tree : Tree} {place : List String} {content : ByteArray}
    (found : tree.fileAt? place = some content) : tree.get? place = some (.file content) := by
  unfold fileAt? at found
  split at found
  · rename_i octets there
    rw [there, Option.some.inj found]
  · contradiction

/-- Nothing is below what is no directory. -/
theorem get?_below {tree : Tree} {name : String} (noDirectory : ¬ tree.HasDirectory [name])
    (below : String) (deeper : List String) :
    tree.get? (name :: below :: deeper) = none := by
  rw [get?_cons]
  cases found : tree.child? name with
  | none => rfl
  | some next =>
      cases next with
      | file content => rfl
      | directory inner => exact absurd ⟨inner, by simpa using found⟩ noDirectory

/-! ## Putting a file into a place -/

/-- Replacing an entry changes what its name leads to, and nothing else. -/
theorem lookup_replaced (entries : List (String × Tree)) (name other : String) (inner : Tree) :
    ((entries.filter fun entry => entry.1 != name) ++ [(name, inner)]).lookup other =
      if other = name then some inner else entries.lookup other := by
  induction entries with
  | nil =>
      by_cases equal : other = name
      · simp [equal]
      · simp [List.lookup_cons, equal, beq_eq_false_iff_ne.mpr equal]
  | cons entry rest ih =>
      rcases entry with ⟨first, tree⟩
      by_cases replaced : first = name
      · subst first
        rw [List.filter_cons_of_neg (by simp), ih]
        by_cases equal : other = name
        · simp [equal]
        · simp [List.lookup_cons, equal, beq_eq_false_iff_ne.mpr equal]
      · rw [List.filter_cons_of_pos (by simpa using replaced), List.cons_append,
          List.lookup_cons, List.lookup_cons, ih]
        by_cases equal : other = first
        · simp [equal, replaced]
        · simp [beq_eq_false_iff_ne.mpr equal]

theorem child?_insert (content tree : Tree) (name other : String) (rest : List String) :
    (insert content (name :: rest) tree).child? other =
      if other = name then some (insert content rest ((tree.child? name).getD empty))
      else tree.child? other := by
  cases tree with
  | file octets => exact lookup_replaced [] name other _
  | directory entries => exact lookup_replaced entries name other _

/-- Places for files: directories lead there, and no directory is there. -/
inductive Site : Tree → List String → Prop where
  | here {entries : List (String × Tree)} {name : String}
      (noDirectory : ¬ (directory entries).HasDirectory [name]) :
      Site (.directory entries) [name]
  | inside {entries inner : List (String × Tree)} {name : String} {rest : List String}
      (next : (directory entries).child? name = some (.directory inner))
      (site : Site (.directory inner) rest) :
      Site (.directory entries) (name :: rest)

/-- A file that is put into a place for files is there, and all other files stay
as they are. -/
theorem Site.fileAt?_insert {tree : Tree} {place : List String} (site : Site tree place)
    (content : ByteArray) (path : List String) :
    (insert (.file content) place tree).fileAt? path =
      if path = place then some content else tree.fileAt? path := by
  induction site generalizing path with
  | @here entries name noDirectory =>
      cases path with
      | nil => rfl
      | cons other more =>
          rw [fileAt?_cons, child?_insert]
          by_cases equal : other = name
          · subst other
            cases more with
            | nil => simp [insert, fileAt?]
            | cons below deeper =>
                simp [insert, fileAt?, get?_below noDirectory, child?]
          · simp [fileAt?_cons, equal]
  | @inside entries inner name rest next site ih =>
      cases path with
      | nil => rfl
      | cons other more =>
          rw [fileAt?_cons, fileAt?_cons, child?_insert]
          by_cases equal : other = name
          · subst other
            simp [next, ih more]
          · simp [equal]

/-- What takes the place of a tree has a directory wherever the tree has one. -/
def KeepsDirectories (tree changed : Tree) : Prop :=
  ∀ ⦃place⦄, tree.HasDirectory place → changed.HasDirectory place

/-- Directories stay directories when a file is put into a place for files. -/
theorem Site.keepsDirectories {tree : Tree} {place : List String} (site : Site tree place)
    (content : ByteArray) : KeepsDirectories tree (insert (.file content) place tree) := by
  induction site with
  | @here around name noDirectory =>
      rintro (_ | ⟨other, more⟩) ⟨entries, found⟩
      · exact ⟨_, rfl⟩
      · by_cases equal : other = name
        · subst other
          cases more with
          | nil => exact absurd ⟨entries, found⟩ noDirectory
          | cons below deeper =>
              rw [get?_below noDirectory] at found
              contradiction
        · rw [get?_cons] at found
          exact ⟨entries, by simpa [child?_insert, equal] using found⟩
  | @inside around inner name rest next site ih =>
      rintro (_ | ⟨other, more⟩) ⟨entries, found⟩
      · exact ⟨_, rfl⟩
      · rw [get?_cons] at found
        by_cases equal : other = name
        · subst other
          rw [next, Option.bind_some] at found
          obtain ⟨changed, kept⟩ := ih ⟨entries, found⟩
          exact ⟨changed, by simpa [child?_insert, next] using kept⟩
        · exact ⟨entries, by simpa [child?_insert, equal] using found⟩

theorem Site.is_directory {tree : Tree} {place : List String} (site : Site tree place) :
    ∃ entries, tree = .directory entries := by
  cases site <;> exact ⟨_, rfl⟩

/-- A directory and a name in it without a directory behind it make a place for a
file. -/
theorem Site.of_hasDirectory {tree : Tree} {names : List String} {name : String}
    (found : tree.HasDirectory names) (noDirectory : ¬ tree.HasDirectory (names ++ [name])) :
    Site tree (names ++ [name]) := by
  induction names generalizing tree with
  | nil =>
      obtain ⟨entries, rfl⟩ : ∃ entries, tree = .directory entries := by
        simpa [HasDirectory] using found
      exact .here noDirectory
  | cons first rest ih =>
      obtain ⟨entries, found⟩ := found
      rw [get?_cons] at found
      obtain ⟨next, child, below⟩ := Option.bind_eq_some_iff.mp found
      have nothingBelow : ¬ next.HasDirectory (rest ++ [name]) := by
        simpa [HasDirectory, child] using noDirectory
      have site := ih ⟨entries, below⟩ nothingBelow
      obtain ⟨inner, rfl⟩ := site.is_directory
      cases tree with
      | file content => simp [child?] at child
      | directory around => exact .inside child site

/-! ## The places of paths -/

/-- A part of a path that leads down. -/
def IsName (part : String) : Prop :=
  Path.isIdle part = false ∧ part ≠ ".."

theorem step_of_isName {name : String} (isName : IsName name) (above : List String) :
    Path.step above name = name :: above := by
  simp [Path.step, isName.1, isName.2]

theorem names?_cons_of_hasDirectory {tree : Tree} {above : List String}
    (found : tree.HasDirectory above.reverse) (part : String) (rest : List String) :
    tree.names? above (part :: rest) = tree.names? (Path.step above part) rest := by
  obtain ⟨entries, found⟩ := found
  simp [names?, found]

/-- Each part of a path that leads somewhere starts from a directory. -/
theorem names?_cons_eq_ok_iff {tree : Tree} {above names rest : List String} {part : String} :
    tree.names? above (part :: rest) = .ok names ↔
      tree.HasDirectory above.reverse ∧ tree.names? (Path.step above part) rest = .ok names := by
  constructor
  · intro resolved
    rw [names?] at resolved
    split at resolved
    · contradiction
    · contradiction
    · rename_i entries found
      exact ⟨⟨entries, found⟩, resolved⟩
  · rintro ⟨found, resolved⟩
    rwa [names?_cons_of_hasDirectory found]

/-- A path with a name at its end leads to that name in a directory. -/
theorem names?_concat_eq_ok_iff {tree : Tree} {above names parts : List String} {name : String}
    (isName : IsName name) :
    tree.names? above (parts ++ [name]) = .ok names ↔
      ∃ place, tree.names? above parts = .ok place ∧ tree.HasDirectory place ∧
        names = place ++ [name] := by
  induction parts generalizing above with
  | nil =>
      rw [List.nil_append, names?_cons_eq_ok_iff, step_of_isName isName]
      simp [names?, eq_comm]
  | cons part rest ih =>
      simp only [List.cons_append, names?_cons_eq_ok_iff, ih]
      grind

/-- A path leads to the same place where all directories are kept. -/
theorem KeepsDirectories.names?_eq_ok {tree changed : Tree} (keeps : KeepsDirectories tree changed)
    {above parts names : List String} (resolved : tree.names? above parts = .ok names) :
    changed.names? above parts = .ok names := by
  induction parts generalizing above with
  | nil => exact resolved
  | cons part rest ih =>
      rw [names?_cons_eq_ok_iff] at resolved ⊢
      exact ⟨keeps resolved.1, ih resolved.2⟩

/-! ## Writing a file -/

/-- A name at the end is not taken away with slashes. -/
theorem stem_concat {parts : List String} {name : String} (isName : IsName name) :
    Path.stem (parts ++ [name]) = parts ++ [name] := by
  have notEmpty : name ≠ "" := by
    rintro rfl
    exact absurd isName.1 (by decide)
  simp [Path.stem, notEmpty]

/-- A file is written to a name in a directory, unless a directory is there. -/
theorem write_concat (tree : Tree) (above way : List String) {name : String}
    (isName : IsName name) (content : ByteArray) :
    tree.write above (way ++ [name]) content =
      match tree.names? above (way ++ [name]) with
      | .error error => .error error
      | .ok names =>
          match tree.get? names with
          | some (.directory _) => .error .isDirectory
          | _ => .ok (insert (.file content) names tree) := by
  simp only [write, stem_concat isName, List.getLast?_concat, Option.getD_some]
  cases tree.names? above (way ++ [name]) with
  | error error => rfl
  | ok names => exact if_neg (by simp [isName.1, isName.2])

/-- A path that a file is written to ends in a name. -/
theorem isName_of_write {tree changed : Tree} {above parts : List String} {content : ByteArray}
    (written : tree.write above parts content = .ok changed) :
    ∃ way name, parts = way ++ [name] ∧ IsName name := by
  simp only [write] at written
  cases resolved : tree.names? above (Path.stem parts) with
  | error error =>
      rw [resolved] at written
      contradiction
  | ok names =>
      rw [resolved] at written
      change ite _ _ _ = _ at written
      split at written
      · contradiction
      · rename_i proper
        simp only [ne_eq, Bool.or_eq_true, decide_eq_true_eq, not_or, Decidable.not_not] at proper
        obtain ⟨⟨stemEq, notIdle⟩, notUpwards⟩ := proper
        rw [stemEq] at notIdle notUpwards
        cases last : parts.getLast? with
        | none => simp [last, Path.isIdle] at notIdle
        | some name =>
            rw [last, Option.getD_some] at notIdle notUpwards
            obtain ⟨way, rfl⟩ := List.getLast?_eq_some_iff.mp last
            exact ⟨way, name, rfl, by simpa using notIdle, notUpwards⟩

/-- What it takes to write a file: a directory that the path leads to up to its
last part, and a name there without a directory behind it. -/
theorem write_eq_ok_iff {tree changed : Tree} {above parts : List String} {content : ByteArray} :
    tree.write above parts content = .ok changed ↔
      ∃ way name place, parts = way ++ [name] ∧ IsName name ∧
        tree.names? above way = .ok place ∧ tree.HasDirectory place ∧
        ¬ tree.HasDirectory (place ++ [name]) ∧
        changed = insert (.file content) (place ++ [name]) tree := by
  constructor
  · intro written
    obtain ⟨way, name, rfl, isName⟩ := isName_of_write written
    rw [write_concat _ _ _ isName] at written
    cases resolved : tree.names? above (way ++ [name]) with
    | error error =>
        rw [resolved] at written
        contradiction
    | ok names =>
        obtain ⟨place, leads, there, rfl⟩ := (names?_concat_eq_ok_iff isName).mp resolved
        refine ⟨way, name, place, rfl, isName, leads, there, ?_⟩
        simp only [resolved] at written
        split at written
        · contradiction
        · rename_i noDirectory
          exact ⟨fun ⟨entries, found⟩ => noDirectory entries found, (Except.ok.inj written).symm⟩
  · rintro ⟨way, name, place, rfl, isName, leads, there, noDirectory, rfl⟩
    have resolved := (names?_concat_eq_ok_iff isName).mpr ⟨place, leads, there, rfl⟩
    simp only [write_concat _ _ _ isName, resolved]
    split
    · rename_i entries found
      exact absurd ⟨entries, found⟩ noDirectory
    · rfl

/-- Writing a file takes no directory away. -/
theorem keepsDirectories_of_write {tree changed : Tree} {above parts : List String}
    {content : ByteArray} (written : tree.write above parts content = .ok changed) :
    KeepsDirectories tree changed := by
  obtain ⟨way, name, place, -, -, -, there, noDirectory, rfl⟩ := write_eq_ok_iff.mp written
  exact (Site.of_hasDirectory there noDirectory).keepsDirectories content

/-- After writing, the path leads to a file with the content, and the content of
every other file is as it was. -/
theorem write_spec {tree changed : Tree} {above parts : List String} {content : ByteArray}
    (written : tree.write above parts content = .ok changed) :
    changed.resolve? above parts = some (.file content) ∧
      ∃ place, ∀ other, changed.fileAt? other =
        if other = place then some content else tree.fileAt? other := by
  have keeps := keepsDirectories_of_write written
  obtain ⟨way, name, place, rfl, isName, leads, there, noDirectory, rfl⟩ :=
    write_eq_ok_iff.mp written
  have site := Site.of_hasDirectory there noDirectory
  have resolved := (names?_concat_eq_ok_iff isName).mpr ⟨place, leads, there, rfl⟩
  refine ⟨?_, place ++ [name], site.fileAt?_insert content⟩
  rw [resolve?, keeps.names?_eq_ok resolved]
  exact get?_eq_of_fileAt? (by simp [site.fileAt?_insert])

end ManifestLint.Tree
