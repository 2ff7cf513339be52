import ManifestLint.Tree.Writing

/-!
# The file system

Paths lead into one tree.  A slash at the start of a path stands for the root of
the tree; other paths start from the working directory.  Writing a file keeps
the working directory.
-/

namespace ManifestLint

/-- A tree with the directory that paths start from. -/
structure FileSystem where
  root : Tree
  /-- The names that lead to the working directory from the root. -/
  workingDirectory : List String
  isThere : root.HasDirectory workingDirectory

namespace FileSystem

/-- Where a path starts, as the names from there up to the root, and its parts.
The empty path starts nowhere. -/
def start? (system : FileSystem) (path : String) : Option (List String × List String) :=
  match Path.parts path with
  | [""] => none
  | "" :: parts => some ([], parts)
  | parts => some (system.workingDirectory.reverse, parts)

/-- What a path leads to. -/
def at? (system : FileSystem) (path : String) : Option Tree :=
  match system.start? path with
  | none => none
  | some (above, parts) => system.root.resolve? above parts

/-- The file system after a file is written. -/
def write (system : FileSystem) (path : String) (content : ByteArray) :
    Except WriteError FileSystem :=
  match system.start? path with
  | none => .error .notFound
  | some (above, parts) =>
      match written : system.root.write above parts content with
      | .error error => .error error
      | .ok changed =>
          .ok { system with
            root := changed
            isThere := Tree.keepsDirectories_of_write written system.isThere }

/-- Files can be written to a path. -/
def Writable (system : FileSystem) (path : String) : Prop :=
  ∃ content changed, system.write path content = .ok changed

theorem write_eq_ok_iff {system changed : FileSystem} {path : String} {content : ByteArray} :
    system.write path content = .ok changed ↔
      changed.workingDirectory = system.workingDirectory ∧
        ∃ above parts, system.start? path = some (above, parts) ∧
          system.root.write above parts content = .ok changed.root := by
  unfold write
  constructor
  · intro written
    split at written
    · contradiction
    · rename_i above parts start
      split at written
      · contradiction
      · rename_i root rootWritten
        cases written
        exact ⟨rfl, above, parts, start, rootWritten⟩
  · rintro ⟨sameDirectory, above, parts, start, rootWritten⟩
    simp only [start]
    split
    · rename_i error failed
      rw [rootWritten] at failed
      contradiction
    · rename_i root again
      rw [rootWritten] at again
      cases again
      cases changed
      cases sameDirectory
      rfl

/-- Whether a file can be written does not depend on its content. -/
theorem writable_iff (system : FileSystem) (path : String) (content : ByteArray) :
    system.Writable path ↔ ∃ changed, system.write path content = .ok changed := by
  constructor
  · rintro ⟨other, changed, written⟩
    obtain ⟨-, above, parts, start, rootWritten⟩ := write_eq_ok_iff.mp written
    obtain ⟨way, name, place, spelled, isName, leads, there, noDirectory, -⟩ :=
      Tree.write_eq_ok_iff.mp rootWritten
    have again : system.root.write above parts content =
        .ok (Tree.insert (.file content) (place ++ [name]) system.root) :=
      Tree.write_eq_ok_iff.mpr ⟨way, name, place, spelled, isName, leads, there, noDirectory, rfl⟩
    exact ⟨⟨_, system.workingDirectory,
      Tree.keepsDirectories_of_write again system.isThere⟩,
      write_eq_ok_iff.mpr ⟨rfl, above, parts, start, again⟩⟩
  · rintro ⟨changed, written⟩
    exact ⟨content, changed, written⟩

/-- After writing, the path leads to a file with the content, the content of every
other file is as it was, and so is the working directory. -/
theorem write_spec {system changed : FileSystem} {path : String} {content : ByteArray}
    (written : system.write path content = .ok changed) :
    changed.at? path = some (.file content) ∧
      changed.workingDirectory = system.workingDirectory ∧
      ∃ place, ∀ other, changed.root.fileAt? other =
        if other = place then some content else system.root.fileAt? other := by
  obtain ⟨sameDirectory, above, parts, start, rootWritten⟩ := write_eq_ok_iff.mp written
  obtain ⟨found, others⟩ := Tree.write_spec rootWritten
  have startChanged : changed.start? path = some (above, parts) := by
    rw [← start, start?, start?, sameDirectory]
  refine ⟨?_, sameDirectory, others⟩
  rw [at?, startChanged]
  exact found

end FileSystem

end ManifestLint
