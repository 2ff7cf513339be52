import ManifestLint.Path

/-!
# Directory trees

A tree is a file with its octets, or a directory with named entries in no
particular order.  A path may go back and forth, so what its parts lead to is
found by the names that go straight down from the root.  Writing a file gives a
new tree.
-/

namespace ManifestLint

/-- A file or a directory. -/
inductive Tree where
  | file (content : ByteArray)
  | directory (entries : List (String × Tree))
deriving Inhabited

/-- Why the text of a file cannot be had. -/
inductive ReadError where
  | notFound
  | isDirectory
  | notText
deriving DecidableEq, Repr

/-- The wording of a reading error. -/
def ReadError.message : ReadError → String
  | .notFound => "No such file or directory (os error 2)"
  | .isDirectory => "Is a directory (os error 21)"
  | .notText => "stream did not contain valid UTF-8"

/-- Why a path does not lead to a place for a file. -/
inductive WriteError where
  | notFound
  | isDirectory
  | notDirectory
deriving DecidableEq, Repr

/-- The wording of a writing error. -/
def WriteError.message : WriteError → String
  | .notFound => "No such file or directory (os error 2)"
  | .isDirectory => "Is a directory (os error 21)"
  | .notDirectory => "Not a directory (os error 20)"

namespace Tree

/-- The directory without entries. -/
def empty : Tree :=
  .directory []

/-- The text of what a path leads to, if it leads anywhere. -/
def text? : Option Tree → Except ReadError String
  | none => .error .notFound
  | some (.directory _) => .error .isDirectory
  | some (.file content) =>
      match String.fromUTF8? content with
      | some text => .ok text
      | none => .error .notText

/-- The entry of a directory with a name. -/
def child? (name : String) : Tree → Option Tree
  | .file _ => none
  | .directory entries => entries.lookup name

/-- What names lead to straight down from a tree. -/
def get? (tree : Tree) : List String → Option Tree
  | [] => some tree
  | name :: rest => (tree.child? name).bind fun next => next.get? rest

/-- Put a tree under a path of names.  Directories on the way are made, and a
file on the way gives way to one. -/
def insert (content : Tree) : List String → Tree → Tree
  | [], _ => content
  | name :: rest, tree =>
      let entries := match tree with
        | .file _ => []
        | .directory entries => entries
      let inner := insert content rest ((entries.lookup name).getD empty)
      .directory ((entries.filter fun entry => entry.1 != name) ++ [(name, inner)])

/-- The names that the parts of a path lead to straight from the root, given the
names so far, the nearest first.  Each part starts from a directory. -/
def names? (tree : Tree) (above : List String) : List String → Except WriteError (List String)
  | [] => .ok above.reverse
  | part :: rest =>
      match tree.get? above.reverse with
      | none => .error .notFound
      | some (.file _) => .error .notDirectory
      | some (.directory _) => tree.names? (Path.step above part) rest

/-- What the parts of a path lead to. -/
def resolve? (tree : Tree) (above parts : List String) : Option Tree :=
  match tree.names? above parts with
  | .error _ => none
  | .ok names => tree.get? names

/-- The tree after a file is written where the parts of a path lead.  The
directory of the file has to be there, and a slash at the end asks for a
directory. -/
def write (tree : Tree) (above parts : List String) (content : ByteArray) :
    Except WriteError Tree := do
  let stem := Path.stem parts
  let names ← tree.names? above stem
  let name := stem.getLast?.getD ""
  if stem ≠ parts || Path.isIdle name || name = ".." then .error .isDirectory
  else
    match tree.get? names with
    | some (.directory _) => .error .isDirectory
    | _ => .ok (insert (.file content) names tree)

end Tree

end ManifestLint
