import ManifestLint.Text.Split

/-!
# Paths

A path is a text whose parts stand between slashes.  Empty parts and single
points do not name anything: `a//b`, `a/./b`, and `a/b/` name what `a/b` names,
apart from asking for a directory.
-/

namespace ManifestLint.Path

/-- The parts of a path, empty ones included. -/
def parts (path : String) : List String :=
  (Text.split '/' path.toList).map String.ofList

/-- The parts of a path without the empty ones at its end. -/
def stem (parts : List String) : List String :=
  (parts.reverse.dropWhile (· = "")).reverse

/-- Whether a part does not lead anywhere. -/
def isIdle (part : String) : Bool :=
  part = "" || part = "."

/-- The names on the way after one more part, the nearest first.  There is
nothing above the root. -/
def step (above : List String) (part : String) : List String :=
  if isIdle part then above
  else if part = ".." then above.tail
  else part :: above

/-- The parts of a path that lead somewhere. -/
def names (path : String) : List String :=
  (parts path).filter fun part => !isIdle part

/-- The order of lists of names: the first difference decides, and a list comes
before its continuations. -/
def namesPrecede : List String → List String → Bool
  | [], _ => true
  | _ :: _, [] => false
  | left :: lefts, right :: rights =>
      if left = right then namesPrecede lefts rights else decide (left < right)

/-- The order of paths by the names on the way. -/
def precedes (left right : String) : Bool :=
  namesPrecede (names left) (names right)

/-- The name of what a path leads to, unless it leads upwards at its end. -/
def fileName? (path : String) : Option String :=
  match (names path).getLast? with
  | some name => if name = ".." then none else some name
  | none => none

/-- What follows the last point of a name.  A point at the start does not
count. -/
def extensionOf? (name : List Char) : Option (List Char) :=
  let ending := name.reverse.takeWhile (· != '.')
  match name.reverse.drop ending.length with
  | _ :: _ :: _ => some ending.reverse
  | _ => none

/-- The extension of the name of what a path leads to. -/
def extension? (path : String) : Option String := do
  let name ← fileName? path
  let ending ← extensionOf? name.toList
  return String.ofList ending

/-- The path of an entry of a directory. -/
def join (directory name : String) : String :=
  if directory.toList.getLast? = some '/' then directory ++ name else directory ++ "/" ++ name

end ManifestLint.Path
