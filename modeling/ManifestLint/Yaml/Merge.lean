import ManifestLint.Yaml.Value

/-!
# Merge keys

A mapping takes over the entries of the mappings that its merge key names, as
far as it does not have their keys itself.  The merge key is removed by moving
the last entry into its place.  Then the values of the mapping are merged in
turn, from the last to the first; a merge key among the entries that were taken
over stays as it is.
-/

namespace ManifestLint.Yaml

/-- Why a merge key cannot be followed. -/
inductive MergeProblem where
  | scalar
  | tagged
  | scalarItem
  | sequenceItem
deriving DecidableEq, Repr

/-- The wording of a merge problem. -/
def MergeProblem.message : MergeProblem → String
  | .scalar => "expected a mapping or list of mappings for merging, but found scalar"
  | .tagged => "unexpected tagged value in merge"
  | .scalarItem => "expected a mapping for merging, but found scalar"
  | .sequenceItem => "expected a mapping for merging, but found sequence"

/-- The entries of a mapping. -/
abbrev Entries := List (Value × Value)

namespace Entries

/-- The key that asks for a merge. -/
def isMergeKey (key : Value) : Bool :=
  Value.same key (.string "<<")

/-- Remove the merge key: its value if there is one, and the entries without it.
The last entry takes the place of the removed one. -/
def takeMerge (entries : Entries) : Option Value × Entries :=
  match entries.findIdx? fun entry => isMergeKey entry.1 with
  | none => (none, entries)
  | some place =>
      let value := (entries[place]?).map (·.2)
      match entries.getLast? with
      | none => (value, entries)
      | some last =>
          if place + 1 = entries.length then (value, entries.dropLast)
          else (value, entries.dropLast.set place last)

/-- Append an entry unless its key is already there. -/
def addMissing (entries : Entries) (entry : Value × Value) : Entries :=
  if Value.hasKey entries entry.1 then entries else entries ++ [entry]

/-- Append the entries whose keys are not there yet. -/
def takeOver (entries : Entries) (others : Entries) : Entries :=
  others.foldl addMissing entries

/-- Take over the entries of the items of a merge sequence. -/
def takeOverItems : Entries → List Value → Except MergeProblem Entries
  | entries, [] => .ok entries
  | entries, item :: rest =>
      match item with
      | .mapping others => takeOverItems (takeOver entries others) rest
      | .sequence _ => .error .sequenceItem
      | .tagged _ _ => .error .tagged
      | _ => .error .scalarItem

/-- The entries of a mapping after following its merge key. -/
def resolveMerge (entries : Entries) : Except MergeProblem Entries :=
  match takeMerge entries with
  | (none, entries) => .ok entries
  | (some (.mapping others), entries) => .ok (takeOver entries others)
  | (some (.sequence items), entries) => takeOverItems entries items
  | (some (.tagged _ _), _) => .error .tagged
  | (some _, _) => .error .scalar

end Entries

/-- Merge the items of a list from the last to the first. -/
def mergeItemsWith (merge : Value → Except MergeProblem Value) :
    List Value → Except MergeProblem (List Value)
  | [] => .ok []
  | item :: rest => do
      let rest ← mergeItemsWith merge rest
      let item ← merge item
      return item :: rest

/-- Merge the values of entries from the last to the first. -/
def mergeEntriesWith (merge : Value → Except MergeProblem Value) :
    Entries → Except MergeProblem Entries
  | [] => .ok []
  | (key, value) :: rest => do
      let rest ← mergeEntriesWith merge rest
      let value ← merge value
      return (key, value) :: rest

namespace Value

mutual

/-- The number of values nested in each other along the deepest way. -/
def depth : Value → Nat
  | .sequence items => depthOfItems items + 1
  | .mapping entries => depthOfEntries entries + 1
  | .tagged _ content => depth content + 1
  | _ => 0

/-- The greatest depth of some items. -/
def depthOfItems : List Value → Nat
  | [] => 0
  | item :: rest => max (depth item) (depthOfItems rest)

/-- The greatest depth of the keys and values of some entries. -/
def depthOfEntries : List (Value × Value) → Nat
  | [] => 0
  | (key, value) :: rest => max (max (depth key) (depth value)) (depthOfEntries rest)

end

/-- Follow the merge keys inside a value, which is at most as deep as given.
Every value that a mapping takes over was already nested in it, so the depth
does not grow. -/
def mergeWithin : Nat → Value → Except MergeProblem Value
  | 0, value => .ok value
  | depth + 1, value =>
      match value with
      | .mapping entries => do
          let resolved ← Entries.resolveMerge entries
          return .mapping (← mergeEntriesWith (mergeWithin depth) resolved)
      | .sequence items => return .sequence (← mergeItemsWith (mergeWithin depth) items)
      | .tagged tag content => return .tagged tag (← mergeWithin depth content)
      | value => .ok value

/-- Follow all merge keys of a value. -/
def merge (value : Value) : Except MergeProblem Value :=
  mergeWithin value.depth value

end Value

end ManifestLint.Yaml
