import ManifestLint.Toml.Scalar
import ManifestLint.Dictionary

/-!
# Values of a configuration text

A value knows where it stands, so that messages can point at it, and a table
knows how it came to be, because that decides how the text may extend it.  The
entries of a table are kept in the order of their keys.
-/

namespace ManifestLint.Toml

/-- The number of octets of some characters. -/
def octetCount : List Char → Nat
  | [] => 0
  | c :: rest => c.utf8Size + octetCount rest

/-- A stretch of a text: how many characters of the text there are from its
start on, and how many octets it is long. -/
structure Span where
  remaining : Nat
  octets : Nat
deriving DecidableEq, Repr, Inhabited

/-- The stretch from one place of a text to a later one, each given by what
follows it. -/
def Span.between (start stop : List Char) : Span where
  remaining := start.length
  octets := octetCount (start.take (start.length - stop.length))

/-- How a table came to be. -/
inductive Origin where
  /-- A header names it. -/
  | header
  /-- It is on the way to a table that a header names. -/
  | implied
  /-- It is on the way to a value with a dotted key. -/
  | dotted
  /-- It stands between braces. -/
  | inline
deriving DecidableEq, Repr

/-- A value and its place. -/
inductive Value where
  | scalar (span : Span) (value : Scalar)
  | array (span : Span) (items : List Value)
  /-- The tables under one repeated header. -/
  | tables (span : Span) (items : List (Span × List (String × Value)))
  | table (span : Span) (origin : Origin) (entries : List (String × Value))
deriving Inhabited, Repr

/-- The entries of a table. -/
abbrev Entries := List (String × Value)

/-- The place of a value. -/
def Value.span : Value → Span
  | .scalar span _ => span
  | .array span _ => span
  | .tables span _ => span
  | .table span _ _ => span

/-- A key and its place. -/
structure Key where
  name : String
  span : Span
deriving Repr

/-- How a path of keys passes through tables. -/
inductive Passage where
  | header
  | dotted
deriving DecidableEq, Repr

/-- The origin of a table that a path makes on its way. -/
def Passage.origin : Passage → Origin
  | .header => .implied
  | .dotted => .dotted

/-- Whether a path may pass through a table.  What stands between braces is
complete, and dotted keys do not reach into a table that has a header. -/
def Origin.admits : Origin → Passage → Bool
  | .inline, _ => false
  | .header, .dotted => false
  | _, _ => true

/-- Change the table that a path of keys leads to.  Tables that are missing on
the way are made; of tables under a repeated header, a header leads to the last
one. -/
def within (passage : Passage) (change : Entries → Option Entries) :
    List Key → Entries → Option Entries
  | [], entries => change entries
  | key :: path, entries => do
      let inner ←
        match entries.lookup key.name with
        | none => (within passage change path []).map (.table key.span passage.origin)
        | some (.table span origin inner) =>
            if origin.admits passage then
              (within passage change path inner).map (.table span origin)
            else none
        | some (.tables span items) =>
            match passage, items.getLast? with
            | .header, some (last, inner) =>
                (within passage change path inner).map fun changed =>
                  .tables span (items.dropLast ++ [(last, changed)])
            | _, _ => none
        | some _ => none
      return Dictionary.insertEntry key.name inner entries

/-- Give a table a value under a key that it does not have. -/
def define (name : String) (value : Value) (entries : Entries) : Option Entries :=
  if (entries.lookup name).isSome then none
  else some (Dictionary.insertEntry name value entries)

/-- Open a table under a header, which may have been passed through but not named
before. -/
def openTable (name : String) (span : Span) (entries : Entries) : Option Entries :=
  match entries.lookup name with
  | none => some (Dictionary.insertEntry name (.table span .header []) entries)
  | some (.table _ .implied inner) =>
      some (Dictionary.insertEntry name (.table span .header inner) entries)
  | some _ => none

/-- Open one more table under a repeated header. -/
def openElement (name : String) (span : Span) (entries : Entries) : Option Entries :=
  match entries.lookup name with
  | none => some (Dictionary.insertEntry name (.tables span [(span, [])]) entries)
  | some (.tables first items) =>
      some (Dictionary.insertEntry name (.tables first (items ++ [(span, [])])) entries)
  | some _ => none

end ManifestLint.Toml
