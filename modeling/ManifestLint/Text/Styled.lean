/-!
# Text in terminal styles

A styled text stands between a sequence that sets the style and one that resets
it.  A reset inside the text is followed by the style again, so that the style
holds to the end.  Padding belongs to the text and is as wide without styles as
with them.
-/

namespace ManifestLint.Text

/-- The codes of a terminal style. -/
structure Style where
  codes : List Nat
deriving DecidableEq, Repr

namespace Style

/-- The title of a report. -/
def title : Style := ⟨[1, 44, 37]⟩

/-- A heading. -/
def heading : Style := ⟨[1, 4]⟩

/-- Bold text. -/
def bold : Style := ⟨[1]⟩

/-- Bold red text. -/
def red : Style := ⟨[1, 31]⟩

/-- Bold green text. -/
def green : Style := ⟨[1, 32]⟩

/-- Bold yellow text. -/
def yellow : Style := ⟨[1, 33]⟩

/-- Blue text. -/
def blue : Style := ⟨[34]⟩

/-- Dimmed text. -/
def dimmed : Style := ⟨[2]⟩

/-- The sequence that sets the style. -/
def opening (style : Style) : List Char :=
  '\x1b' :: '[' :: (";".intercalate (style.codes.map toString)).toList ++ ['m']

/-- The sequence that resets all styles. -/
def reset : List Char :=
  ['\x1b', '[', '0', 'm']

/-- A text whose resets are each followed by the style again. -/
def restore (style : Style) : List Char → List Char
  | '\x1b' :: '[' :: '0' :: 'm' :: rest => reset ++ style.opening ++ restore style rest
  | c :: rest => c :: restore style rest
  | [] => []

end Style

/-- A text with spaces behind it up to a width. -/
def padRight (width : Nat) (text : List Char) : List Char :=
  text ++ List.replicate (width - text.length) ' '

/-- A text in a style, if styles are wanted, padded to a width. -/
def paint (colored : Bool) (style : Style) (width : Nat) (text : String) : String :=
  if colored then
    String.ofList
      (style.opening ++ padRight width (style.restore text.toList) ++ Style.reset)
  else String.ofList (padRight width text.toList)

end ManifestLint.Text
