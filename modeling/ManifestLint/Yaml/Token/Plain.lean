import ManifestLint.Yaml.Token.Fold

/-!
# Plain scalars

A plain scalar ends at a colon that stands as a word of its own, at a comment,
at a document indicator, at an indicator of the flow collection around it, or
where a line is indented too little.
-/

namespace ManifestLint.Yaml

/-- The surroundings of a plain scalar: whether it stands in a flow collection,
the least column of its further lines, and its start. -/
structure PlainContext where
  inFlow : Bool
  indent : Nat
  start : Mark

/-- A plain scalar, its end, the cursor behind the blanks and breaks that follow
it, and whether a line break was among those. -/
structure PlainScalar where
  text : String
  stop : Mark
  cursor : Cursor
  brokeLine : Bool

/-- The indicators of flow collections. -/
def isFlowIndicator (c : Char) : Bool :=
  c = ',' || c = '[' || c = ']' || c = '\x7b' || c = '\x7d'

/-- Whether a colon before this text is an error in a flow collection. -/
def startsColonClash : List Char → Bool :=
  startsWith fun c => isFlowIndicator c || c = '?'

/-- Read on behind the given text, which is reversed.  `stop` is the place
behind its last character, `gap` what follows that, and `resumes` tells that a
gap has just been passed. -/
def plainRest (context : PlainContext) (text : List Char) (stop : Mark) (gap : Gap)
    (resumes : Bool) (rest : List Char) (mark : Mark) : Except Fault PlainScalar :=
  let finish (rest : List Char) : Except Fault PlainScalar :=
    .ok { text := String.ofList text.reverse, stop, cursor := ⟨rest, mark⟩,
          brokeLine := gap.hasBreak }
  match rest with
  | [] => finish []
  | '\r' :: '\n' :: rest =>
      plainRest context text stop (gap.addBreak '\n') true rest (mark.nextLine 2)
  | c :: rest =>
      if isBreak c then
        plainRest context text stop (gap.addBreak c) true rest (mark.nextLine 1)
      else if isBlank c then
        if c = '\t' && gap.hasBreak && mark.column < context.indent then
          misplaced .tabViolatesIndentation mark .plainScalar context.start
        else plainRest context text stop (gap.addBlank c) true rest mark.next
      else if resumes && ((!context.inFlow && mark.column < context.indent) ||
          (mark.column = 0 && startsIndicator (c :: rest)) || c = '#') then
        finish (c :: rest)
      else if context.inFlow && c = ':' && startsColonClash rest then
        misplaced .unexpectedColon mark .plainScalar context.start
      else if (c = ':' && endsWord rest) || (context.inFlow && isFlowIndicator c) then
        finish (c :: rest)
      else
        plainRest context (c :: (gap.folded ++ text)) mark.next .none false rest mark.next
termination_by structural rest

/-- Read a plain scalar from its first character on. -/
def readPlain (inFlow : Bool) (indent : Nat) (cursor : Cursor) : Except Fault PlainScalar :=
  plainRest ⟨inFlow, indent, cursor.mark⟩ [] cursor.mark .none false cursor.rest cursor.mark

end ManifestLint.Yaml
