import ManifestLint.Yaml.Cursor
import ManifestLint.Yaml.Value
import ManifestLint.Text.Quoted

/-!
# Faults of a YAML text

What can be wrong with a text before its shape matters: characters that may not
occur, tokens and nodes that do not fit together, scalars and keys without a
meaning, and limits on nesting and repetition.
-/

namespace ManifestLint.Yaml

open ManifestLint.Text

/-- What is wrong with the tokens or nodes of a text. -/
inductive Problem where
  | strayCharacter
  | missingColon
  | strayEntry
  | strayKey
  | strayValue
  | unknownDirective
  | expectedLineEnd
  | expectedDirectiveName
  | nonAlphabetic
  | expectedVersionDot
  | longVersionNumber
  | expectedVersionNumber
  | expectedBlank
  | expectedWordEnd
  | expectedBang
  | expectedTagUri
  | expectedOctet
  | badLeadingOctet
  | badTrailingOctet
  | expectedWord
  | expectedClosingAngle
  | zeroIndentation
  | tabInIndentation
  | documentIndicator
  | endOfStream
  | unknownEscape
  | expectedHexadecimal
  | badCodePoint
  | tabViolatesIndentation
  | unexpectedColon
  | expectedDocumentStart
  | duplicateVersion
  | incompatibleVersion
  | duplicateTagDirective
  | undefinedHandle
  | expectedNode
  | expectedHyphen
  | expectedBlockKey
  | expectedSequenceSeparator
  | expectedMappingSeparator
deriving DecidableEq, Repr

/-- The wording of a problem. -/
def Problem.text : Problem → String
  | .strayCharacter => "found character that cannot start any token"
  | .missingColon => "could not find expected ':'"
  | .strayEntry => "block sequence entries are not allowed in this context"
  | .strayKey => "mapping keys are not allowed in this context"
  | .strayValue => "mapping values are not allowed in this context"
  | .unknownDirective => "found unknown directive name"
  | .expectedLineEnd => "did not find expected comment or line break"
  | .expectedDirectiveName => "could not find expected directive name"
  | .nonAlphabetic => "found unexpected non-alphabetical character"
  | .expectedVersionDot => "did not find expected digit or '.' character"
  | .longVersionNumber => "found extremely long version number"
  | .expectedVersionNumber => "did not find expected version number"
  | .expectedBlank => "did not find expected whitespace"
  | .expectedWordEnd => "did not find expected whitespace or line break"
  | .expectedBang => "did not find expected '!'"
  | .expectedTagUri => "did not find expected tag URI"
  | .expectedOctet => "did not find URI escaped octet"
  | .badLeadingOctet => "found an incorrect leading UTF-8 octet"
  | .badTrailingOctet => "found an incorrect trailing UTF-8 octet"
  | .expectedWord => "did not find expected alphabetic or numeric character"
  | .expectedClosingAngle => "did not find the expected '>'"
  | .zeroIndentation => "found an indentation indicator equal to 0"
  | .tabInIndentation => "found a tab character where an indentation space is expected"
  | .documentIndicator => "found unexpected document indicator"
  | .endOfStream => "found unexpected end of stream"
  | .unknownEscape => "found unknown escape character"
  | .expectedHexadecimal => "did not find expected hexadecimal number"
  | .badCodePoint => "found invalid Unicode character escape code"
  | .tabViolatesIndentation => "found a tab character that violates indentation"
  | .unexpectedColon => "found unexpected ':'"
  | .expectedDocumentStart => "did not find expected <document start>"
  | .duplicateVersion => "found duplicate %YAML directive"
  | .incompatibleVersion => "found incompatible YAML document"
  | .duplicateTagDirective => "found duplicate %TAG directive"
  | .undefinedHandle => "found undefined tag handle"
  | .expectedNode => "did not find expected node content"
  | .expectedHyphen => "did not find expected '-' indicator"
  | .expectedBlockKey => "did not find expected key"
  | .expectedSequenceSeparator => "did not find expected ',' or ']'"
  | .expectedMappingSeparator => "did not find expected ',' or '\x7d'"

/-- What was being read when a problem came up. -/
inductive Activity where
  | nextToken
  | simpleKey
  | directive
  | versionDirective
  | tagDirective
  | tagDirectiveHandle
  | tagDirectiveHandleEnd
  | tagDirectiveUri
  | anchor
  | alias
  | tag
  | tagUri
  | blockScalar
  | quotedScalar
  | quotedEscape
  | plainScalar
  | node
  | blockNode
  | flowNode
  | blockCollection
  | blockMapping
  | flowSequence
  | flowMapping
deriving DecidableEq, Repr

/-- The wording of an activity. -/
def Activity.text : Activity → String
  | .nextToken => "while scanning for the next token"
  | .simpleKey => "while scanning a simple key"
  | .directive => "while scanning a directive"
  | .versionDirective => "while scanning a %YAML directive"
  | .tagDirective => "while scanning a %TAG directive"
  | .tagDirectiveHandle => "while scanning a tag directive"
  | .tagDirectiveHandleEnd => "while parsing a tag directive"
  | .tagDirectiveUri => "while parsing a %TAG directive"
  | .anchor => "while scanning an anchor"
  | .alias => "while scanning an alias"
  | .tag => "while scanning a tag"
  | .tagUri => "while parsing a tag"
  | .blockScalar => "while scanning a block scalar"
  | .quotedScalar => "while scanning a quoted scalar"
  | .quotedEscape => "while parsing a quoted scalar"
  | .plainScalar => "while scanning a plain scalar"
  | .node => "while parsing a node"
  | .blockNode => "while parsing a block node"
  | .flowNode => "while parsing a flow node"
  | .blockCollection => "while parsing a block collection"
  | .blockMapping => "while parsing a block mapping"
  | .flowSequence => "while parsing a flow sequence"
  | .flowMapping => "while parsing a flow mapping"

/-- A way from the root of a document to one of its nodes. -/
inductive Path where
  | root
  | item (parent : Path) (index : Nat)
  | entry (parent : Path) (key : String)
  | unnamed (parent : Path)
  | alias (parent : Path)
deriving Repr

namespace Path

/-- The wording of a path.  The root alone is a point. -/
def text : Path → String
  | .root => "."
  | .item parent index => parent.text ++ "[" ++ toString index ++ "]"
  | .entry .root key => key
  | .entry parent key => parent.text ++ "." ++ key
  | .unnamed .root => "?"
  | .unnamed parent => parent.text ++ ".?"
  | .alias parent => parent.text

/-- The path before a message; the root is left out. -/
def intro (path : Path) : String :=
  if path.text = "." then "" else path.text ++ ": "

end Path

/-- The readings that a core tag can force on a scalar. -/
inductive CoreType where
  | bool
  | int
  | float
  | null
deriving DecidableEq, Repr

/-- What a forced reading asks for. -/
def CoreType.wanted : CoreType → String
  | .bool => "a boolean"
  | .int => "an integer"
  | .float => "a float"
  | .null => "null"

/-- What is wrong with the value of a node. -/
inductive ValueProblem where
  | wideInteger (value : Int)
  | notOfType (text : String) (type : CoreType)
  | duplicateKey (key : Value)
deriving Repr

/-- How a repeated key is named. -/
def describeKey : Value → String
  | .null => "with null key"
  | .bool value => "with key `" ++ toString value ++ "`"
  | .number value => "with key " ++ value.text
  | .string value => "with key " ++ quoted value
  | .sequence _ => "in YAML map"
  | .mapping _ => "in YAML map"
  | .tagged _ _ => "in YAML map"

/-- The wording of what is wrong with a value. -/
def ValueProblem.text : ValueProblem → String
  | .wideInteger value =>
      "invalid type: integer `" ++ toString value ++ "` as " ++
        (if value < 0 then "i128" else "u128") ++ ", expected any YAML value"
  | .notOfType text type => "invalid value: string " ++ quoted text ++ ", expected " ++ type.wanted
  | .duplicateKey key => "duplicate entry " ++ describeKey key

/-- A fault of a text. -/
inductive Fault where
  | forbiddenCharacter (offset : Nat)
  | misplaced (problem : Problem) (mark : Mark) (context : Option (Activity × Mark))
  | value (problem : ValueProblem) (path : Path) (mark : Mark)
  | recursionLimit (mark : Mark)
  | repetitionLimit
  | unknownAnchor (mark : Mark)
deriving Repr

/-- Where an activity started, unless that is the place of the problem. -/
def contextSuffix (problemMark contextMark : Mark) : String :=
  if contextMark.line = problemMark.line && contextMark.column = problemMark.column then ""
  else contextMark.suffix

/-- The wording of a fault. -/
def Fault.message : Fault → String
  | .forbiddenCharacter offset =>
      "control characters are not allowed" ++
        (if offset = 0 then "" else " at position " ++ toString offset)
  | .misplaced problem mark none => problem.text ++ mark.suffix
  | .misplaced problem mark (some (activity, start)) =>
      problem.text ++ mark.suffix ++ ", " ++ activity.text ++ contextSuffix mark start
  | .value problem path mark => path.intro ++ problem.text ++ mark.suffix
  | .recursionLimit mark => "recursion limit exceeded" ++ mark.suffix
  | .repetitionLimit => "repetition limit exceeded"
  | .unknownAnchor mark => "unknown anchor" ++ mark.suffix

end ManifestLint.Yaml
