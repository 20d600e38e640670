import Deployment.Text.Quoted
import Deployment.Value.Basic
import Deployment.Yaml.Mark

/-!
# Yaml/Fault — why a text is no document, or a value has no text

A text fails by its form, which names a problem and often the construct it was found in, or by
its content, which names the place of the value. `Fault.message` gives the wording and
`Fault.position` the line and column that a report leads with.
-/

namespace Deployment.Yaml

/-- What is wrong with the form of a text. -/
inductive Problem where
  | expectedColon
  | entryNotAllowed
  | keyNotAllowed
  | valueNotAllowed
  | noTokenStart
  | unknownDirective
  | expectedCommentOrBreak
  | expectedDirectiveName
  | nonAlphabetic
  | expectedVersionDot
  | longVersion
  | expectedVersion
  | expectedBlank
  | expectedBlankOrBreak
  | expectedAlphanumeric
  | expectedTagClose
  | expectedBang
  | expectedTagUri
  | expectedOctet
  | leadingOctet
  | trailingOctet
  | zeroIndent
  | tabInIndent
  | documentIndicator
  | endOfStream
  | unknownEscape
  | expectedHexadecimal
  | invalidCodePoint
  | unexpectedColon
  | tabViolatesIndent
  | expectedDocumentStart
  | undefinedHandle
  | expectedNode
  | expectedDash
  | expectedKey
  | expectedCommaOrBracket
  | expectedCommaOrBrace
  | duplicateVersion
  | incompatibleVersion
  | duplicateTagDirective
  deriving DecidableEq

/-- The wording of a problem. -/
def Problem.text : Problem → String
  | expectedColon => "could not find expected ':'"
  | entryNotAllowed => "block sequence entries are not allowed in this context"
  | keyNotAllowed => "mapping keys are not allowed in this context"
  | valueNotAllowed => "mapping values are not allowed in this context"
  | noTokenStart => "found character that cannot start any token"
  | unknownDirective => "found unknown directive name"
  | expectedCommentOrBreak => "did not find expected comment or line break"
  | expectedDirectiveName => "could not find expected directive name"
  | nonAlphabetic => "found unexpected non-alphabetical character"
  | expectedVersionDot => "did not find expected digit or '.' character"
  | longVersion => "found extremely long version number"
  | expectedVersion => "did not find expected version number"
  | expectedBlank => "did not find expected whitespace"
  | expectedBlankOrBreak => "did not find expected whitespace or line break"
  | expectedAlphanumeric => "did not find expected alphabetic or numeric character"
  | expectedTagClose => "did not find the expected '>'"
  | expectedBang => "did not find expected '!'"
  | expectedTagUri => "did not find expected tag URI"
  | expectedOctet => "did not find URI escaped octet"
  | leadingOctet => "found an incorrect leading UTF-8 octet"
  | trailingOctet => "found an incorrect trailing UTF-8 octet"
  | zeroIndent => "found an indentation indicator equal to 0"
  | tabInIndent => "found a tab character where an indentation space is expected"
  | documentIndicator => "found unexpected document indicator"
  | endOfStream => "found unexpected end of stream"
  | unknownEscape => "found unknown escape character"
  | expectedHexadecimal => "did not find expected hexadecimal number"
  | invalidCodePoint => "found invalid Unicode character escape code"
  | unexpectedColon => "found unexpected ':'"
  | tabViolatesIndent => "found a tab character that violates indentation"
  | expectedDocumentStart => "did not find expected <document start>"
  | undefinedHandle => "found undefined tag handle"
  | expectedNode => "did not find expected node content"
  | expectedDash => "did not find expected '-' indicator"
  | expectedKey => "did not find expected key"
  | expectedCommaOrBracket => "did not find expected ',' or ']'"
  | expectedCommaOrBrace => "did not find expected ',' or '\x7d'"
  | duplicateVersion => "found duplicate %YAML directive"
  | incompatibleVersion => "found incompatible YAML document"
  | duplicateTagDirective => "found duplicate %TAG directive"

/-- The construct in which a problem was found. -/
inductive Construct where
  | simpleKey
  | nextToken
  | directive
  | versionDirective
  | tagDirective
  | tagDirectiveHandle
  | tagDirectiveHandleEnd
  | tagDirectiveUri
  | anchor
  | alias
  | tag
  | tagUri
  | blockScalar
  | quotedScalar
  | quotedEscape
  | plainScalar
  | node
  | blockNode
  | flowNode
  | blockSequence
  | blockMapping
  | flowSequence
  | flowMapping
  deriving DecidableEq

/-- The wording of a construct. -/
def Construct.text : Construct → String
  | .simpleKey => "while scanning a simple key"
  | .nextToken => "while scanning for the next token"
  | .directive => "while scanning a directive"
  | .versionDirective => "while scanning a %YAML directive"
  | .tagDirective => "while scanning a %TAG directive"
  | .tagDirectiveHandle => "while scanning a tag directive"
  | .tagDirectiveHandleEnd => "while parsing a tag directive"
  | .tagDirectiveUri => "while parsing a %TAG directive"
  | .anchor => "while scanning an anchor"
  | .alias => "while scanning an alias"
  | .tag => "while scanning a tag"
  | .tagUri => "while parsing a tag"
  | .blockScalar => "while scanning a block scalar"
  | .quotedScalar => "while scanning a quoted scalar"
  | .quotedEscape => "while parsing a quoted scalar"
  | .plainScalar => "while scanning a plain scalar"
  | .node => "while parsing a node"
  | .blockNode => "while parsing a block node"
  | .flowNode => "while parsing a flow node"
  | .blockSequence => "while parsing a block collection"
  | .blockMapping => "while parsing a block mapping"
  | .flowSequence => "while parsing a flow sequence"
  | .flowMapping => "while parsing a flow mapping"

/-- A step from a collection to a value in it, or from an alias to the value it stands for. -/
inductive Step where
  | item (index : Nat)
  /-- The value under a scalar key, written as in the text. -/
  | entry (key : String)
  /-- The value under a key that is no scalar. -/
  | unnamed
  | alias
  deriving DecidableEq

/-- The text of the path to the root. -/
def rootText : String := "."

/-- The text of a path with one step more, the path to the root being none. -/
def Step.extend (done : Option String) : Step → Option String
  | .item i => some (done.getD rootText ++ "[" ++ Text.natText i ++ "]")
  | .entry k => some ((done.map (· ++ ".")).getD "" ++ k)
  | .unnamed => some ((done.map (· ++ ".")).getD "" ++ "?")
  | .alias => some (done.getD rootText)

/-- The text of a path; one that reads like that of the root is left out. -/
def pathText? (path : List Step) : Option String :=
  (path.foldl Step.extend none).filter (· ≠ rootText)

/-- What is wrong with a value of a well-formed text. -/
inductive Flaw where
  /-- A key that stands in its mapping already. -/
  | duplicate (key : Value)
  /-- An integer of more than sixty-four bits. -/
  | wideInteger (i : Int)
  /-- A scalar whose text does not suit its tag. -/
  | unsuited (text : String) (expected : String)

/-- The wording of a flaw. -/
def Flaw.text : Flaw → String
  | duplicate .null => "duplicate entry with null key"
  | duplicate (.bool b) =>
    "duplicate entry with key \x60" ++ (if b then "true" else "false") ++ "\x60"
  | duplicate (.number n) => "duplicate entry with key " ++ n.text
  | duplicate (.string s) => "duplicate entry with key " ++ Text.quoted s
  | duplicate _ => "duplicate entry in YAML map"
  | wideInteger i =>
    let type := if i < 0 then "i128" else "u128"
    "invalid type: integer \x60" ++ Text.intText i ++ "\x60 as " ++ type ++
      ", expected any YAML value"
  | unsuited text expected =>
    "invalid value: string " ++ Text.quoted text ++ ", expected " ++ expected

/-- Where the end of a mapping stands that was never begun. -/
inductive StrayEnd where
  | inside
  /-- Behind the end of the root. -/
  | outside
  deriving DecidableEq

/-- The wording of a stray end. -/
def StrayEnd.text : StrayEnd → String
  | inside => "expected SCALAR, SEQUENCE-START, MAPPING-START, or ALIAS"
  | outside => "expected DOCUMENT-START or STREAM-END"

/-- Why a text is no document, or a value has no text. -/
inductive Fault where
  /-- A character that no text may hold, at a count of bytes. -/
  | control (offset : Nat)
  | malformed (problem : Problem) (mark : Mark) (within : Option (Construct × Mark))
  | unknownAnchor (mark : Mark)
  | tooDeep (mark : Mark)
  | tooManyAliases
  | severalDocuments
  | flawed (path : List Step) (flaw : Flaw) (mark : Mark)
  /-- A value that cannot be written. -/
  | unwritable (stray : StrayEnd)

namespace Fault

/-- The wording of a fault. -/
def message : Fault → String
  | control offset =>
    "control characters are not allowed" ++
      if offset = 0 then "" else " at position " ++ Text.natText offset
  | malformed problem mark within =>
    let tail := match within with
      | none => ""
      | some (construct, start) =>
        ", " ++ construct.text ++ if start.samePlace mark then "" else start.suffix
    problem.text ++ mark.suffix ++ tail
  | unknownAnchor mark => "unknown anchor" ++ mark.suffix
  | tooDeep mark => "recursion limit exceeded" ++ mark.suffix
  | tooManyAliases => "repetition limit exceeded"
  | severalDocuments => "deserializing from YAML containing more than one document is not supported"
  | flawed path flaw mark =>
    ((pathText? path).map (· ++ ": ")).getD "" ++ flaw.text ++ mark.suffix
  | unwritable stray => stray.text

/-- The mark of a fault, if it has one. -/
def mark? : Fault → Option Mark
  | control _ => some {}
  | malformed _ mark _ => some mark
  | unknownAnchor mark => some mark
  | tooDeep mark => some mark
  | tooManyAliases => none
  | severalDocuments => none
  | flawed _ _ mark => some mark
  | unwritable _ => some {}

/-- The line and column of a fault, counted from one; both are zero where there is none. -/
def position (f : Fault) : Nat × Nat :=
  match f.mark? with
  | some m => (m.line + 1, m.column + 1)
  | none => (0, 0)

end Fault

end Deployment.Yaml
