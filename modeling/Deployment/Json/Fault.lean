import Deployment.Json.Basic

/-!
# Json/Fault — why a text is no JSON value
-/

namespace Deployment.Json

/-- What is wrong with a text. -/
inductive Cause where
  | endInList
  | endInObject
  | endInString
  | endInValue
  | expectedColon
  | expectedListCommaOrEnd
  | expectedObjectCommaOrEnd
  | expectedIdent
  | expectedValue
  | invalidEscape
  | invalidNumber
  | numberOutOfRange
  | controlCharacter
  | keyNotString
  | loneSurrogate
  | trailingComma
  | trailingCharacters
  | endOfHexEscape
  | tooDeep
  deriving DecidableEq

/-- The wording of a cause. -/
def Cause.text : Cause → String
  | endInList => "EOF while parsing a list"
  | endInObject => "EOF while parsing an object"
  | endInString => "EOF while parsing a string"
  | endInValue => "EOF while parsing a value"
  | expectedColon => "expected \x60:\x60"
  | expectedListCommaOrEnd => "expected \x60,\x60 or \x60]\x60"
  | expectedObjectCommaOrEnd => "expected \x60,\x60 or \x60\x7d\x60"
  | expectedIdent => "expected ident"
  | expectedValue => "expected value"
  | invalidEscape => "invalid escape"
  | invalidNumber => "invalid number"
  | numberOutOfRange => "number out of range"
  | controlCharacter => "control character (\\u0000-\\u001F) found while parsing a string"
  | keyNotString => "key must be a string"
  | loneSurrogate => "lone leading surrogate in hex escape"
  | trailingComma => "trailing comma"
  | trailingCharacters => "trailing characters"
  | endOfHexEscape => "unexpected end of hex escape"
  | tooDeep => "recursion limit exceeded"

/-- A cause and the count of bytes up to it. -/
structure Fault where
  cause : Cause
  offset : Nat
  deriving DecidableEq

/-- The line of an offset, counted from one, and the bytes before it on its line, given those of
the characters in front. -/
def lineColumn (offset : Nat) : Nat → Nat → Nat → List Char → Nat × Nat
  | seen, line, start, c :: cs =>
    if offset ≤ seen then (line, offset - start)
    else if c = '\n' then lineColumn offset (seen + 1) (line + 1) (seen + 1) cs
    else lineColumn offset (seen + c.utf8Size) line start cs
  | _, line, start, [] => (line, offset - start)

/-- An offset in a text as the end of a message. -/
def positionText (text : String) (offset : Nat) : String :=
  let (line, column) := lineColumn offset 0 1 0 text.toList
  " at line " ++ Text.natText line ++ " column " ++ Text.natText column

end Deployment.Json
