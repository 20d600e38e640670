import Deployment.Yaml.Mark
import Deployment.Yaml.Tag

/-!
# Yaml/Token — the tokens of a text

A text is a sequence of tokens, each from one mark to another. Tokens of zero width say where the
indentation of block collections begins and ends.
-/

namespace Deployment.Yaml

/-- How a scalar is written. -/
inductive Style where
  | plain
  | singleQuoted
  | doubleQuoted
  | literal
  | folded
  deriving DecidableEq, Inhabited

/-- What a token is. -/
inductive Lexeme where
  | streamStart
  | streamEnd
  | version (major minor : Nat)
  | tagDirective (handle : String) (lead : Tag)
  | documentStart
  | documentEnd
  | blockSequenceStart
  | blockMappingStart
  | blockEnd
  | flowSequenceStart
  | flowSequenceEnd
  | flowMappingStart
  | flowMappingEnd
  | blockEntry
  | flowEntry
  | key
  | value
  | alias (name : String)
  | anchor (name : String)
  /-- A tag; an empty handle means that the suffix is the whole tag. -/
  | tag (handle : String) (suffix : Tag)
  | scalar (text : String) (style : Style)
  deriving DecidableEq, Inhabited

/-- A lexeme with the marks of its two ends. -/
structure Token where
  lexeme : Lexeme
  start : Mark
  stop : Mark
  deriving Inhabited

end Deployment.Yaml
