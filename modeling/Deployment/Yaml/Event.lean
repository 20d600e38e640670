import Deployment.Yaml.Token

/-!
# Yaml/Event — the structure of a text

Events are the tokens with their structure made plain: every collection has a begin and an end,
every key has a value, and what is left out is an empty scalar.
-/

namespace Deployment.Yaml

/-- What may stand before a node: the name of its anchor, and its tag with the handle resolved. -/
structure Property where
  anchor : Option String := none
  tag : Option Tag := none
  deriving DecidableEq, Inhabited

/-- What happens at a place of a text. -/
inductive Event where
  | streamStart
  | streamEnd
  | documentStart
  | documentEnd
  | alias (name : String)
  | scalar (property : Property) (text : String) (style : Style)
  | sequenceStart (property : Property)
  | sequenceEnd
  | mappingStart (property : Property)
  | mappingEnd
  deriving DecidableEq, Inhabited

end Deployment.Yaml
