import Deployment.Binary64.Reading
import Deployment.Registry
import Deployment.Text.Blank

/-!
# Template/Variable — what a template asks for

A template declares variables. Each has a type, which the text given for it must fit, and may have
a default; one that is required must get a text.
-/

namespace Deployment.Template

/-- What texts a variable takes. -/
inductive VariableType where
  | string
  | number
  | boolean
  /-- Any text, which is a credential. -/
  | password
  deriving DecidableEq, Inhabited

namespace VariableType

/-- The name of a type. -/
def name : VariableType → String
  | string => "string"
  | number => "number"
  | boolean => "boolean"
  | password => "password"

/-- Whether a text is of a type. -/
def accepts (type : VariableType) (text : String) : Bool :=
  match type with
  | string | password => true
  | number => (Binary64.read? (Text.trimChars text.toList)).isSome
  | boolean => Text.trim text == "true" || Text.trim text == "false"

/-- Whether texts of a type are credentials. -/
def isSecret : VariableType → Bool
  | password => true
  | _ => false

/-- The name of a type in a description. -/
def describe : VariableType → String
  | string => "String"
  | number => "Number"
  | boolean => "Boolean"
  | password => "Password"

end VariableType

/-- A variable of a template. -/
structure Variable where
  name : String
  label : String := ""
  type : VariableType := .string
  /-- The text without one given; it may hold tokens. -/
  fallback : Option String := none
  required : Bool := false
  deriving DecidableEq, Inhabited

/-- The fields of a variable; the default of a password is concealed. -/
def Variable.describe (v : Variable) : String :=
  let shown := if v.type.isSecret then v.fallback.map fun _ => concealed else v.fallback
  "TemplateVariable \x7b name: " ++ Text.quoted v.name ++ ", label: " ++ Text.quoted v.label ++
    ", var_type: " ++ v.type.describe ++ ", default: " ++ Registry.describeText shown ++
    ", required: " ++ (if v.required then "true" else "false") ++ " \x7d"

end Deployment.Template
