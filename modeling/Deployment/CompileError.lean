import Deployment.Violation
import Deployment.Yaml.Fault

/-!
# CompileError — why a deployment is not compiled
-/

namespace Deployment

/-- A part of a manifest that has another shape than it must have. -/
inductive SchemaError where
  | notMapping
  | missingServices
  | emptyServices
  | servicesNotMapping
  | nameNotText
  | blankName
  | serviceNotMapping (service : String)
  | imageNotText (service : String)
  | portsNotList (service : String)
  | environmentNeither (service : String)
  | volumesNotList (service : String)
  | subdomainNotText (service : String)
  | registryNotMapping (service : String)
  | volumeNameNotText
  | volumesNotMapping
  deriving DecidableEq

/-- The begin of the wording of an error in a service. -/
def SchemaError.lead (service : String) : String := "service '" ++ service ++ "'"

/-- The wording of an error. -/
def SchemaError.message : SchemaError → String
  | notMapping => "manifest must be a mapping"
  | missingServices => "missing 'services' key"
  | emptyServices => "'services' must not be empty"
  | servicesNotMapping => "'services' must be a mapping"
  | nameNotText => "service names must be strings"
  | blankName => "service name must not be empty"
  | serviceNotMapping service => lead service ++ " must be a mapping"
  | imageNotText service => lead service ++ ": 'image' must be a string"
  | portsNotList service => lead service ++ ": 'ports' must be a list"
  | environmentNeither service => lead service ++ ": 'environment' must be a mapping or a list"
  | volumesNotList service => lead service ++ ": 'volumes' must be a list"
  | subdomainNotText service => lead service ++ ": 'x-subdomain' must be a string"
  | registryNotMapping service => lead service ++ ": 'x-registry' must be a mapping"
  | volumeNameNotText => "volume names must be strings"
  | volumesNotMapping => "top-level 'volumes' must be a mapping"

/-- Why a deployment is not compiled. -/
inductive CompileError where
  | malformed (fault : Yaml.Fault)
  | schema (error : SchemaError)
  | violation (v : Violation)
  | serialization (reason : String)
  | configuration (reason : String)

/-- The wording of an error. -/
def CompileError.message : CompileError → String
  | malformed fault =>
    let (line, column) := fault.position
    "Syntax error at line " ++ Text.natText line ++ ", column " ++ Text.natText column ++ ": " ++
      fault.message
  | schema error => "Schema error: " ++ error.message
  | violation v => "Validation error: " ++ v.message
  | serialization reason => "Serialization error: " ++ reason
  | configuration reason => "Configuration error: " ++ reason

/-- The result of a function that fails with a violation, as a result of compiling. -/
def CompileError.ofViolation {α : Type} : Except Violation α → Except CompileError α
  | .ok a => .ok a
  | .error v => .error (.violation v)

/-- The result of a function that fails with a schema error, as a result of compiling. -/
def CompileError.ofSchema {α : Type} : Except SchemaError α → Except CompileError α
  | .ok a => .ok a
  | .error e => .error (.schema e)

end Deployment
