import Deployment.Compilation
import Deployment.TemplateStore

/-!
# Deploy — descriptors on request

A request describes a deployment by a manifest, an archetype or a stored template. Templates get
texts for a few names from the system, which win over the texts of the request.
-/

namespace Deployment

/-- How a request describes a deployment. -/
inductive Description where
  | manifest (text : String)
  | wizard (archetype : String) (options : Wizard.Options)
  | template (id customerName deployName : String) (supplied : Bindings)
  deriving DecidableEq, Inhabited

/-- What the services of a described deployment come from. -/
def Description.source : Description → Source
  | manifest _ => .manifest
  | wizard archetype _ => .wizard archetype
  | template id _ _ _ => .template id

/-- The number of credentials that a described deployment takes from its stream. -/
def Description.secretsDrawn : Description → Nat
  | wizard archetype options => Wizard.secretsDrawn archetype options
  | _ => 0

/-- Why a request is rejected. -/
inductive DeployError where
  | compile (error : CompileError)
  | templateNotFound (id : String)
  | store (reason : String)

namespace DeployError

/-- The wording of an error. -/
def message : DeployError → String
  | compile error => "Compile error: " ++ error.message
  | templateNotFound id => "Template not found: " ++ id
  | store reason => "Template store error: " ++ reason

/-- The wordings of an error and of what is behind it. -/
def chain : DeployError → List String
  | e@(compile error@(.violation v)) => [e.message, error.message, v.message]
  | e@(compile error) => [e.message, error.message]
  | e => [e.message]

end DeployError

/-- Texts with those of the system, for a domain, a customer and a deployment. -/
def Bindings.withSystem (values : Bindings) (domain customerName deployName : String) : Bindings :=
  values
    |>.insert "domain" (Text.lower (Text.trim domain))
    |>.insert "customerName" customerName
    |>.insert "deployName" deployName
    |>.insert "namespace" (customerName ++ "-" ++ deployName)

/-- The descriptor of a described deployment for a target. The id and the time of the request and
the stream of credentials are given. -/
def deploy (store : TemplateStore) (settings : Settings) (id : RequestId) (time : Instant)
    (secrets : Nat → String) (d : Description) (target : Target) :
    Except DeployError Descriptor :=
  let m : RequestMeta := { target with context := { id, time, source := d.source } }
  match d with
  | .manifest text => (Descriptor.ofManifest text m settings).mapError .compile
  | .wizard archetype options =>
    (Descriptor.ofArchetype archetype options secrets m settings).mapError .compile
  | .template templateId customerName deployName supplied =>
    match store.get? templateId with
    | none => throw (.templateNotFound templateId)
    | some t =>
      let values := supplied.withSystem target.domain customerName deployName
      (Descriptor.ofTemplate t values m settings).mapError .compile

end Deployment
