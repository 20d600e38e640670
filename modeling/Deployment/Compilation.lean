import Deployment.Assembly
import Deployment.Manifest.Reading
import Deployment.Template.Rendering
import Deployment.Wizard

/-!
# Compilation — descriptors from manifests, archetypes and templates

Each of the three descriptions of a deployment becomes a document, and the document a descriptor.
-/

namespace Deployment

/-- The descriptor of the document that a description becomes. -/
def CompileError.assembled (d : Except CompileError Document) (m : RequestMeta)
    (settings : Settings) : Except CompileError Descriptor := do
  ofViolation ((← d).assemble m settings)

/-- The same data about a request, with the size that was chosen. -/
def RequestMeta.withTier (m : RequestMeta) (tier : ResourceTier) : RequestMeta :=
  { m with context := { m.context with tier := some tier } }

namespace Descriptor

/-- The descriptor of the text of a manifest. -/
def ofManifest (text : String) (m : RequestMeta) (settings : Settings) :
    Except CompileError Descriptor :=
  CompileError.assembled (Document.ofText text) m settings

/-- The descriptor of an archetype, the credentials taken from a stream. -/
def ofArchetype (id : String) (o : Wizard.Options) (secrets : Nat → String) (m : RequestMeta)
    (settings : Settings) : Except CompileError Descriptor :=
  CompileError.assembled (CompileError.ofViolation (Wizard.compile id o secrets))
    (m.withTier o.tier) settings

/-- The descriptor of a template with texts supplied for its variables. -/
def ofTemplate (t : Template) (supplied : Bindings) (m : RequestMeta) (settings : Settings) :
    Except CompileError Descriptor :=
  CompileError.assembled (t.render supplied) m settings

end Descriptor

end Deployment
