import Deployment.CompileError
import Deployment.Document
import Deployment.Yaml.Writing

/-!
# Manifest/Writing — documents in manifest notation

Fields that have a meaning here are written in their normal form, with container ports only; other
keys are written as they were read. Host names are not written: they follow from the fragments.
-/

namespace Deployment

namespace Manifest

/-- An entry under a text. -/
def entry (key : String) (v : Value) : Value × Value := (.string key, v)

/-- An entry with a text, if there is one. -/
def textEntry (key : String) (text? : Option String) : List (Value × Value) :=
  (text?.map fun text => entry key (.string text)).toList

/-- An entry that is written unless its list is empty. -/
def listEntry {α : Type} (key : String) (as : List α) (v : List α → Value) :
    List (Value × Value) :=
  if as.isEmpty then [] else [entry key (v as)]

/-- The credentials that are there. -/
def registryMapping (r : Registry) : Value :=
  .mapping (textEntry "url" r.url ++ textEntry "username" r.username ++
    textEntry "password" r.password)

/-- The fields of a service that have a meaning here. -/
def serviceFields (s : Service) : List (Value × Value) :=
  (if s.isCustomBuild then [] else [entry "image" (.string s.image)]) ++
    listEntry "ports" s.ports (fun ps => .sequence (ps.map fun (p : Nat) => .number (.int p))) ++
    listEntry "environment" s.environment.entries
      (fun es => .mapping (es.map fun (k, v) => entry k (.string v))) ++
    listEntry "volumes" s.volumes (fun vs => .sequence (vs.map .string)) ++
    textEntry "x-subdomain" s.subdomain ++
    (s.registry.map fun r => entry "x-registry" (registryMapping r)).toList

/-- The body of a service. A key among the others that has a meaning replaces the field. -/
def serviceBody (s : Service) : Value :=
  .mapping (s.extra.foldl (fun es (k, v) => Entries.insert Value.same k v es) (serviceFields s))

end Manifest

namespace Document

/-- The declared volumes, if there are any. -/
def volumesEntry (d : Document) (root : List (Value × Value)) : List (Value × Value) :=
  if d.volumes.names.isEmpty then root
  else
    Entries.insert Value.same (.string "volumes")
      (.mapping (d.volumes.names.map fun name => Manifest.entry name (.mapping []))) root

/-- The entries of a document as a manifest. -/
def toEntries (d : Document) : List (Value × Value) :=
  d.volumesEntry <|
    Entries.insert Value.same (.string "services")
      (.mapping (d.services.map fun (name, s) => Manifest.entry name (Manifest.serviceBody s)))
      d.extensions

/-- A document as a manifest. -/
def toValue (d : Document) : Value := .mapping d.toEntries

/-- The text of a document as a manifest. -/
def toText (d : Document) : Except CompileError String :=
  match Yaml.write d.toValue with
  | .ok text => .ok text
  | .error fault => .error (.malformed fault)

end Document

end Deployment
