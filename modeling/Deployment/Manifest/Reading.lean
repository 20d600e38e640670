import Deployment.Manifest.Service
import Deployment.Yaml.Reading

/-!
# Manifest/Reading — documents from manifest notation

A manifest is a mapping with a mapping of services, declared volumes, and other keys that are kept
as they are.
-/

namespace Deployment

namespace Manifest

/-- The name of a service: a text or a number, and not blank. -/
def serviceName (key : Value) : Except SchemaError String :=
  let name? := match key with
    | .string s => some s
    | .number n => some n.text
    | _ => none
  match name? with
  | none => throw .nameNotText
  | some name => if Text.isBlankText name then throw .blankName else return name

/-- The services of a manifest. -/
def servicesOf (root : List (Value × Value)) : Except SchemaError (List (Value × Value)) :=
  match Value.lookup "services" root with
  | some (.mapping services) => return services
  | some .null => throw .emptyServices
  | some _ => throw .servicesNotMapping
  | none => throw .missingServices

/-- Add services with their warnings to a document. -/
def addServices : Document → List (Value × Value) → Except CompileError Document
  | d, [] => return d
  | d, (key, body) :: rest => do
    let name ← CompileError.ofSchema (serviceName key)
    let (s, ws) ← CompileError.ofSchema (service name body)
    let d ← CompileError.ofViolation ({ d with warnings := d.warnings ++ ws }.add s)
    addServices d rest

/-- Declare volumes by their keys. -/
def declareAll : Document → List (Value × Value) → Except SchemaError Document
  | d, [] => return d
  | d, (key, _) :: rest =>
    match key.scalarText? with
    | some name => declareAll (d.declare name) rest
    | none => throw .volumeNameNotText

/-- Declare the volumes of a manifest. -/
def declareVolumes (d : Document) : Value → Except SchemaError Document
  | .null => return d
  | .mapping volumes => declareAll d volumes
  | _ => throw .volumesNotMapping

/-- Add the entries of a manifest other than its services to a document; a tag on a key is read
through. -/
def addRest : Document → List (Value × Value) → Except SchemaError Document
  | d, [] => return d
  | d, (key, v) :: rest =>
    match key.asString? with
    | some "services" => addRest d rest
    | some "volumes" => do addRest (← declareVolumes d v) rest
    | _ => addRest { d with extensions := Entries.insert Value.same key v d.extensions } rest

end Manifest

namespace Document

/-- The document of a manifest. -/
def ofValue (v : Value) : Except CompileError Document := do
  let root ← CompileError.ofSchema (v.asMapping?.elim (throw .notMapping) pure)
  let services ← CompileError.ofSchema (Manifest.servicesOf root)
  let d ← Manifest.addServices {} services
  CompileError.ofSchema (Manifest.addRest d root)

/-- The document of the text of a manifest. -/
def ofText (text : String) : Except CompileError Document :=
  match Yaml.read text with
  | .ok v => ofValue v
  | .error fault => throw (.malformed fault)

end Document

end Deployment
