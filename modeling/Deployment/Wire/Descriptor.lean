import Deployment.Wire.Request

/-!
# Wire/Descriptor — descriptors as JSON

A descriptor is handed to its host as JSON text on lines. It has no such text if a key that is
kept from a manifest has no JSON form.
-/

namespace Deployment

open Json (Decode Fields)

namespace Endpoint

/-- An endpoint as JSON. -/
def toJson (e : Endpoint) : Json :=
  .object [("service", .string e.service), ("hostname", e.hostname.toJson),
    ("containerName", .string e.container), ("port", .nat e.port), ("labels", e.labels.toJson)]

/-- The fields of an endpoint. -/
def fields : Fields Endpoint :=
  Endpoint.mk <$> .required "service" Decode.text <*> .required "hostname" Hostname.ofJson <*>
    .required "containerName" Decode.text <*> .required "port" Decode.port <*>
    .required "labels" TextMap.ofJson

/-- An endpoint. -/
def ofJson : Decode Endpoint := Decode.record "ServiceEndpoint" fields

end Endpoint

namespace Descriptor

/-- Services as items. -/
def servicesToJson : List Service → Except KeyFault (List Json)
  | [] => return []
  | s :: ss => do
    let j ← s.toJson
    return j :: (← servicesToJson ss)

/-- A descriptor as JSON. -/
def toJson (d : Descriptor) : Except KeyFault Json := do
  let services ← servicesToJson d.services
  return .object <|
    [("domain", d.domain.toJson), ("aliases", .array (d.aliases.map Hostname.toJson)),
      ("customerId", .string d.customer), ("ssl", d.ssl.toJson),
      ("projectName", .string d.project), ("services", .array services),
      ("endpoints", .array (d.endpoints.map Endpoint.toJson))] ++
      listMember "volumes" d.volumes.names textsJson ++
      (d.registry.map fun r => ("registry", r.toJson)).toList ++
      [("context", d.context.toJson)]

/-- The text of a descriptor. -/
def toText (d : Descriptor) : Except CompileError String :=
  match d.toJson with
  | .ok j => return j.pretty
  | .error e => throw (.serialization e.message)

/-- The fields of a descriptor. -/
def fields : Fields Descriptor :=
  Descriptor.mk <$> .required "domain" Hostname.ofJson <*>
    .required "aliases" (Decode.list Hostname.ofJson) <*> .required "customerId" Decode.text <*>
    .required "ssl" Ssl.ofJson <*> .required "projectName" Decode.text <*>
    .required "services" (Decode.list Service.ofJson) <*>
    .required "endpoints" (Decode.list Endpoint.ofJson) <*>
    .defaulted "volumes" {} NameSet.ofJson <*> .optional "registry" Registry.ofJson <*>
    .required "context" RequestContext.ofJson

/-- A descriptor. -/
def ofJson : Decode Descriptor := Decode.record "DeploymentDescriptor" fields

end Descriptor

end Deployment
