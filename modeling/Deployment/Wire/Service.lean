import Deployment.Document
import Deployment.Wire.Value

/-!
# Wire/Service — services and documents as JSON

Empty lists and fields without a value are left out.
-/

namespace Deployment

open Json (Decode Fields)

/-- A member for a text, if there is one. -/
def textMember (name : String) (text? : Option String) : List (String × Json) :=
  (text?.map fun text => (name, Json.string text)).toList

/-- A member that is left out if its list is empty. -/
def listMember {α : Type} (name : String) (as : List α) (j : List α → Json) :
    List (String × Json) :=
  if as.isEmpty then [] else [(name, j as)]

/-- Texts as an array. -/
def textsJson (texts : List String) : Json := .array (texts.map .string)

namespace TextMap

/-- The texts of a map as members. -/
def toJson (m : TextMap) : Json := .object (m.entries.map fun (k, v) => (k, .string v))

/-- A map from texts to texts; the last text of a repeated key is taken. -/
def ofJson : Decode TextMap := ofList <$> Decode.pairs Decode.text

end TextMap

namespace NameSet

/-- A set of names as an array. -/
def toJson (s : NameSet) : Json := textsJson s.names

/-- A set of names. -/
def ofJson : Decode NameSet := ofList <$> Decode.list Decode.text

end NameSet

namespace Hostname

/-- A host name as a text. -/
def toJson (h : Hostname) : Json := .string h.text

/-- A host name, taken as it is. -/
def ofJson : Decode Hostname := Hostname.mk <$> Decode.text

end Hostname

namespace Fragment

/-- A fragment as a text. -/
def toJson (f : Fragment) : Json := .string f.text

/-- A fragment, checked. -/
def ofJson : Decode Fragment :=
  Decode.text.refine fun s => (ofString s).mapError fun e => .other e.message

end Fragment

namespace Registry

/-- Credentials as JSON. -/
def toJson (r : Registry) : Json :=
  .object (textMember "url" r.url ++ textMember "username" r.username ++
    textMember "password" r.password)

/-- The fields of credentials. -/
def fields : Fields Registry :=
  Registry.mk <$> .optional "url" Decode.text <*> .optional "username" Decode.text <*>
    .optional "password" Decode.text

/-- Credentials. -/
def ofJson : Decode Registry := Decode.record "RegistryCredentials" fields

end Registry

namespace Service

/-- A service as JSON. -/
def toJson (s : Service) : Except KeyFault Json := do
  let extra ← Value.entriesToJson s.extra
  return .object <|
    [("name", .string s.name), ("image", .string s.image)] ++
      listMember "ports" s.ports (fun ps => .array (ps.map Json.nat)) ++
      (if s.environment.entries.isEmpty then []
        else [("environment", s.environment.toJson)]) ++
      listMember "volumes" s.volumes textsJson ++
      textMember "subdomain" s.subdomain ++
      textMember "hostname" (s.hostname.map Hostname.text) ++
      (s.registry.map fun r => ("registry", r.toJson)).toList ++
      listMember "extra" extra Json.object

/-- The fields of a service. -/
def fields : Fields Service :=
  Service.mk <$> .required "name" Decode.text <*> .required "image" Decode.text <*>
    .defaulted "ports" [] (Decode.list Decode.port) <*>
    .defaulted "environment" {} TextMap.ofJson <*>
    .defaulted "volumes" [] (Decode.list Decode.text) <*>
    .optional "subdomain" Decode.text <*> .optional "hostname" Hostname.ofJson <*>
    .optional "registry" Registry.ofJson <*> .defaulted "extra" [] Value.entriesOfJson

/-- A service. -/
def ofJson : Decode Service := Decode.record "ServiceSpec" fields

end Service

namespace Warning

/-- A warning as JSON. -/
def toJson (w : Warning) : Json :=
  .object [("service", .string w.service), ("field", .string w.field), ("entry", .string w.entry),
    ("reason", .string w.reason)]

/-- The fields of a warning. -/
def fields : Fields Warning :=
  Warning.mk <$> .required "service" Decode.text <*> .required "field" Decode.text <*>
    .required "entry" Decode.text <*> .required "reason" Decode.text

/-- A warning. -/
def ofJson : Decode Warning := Decode.record "ManifestWarning" fields

end Warning

namespace Document

/-- The services of a document as members. -/
def servicesToJson : List (String × Service) → Except KeyFault (List (String × Json))
  | [] => return []
  | (name, s) :: rest => do
    let j ← s.toJson
    return (name, j) :: (← servicesToJson rest)

/-- A document as JSON. -/
def toJson (d : Document) : Except KeyFault Json := do
  let services ← servicesToJson d.services
  let extensions ← Value.entriesToJson d.extensions
  return .object <|
    [("services", .object services)] ++ listMember "declaredVolumes" d.volumes.names textsJson ++
      listMember "extensions" extensions Json.object ++
      listMember "warnings" d.warnings (fun ws => .array (ws.map Warning.toJson))

/-- Services by their keys; the last service of a repeated key is taken. -/
def servicesOfJson : Decode (List (String × Service)) :=
  Entries.ofList Entries.sameText <$> Decode.pairs Service.ofJson

/-- The fields of a document. -/
def fields : Fields Document :=
  Document.mk <$> .required "services" servicesOfJson <*>
    .defaulted "declaredVolumes" {} NameSet.ofJson <*>
    .defaulted "extensions" [] Value.entriesOfJson <*>
    .defaulted "warnings" [] (Decode.list Warning.ofJson)

/-- A document. -/
def ofJson : Decode Document := Decode.record "ComposeDocument" fields

end Document

end Deployment
