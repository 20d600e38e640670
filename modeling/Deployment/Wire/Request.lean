import Deployment.Deploy
import Deployment.Instant.Reading
import Deployment.Instant.Writing
import Deployment.Wire.Service

/-!
# Wire/Request — requests as JSON
-/

namespace Deployment

open Json (Decode Fields)

namespace RequestId

/-- An identifier. -/
def ofJson : Decode RequestId :=
  Decode.text.refine fun s => (ofText? s).elim (.error (.other "invalid identifier")) .ok

end RequestId

namespace Instant

/-- An instant. -/
def ofJson : Decode Instant :=
  (Decode.textFor "an RFC 3339 formatted date and time string").refine fun s =>
    (ofText s).mapError fun e => .other e.message

end Instant

namespace ResourceTier

/-- A size as a text. -/
def toJson (t : ResourceTier) : Json := .string t.name

/-- A size. -/
def ofJson (lax : Bool) : Decode ResourceTier :=
  Decode.variant (all.map fun t => ([t.name], t)) lax

end ResourceTier

namespace DatabaseEngine

/-- An engine as a text. -/
def toJson (e : DatabaseEngine) : Json := .string e.name

/-- An engine. -/
def ofJson (lax : Bool) : Decode DatabaseEngine :=
  Decode.variant ([mysql, postgres].map fun e => ([e.name], e)) lax

end DatabaseEngine

namespace Source

/-- A source as JSON, told by its kind. -/
def toJson : Source → Json
  | manifest => .object [("kind", .string "manifest")]
  | wizard archetype => .object [("kind", .string "wizard"), ("archetype", .string archetype)]
  | template id => .object [("kind", .string "template"), ("template_id", .string id)]

/-- A source. -/
def ofJson : Decode Source :=
  Decode.tagged "kind" [
    ("manifest", pure manifest),
    ("wizard", wizard <$> .required "archetype" Decode.text),
    ("template", template <$> .required "template_id" Decode.text)]

end Source

namespace RequestContext

/-- The data about a request as JSON. -/
def toJson (c : RequestContext) : Json :=
  .object <|
    [("requestId", .string c.id.toText), ("requestedAt", .string c.time.toText),
      ("source", c.source.toJson)] ++ (c.tier.map fun t => ("resourceTier", t.toJson)).toList

/-- The fields of the data about a request. -/
def fields : Fields RequestContext :=
  RequestContext.mk <$> .required "requestId" RequestId.ofJson <*>
    .required "requestedAt" Instant.ofJson <*> .required "source" Source.ofJson <*>
    .optional "resourceTier" (ResourceTier.ofJson false)

/-- The data about a request. -/
def ofJson : Decode RequestContext := Decode.record "RequestContext" fields

end RequestContext

namespace Ssl

/-- The choice of certificates as JSON. -/
def toJson (s : Ssl) : Json :=
  .object ([("enabled", .bool s.enabled)] ++ textMember "provider" s.provider)

/-- The fields of the choice of certificates. -/
def fields : Fields Ssl :=
  Ssl.mk <$> .required "enabled" Decode.truth <*> .optional "provider" Decode.text

/-- The choice of certificates. -/
def ofJson : Decode Ssl := Decode.record "SslConfig" fields

end Ssl

namespace Target

/-- The members of a target. -/
def members (t : Target) : List (String × Json) :=
  [("domain", .string t.domain), ("aliases", textsJson t.aliases),
    ("customerId", .string t.customer), ("ssl", t.ssl.toJson)] ++
    (t.registry.map fun r => ("registry", r.toJson)).toList

/-- A target as JSON. -/
def toJson (t : Target) : Json := .object t.members

/-- The fields of a target. -/
def fields : Fields Target :=
  Target.mk <$> .required "domain" Decode.text <*>
    .defaulted "aliases" [] (Decode.list Decode.text) <*> .required "customerId" Decode.text <*>
    .defaulted "ssl" {} Ssl.ofJson <*> .optional "registry" Registry.ofJson

/-- A target. -/
def ofJson : Decode Target := Decode.record "DeploymentTarget" fields

end Target

namespace RequestMeta

/-- A target with the data about its request as JSON. -/
def toJson (m : RequestMeta) : Json := .object (m.members ++ [("context", m.context.toJson)])

/-- The fields of a target with the data about its request. -/
def fields : Fields RequestMeta :=
  RequestMeta.mk <$> Target.fields <*> .required "context" RequestContext.ofJson

/-- A target with the data about its request. -/
def ofJson : Decode RequestMeta := Decode.record "DeploymentMeta" fields

end RequestMeta

namespace Wizard.Options

/-- The choices about an archetype as JSON. -/
def toJson (o : Options) : Json :=
  .object <|
    textMember "appName" o.appName ++
      (o.database.map fun e => ("database", e.toJson)).toList ++
      [("enableCache", .bool o.cache), ("resourceTier", o.tier.toJson)]

/-- The fields of the choices about an archetype. -/
def fields (lax : Bool) : Fields Options :=
  Options.mk <$> .optional "appName" Decode.text <*>
    .optional "database" (DatabaseEngine.ofJson lax) <*>
    .defaulted "enableCache" false Decode.truth <*>
    .defaulted "resourceTier" .small (ResourceTier.ofJson lax)

/-- The choices about an archetype. -/
def ofJson (lax : Bool) : Decode Options := Decode.record "WizardOptions" (fields lax)

end Wizard.Options

namespace Bindings

/-- Texts bound to names as members in ascending order. -/
def toJson (b : Bindings) : Json := .object (b.entries.map fun (k, v) => (k, .string v))

/-- Texts bound to names; the last text of a repeated name is taken. -/
def ofJson : Decode Bindings := ofList <$> Decode.pairs Decode.text

end Bindings

namespace Description

/-- A described deployment as JSON, told by its mode. -/
def toJson : Description → Json
  | manifest text => .object [("mode", .string "manifest"), ("text", .string text)]
  | wizard archetype options =>
    .object [("mode", .string "wizard"), ("archetype", .string archetype),
      ("options", options.toJson)]
  | template id customerName deployName supplied =>
    .object [("mode", .string "template"), ("templateId", .string id),
      ("customerName", .string customerName), ("deployName", .string deployName),
      ("variables", supplied.toJson)]

/-- A described deployment. The choices about an archetype are decoded laxly. -/
def ofJson : Decode Description :=
  Decode.tagged "mode" [
    ("manifest", manifest <$> .required "text" Decode.text),
    ("wizard", wizard <$> .required "archetype" Decode.text <*>
      .defaulted "options" {} (Wizard.Options.ofJson true)),
    ("template", template <$> .required "templateId" Decode.text <*>
      .required "customerName" Decode.text <*> .required "deployName" Decode.text <*>
      .defaulted "variables" {} Bindings.ofJson)]

end Description

end Deployment
