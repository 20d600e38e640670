import Deployment.Descriptor
import Deployment.Route
import Deployment.Settings
import Deployment.Validation

/-!
# Assembly — descriptors of documents

A document becomes a descriptor under a target when no rule is broken. The rules are looked at in a
fixed order: domain, aliases, customer, credentials of the deployment, credentials of the services,
services with their images and volumes, routes. The first violation is reported.
-/

namespace Deployment

namespace Endpoint

/-- The port of a service that has none and whose label names none. -/
def defaultPort : Nat := 80

/-- The port that is routed: that of the label, or the first one. -/
def portOf (s : Service) : Nat := (s.labelPort?.or s.ports.head?).getD defaultPort

/-- The labels of the endpoint of a service. -/
def labelsOf (settings : Settings) (project domain : String) (s : Service) : TextMap :=
  let key (name : String) : String := settings.projectPrefix ++ "." ++ name
  .ofList [
    (key "project", project),
    (key "domain", domain),
    (key "subdomain", s.subdomain.getD ""),
    (key "port", Text.natText (portOf s))]

/-- The endpoint of a service that has a host name. -/
def ofService? (settings : Settings) (project domain : String) (s : Service) : Option Endpoint :=
  s.hostname.map fun hostname =>
    { service := s.name
      hostname
      container := project ++ "-" ++ s.name
      port := portOf s
      labels := labelsOf settings project domain s }

end Endpoint

/-- Certificates come from the provider of the settings unless the request names another. -/
def Ssl.withProvider (ssl : Ssl) (provider : String) : Ssl :=
  if ssl.enabled then { ssl with provider := ssl.provider.or (some provider) } else ssl

/-- The descriptor of routed services. -/
def Descriptor.ofRouted (d : Document) (domain : Hostname) (aliases : List Hostname)
    (m : RequestMeta) (settings : Settings) : Descriptor :=
  let project := settings.projectName domain.text
  let services := d.services.map Prod.snd
  { domain
    aliases
    customer := Text.trim m.customer
    ssl := m.ssl.withProvider settings.sslProvider
    project
    services
    endpoints := services.filterMap (Endpoint.ofService? settings project domain.text)
    volumes := d.volumes
    registry := m.registry
    context := m.context }

/-- The descriptor of a document under a target. -/
def Document.assemble (d : Document) (m : RequestMeta) (settings : Settings) :
    Except Violation Descriptor := do
  let domain ← Validation.domain m.domain
  let aliases ← Validation.aliases domain m.aliases
  Validation.customer m.customer
  m.registry.forM (Validation.credentials "deployment")
  Validation.allCredentials d
  Validation.services d
  let routed ← d.route domain
  return .ofRouted routed domain aliases m settings

end Deployment
