import Deployment.NameSet
import Deployment.Request
import Deployment.Service

/-!
# Descriptor — a deployment ready for its host

A descriptor holds all services under their host names, with an endpoint for each. It is made when
every rule holds and does not change afterwards.
-/

namespace Deployment

/-- The way to one service. -/
structure Endpoint where
  service : String
  hostname : Hostname
  container : String
  port : Nat
  labels : TextMap
  deriving DecidableEq, Inhabited

/-- A deployment ready for its host. -/
structure Descriptor where
  domain : Hostname
  aliases : List Hostname
  customer : String
  ssl : Ssl
  project : String
  services : List Service
  endpoints : List Endpoint
  volumes : NameSet := {}
  registry : Option Registry := none
  context : RequestContext
  deriving Inhabited

namespace Descriptor

/-- The service with a name. -/
def service? (d : Descriptor) (name : String) : Option Service :=
  d.services.find? fun s => s.name == name

/-- The endpoint of the service with a name. -/
def endpoint? (d : Descriptor) (name : String) : Option Endpoint :=
  d.endpoints.find? fun e => e.service == name

/-- The service that stands on the root domain. -/
def rootService? (d : Descriptor) : Option Service :=
  d.services.find? fun s => s.hostname == some d.domain

end Descriptor

end Deployment
