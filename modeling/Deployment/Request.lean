import Deployment.Instant
import Deployment.Registry
import Deployment.RequestId
import Deployment.ResourceTier

/-!
# Request — what a caller says about a deployment

A target says where and for whom to deploy. A request context says which request it was and what
the services come from; it is carried into the descriptor.
-/

namespace Deployment

/-- What the services of a deployment come from. -/
inductive Source where
  | manifest
  | wizard (archetype : String)
  | template (id : String)
  deriving DecidableEq, Inhabited

/-- Data about a request. -/
structure RequestContext where
  id : RequestId
  time : Instant
  source : Source
  tier : Option ResourceTier := none
  deriving DecidableEq, Inhabited

/-- Whether certificates are asked for, and from whom. -/
structure Ssl where
  enabled : Bool := false
  provider : Option String := none
  deriving DecidableEq, Inhabited

/-- Where and for whom to deploy. -/
structure Target where
  domain : String
  aliases : List String := []
  customer : String
  ssl : Ssl := {}
  /-- Credentials for private images. -/
  registry : Option Registry := none
  deriving DecidableEq, Inhabited

/-- A target with the context of its request. -/
structure RequestMeta extends Target where
  context : RequestContext
  deriving DecidableEq, Inhabited

end Deployment
