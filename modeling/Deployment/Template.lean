import Deployment.Instant
import Deployment.Template.Variable
import Deployment.Value.Basic

/-!
# Template — stored deployments with gaps

A template is the skeleton of a manifest with tokens in it, and the variables whose texts take the
place of the tokens.
-/

namespace Deployment

/-- What kind of deployment a template is. -/
inductive Category where
  | container
  | proxy
  | static
  | loadBalancer
  deriving DecidableEq, Inhabited

/-- The name of a category. -/
def Category.name : Category → String
  | container => "container"
  | proxy => "proxy"
  | static => "static"
  | loadBalancer => "loadbalancer"

/-- A stored template. -/
structure Template where
  id : String
  name : String
  description : Option String := none
  category : Category
  skeleton : Value
  declared : List Template.Variable := []
  tags : List String := []
  createdAt : Option Instant := none
  updatedAt : Option Instant := none
  deriving Inhabited

end Deployment
