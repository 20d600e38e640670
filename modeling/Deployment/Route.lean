import Deployment.Document

/-!
# Route — the host names of services

Every service gets a host name under a root domain: its fragment, a dot and the domain. One service
may stand on the root domain itself, under a reserved fragment; every other fragment is given to
one service only.
-/

namespace Deployment

namespace Route

/-- What is given away already: the service on the root domain, and the other fragments. -/
structure Taken where
  owner : Option String := none
  fragments : List String := []
  deriving DecidableEq

/-- The fragment that a service asks for. -/
def asked (s : Service) : String := s.subdomain.getD s.defaultFragment

/-- Route one service. -/
def service (root : Hostname) (taken : Taken) (s : Service) :
    Except Violation (Service × Taken) :=
  let invalid : Violation := .invalidSubdomain s.name (asked s)
  match Fragment.ofString (asked s) with
  | .error _ => throw invalid
  | .ok f =>
    if f.isRoot then
      match taken.owner with
      | some owner => throw (.rootConflict owner s.name)
      | none => return (s.routed f root, { taken with owner := some s.name })
    else if taken.fragments.contains f.text then throw (.fragmentTaken f.text)
    else match root.withFragment f with
      | .error _ => throw invalid
      | .ok h => return (s.routed f h, { taken with fragments := f.text :: taken.fragments })

/-- Route services from the first to the last. -/
def services (root : Hostname) :
    Taken → List (String × Service) → Except Violation (List (String × Service))
  | _, [] => return []
  | taken, (name, s) :: rest => do
    let (s, taken) ← service root taken s
    return (name, s) :: (← services root taken rest)

end Route

/-- Route the services of a document under a root domain. -/
def Document.route (d : Document) (root : Hostname) : Except Violation Document := do
  return { d with services := ← Route.services root {} d.services }

end Deployment
