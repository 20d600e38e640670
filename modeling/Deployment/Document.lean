import Deployment.NameSet
import Deployment.Service
import Deployment.Violation

/-!
# Document — the services of a deployment

A document holds services by name in the order in which they were added, the volumes that they
share, and the parts of a manifest that have no meaning here. However a deployment is described,
it becomes a document before it is routed and assembled.
-/

namespace Deployment

/-- An entry of a manifest that was left out. -/
structure Warning where
  service : String
  field : String
  entry : String
  reason : String
  deriving DecidableEq, Inhabited

/-- The wording of a warning. -/
def Warning.text (w : Warning) : String :=
  "service '" ++ w.service ++ "': dropped " ++ w.field ++ " entry '" ++ w.entry ++ "' (" ++
    w.reason ++ ")"

/-- Services with what they share. -/
structure Document where
  services : List (String × Service) := []
  volumes : NameSet := {}
  extensions : List (Value × Value) := []
  warnings : List Warning := []
  deriving Inhabited

namespace Document

open Entries (sameText)

/-- The service with a name. -/
def service? (d : Document) (name : String) : Option Service :=
  Entries.find? sameText name d.services

/-- The names of the services. -/
def names (d : Document) : List String := d.services.map Prod.fst

/-- Add a service under its name, unless the name is taken. -/
def add (d : Document) (s : Service) : Except Violation Document :=
  if Entries.has sameText s.name d.services then throw (.duplicateService s.name)
  else return { d with services := d.services ++ [(s.name, s)] }

/-- Declare a volume. -/
def declare (d : Document) (name : String) : Document := { d with volumes := d.volumes.insert name }

end Document

end Deployment
