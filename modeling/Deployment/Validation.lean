import Deployment.Document
import Deployment.Request
import Deployment.Volume

/-!
# Validation — the rules of deployments

Every rule is a check that finds the first violation of it. Lists are checked from left to right.
-/

namespace Deployment.Validation

/-- The domain that a text is. -/
def domain (text : String) : Except Violation Hostname :=
  (Hostname.canonical text).mapError fun e => .invalidDomain text e.message

/-- The host name of an alias; it is neither the domain nor an earlier alias. -/
def aliasName (domain : Hostname) (earlier : List Hostname) (text : String) :
    Except Violation Hostname :=
  match Hostname.canonical text with
  | .error e => throw (.invalidAlias text e.message)
  | .ok h =>
    if h = domain then throw (.aliasIsDomain text)
    else if h ∈ earlier then throw (.duplicateAlias text)
    else return h

/-- The host names of aliases that follow earlier ones. -/
def aliasesAfter (domain : Hostname) :
    List Hostname → List String → Except Violation (List Hostname)
  | _, [] => return []
  | earlier, text :: texts => do
    let h ← aliasName domain earlier text
    return h :: (← aliasesAfter domain (h :: earlier) texts)

/-- The host names of aliases. -/
def aliases (domain : Hostname) (texts : List String) : Except Violation (List Hostname) :=
  aliasesAfter domain [] texts

/-- A deployment has an owner. -/
def customer (id : String) : Except Violation Unit :=
  if Text.isBlankText id then throw .missingCustomer else return

/-- User name and password of a registry go together. -/
def credentials (scope : String) (r : Registry) : Except Violation Unit :=
  match r.missing? with
  | some missing => throw (.incompleteCredentials scope missing)
  | none => return

/-- What stands for the registry of a service in a violation. -/
def scopeOf (s : Service) : String := "service '" ++ s.name ++ "'"

/-- The credentials of a service are complete. -/
def serviceCredentials (s : Service) : Except Violation Unit :=
  match s.registry with
  | some r => credentials (scopeOf s) r
  | none => return

/-- The credentials of all services are complete. -/
def allCredentials (d : Document) : Except Violation Unit :=
  d.services.forM fun e => serviceCredentials e.2

/-- A service has an image. -/
def image (s : Service) : Except Violation Unit :=
  if Text.isBlankText s.image then throw (.missingImage s.name) else return

/-- A volume that an entry names is declared. -/
def volume (declared : NameSet) (s : Service) (entry : String) : Except Violation Unit :=
  match VolumeSource.ofEntry entry with
  | .named name => if name ∈ declared then return else throw (.undeclaredVolume s.name name)
  | _ => return

/-- The volumes that a service names are declared. -/
def volumes (declared : NameSet) (s : Service) : Except Violation Unit :=
  s.volumes.forM (volume declared s)

/-- A service has an image and declared volumes. -/
def service (declared : NameSet) (s : Service) : Except Violation Unit := do
  image s
  volumes declared s

/-- A deployment has services, and every one has an image and declared volumes. -/
def services (d : Document) : Except Violation Unit :=
  if d.services.isEmpty then throw .emptyDeployment
  else d.services.forM fun e => service d.volumes e.2

end Deployment.Validation
