import Deployment.Hostname.Fragment
import Deployment.Registry
import Deployment.Value.Basic

/-!
# Service — one container of a deployment

A service has an image, the ports that its container listens on, variables, mounts and the labels
and other keys that only the host system looks at. Its fragment and host name are set when the
services of a document are routed.
-/

namespace Deployment

/-- One container service. -/
structure Service where
  name : String
  image : String
  ports : List Nat := []
  environment : Environment := {}
  volumes : List String := []
  /-- The fragment asked for, or the one that the service was routed under. -/
  subdomain : Option String := none
  hostname : Option Hostname := none
  registry : Option Registry := none
  /-- The keys of a manifest that have no meaning here. -/
  extra : List (Value × Value) := []
  deriving Inhabited

namespace Service

/-- The image of a service that is built where it runs. -/
def customBuild : String := "custom-build"

/-- The label that asks for a fragment. -/
def subdomainLabel : String := "spinforge.subdomain"

/-- The label that says which port is routed. -/
def portLabel : String := "spinforge.port"

/-- Whether a service is built where it runs. -/
def isCustomBuild (s : Service) : Bool := s.image == customBuild

/-- The text of a label's value. -/
def labelText? : Value → Option String
  | .string s => some s
  | .number n => some n.text
  | .bool b => some (if b then "true" else "false")
  | _ => none

/-- The text after the sign of the first label `key=text` in a list. -/
def listedLabel? (key : String) (entries : List Value) : Option String :=
  entries.findSome? fun entry => do
    let (k, text) ← Text.cut '=' (← entry.asString?)
    if Text.trim k = key then some text else none

/-- The text of a label, from a mapping of labels or a list of them. -/
def label? (s : Service) (key : String) : Option String := do
  match ← Value.lookup "labels" s.extra with
  | .mapping labels => (Value.lookup key labels).bind labelText?
  | .sequence entries => listedLabel? key entries
  | _ => none

/-- The port that a text names: a decimal number from 1 to 65535. -/
def portOfText? (cs : List Char) : Option Nat := (Text.readBelow? (Nat.pow 2 16) cs).filter (· ≠ 0)

/-- The port that a label names. -/
def labelPort? (s : Service) : Option Nat :=
  (s.label? portLabel).bind fun text => portOfText? (Text.trimChars text.toList)

/-- The fragment of a service that asks for none. -/
def defaultFragment (s : Service) : String := Text.lower s.name

/-- The service under a fragment and a host name. -/
def routed (s : Service) (f : Fragment) (h : Hostname) : Service :=
  { s with subdomain := some f.text, hostname := some h }

/-- The service with another key. -/
def withExtra (s : Service) (key : String) (v : Value) : Service :=
  { s with extra := Entries.insert Value.same (.string key) v s.extra }

end Service

end Deployment
