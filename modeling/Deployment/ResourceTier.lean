import Deployment.Text.Blank
import Deployment.Text.Lowercase

/-!
# ResourceTier — sizes of deployments

The size that was chosen for a deployment is recorded in its descriptor; the host system applies it.
-/

namespace Deployment

/-- The size of a deployment. -/
inductive ResourceTier where
  | small
  | medium
  | large
  | xlarge
  deriving DecidableEq, Inhabited

namespace ResourceTier

/-- All sizes. -/
def all : List ResourceTier := [small, medium, large, xlarge]

/-- The name of a size. -/
def name : ResourceTier → String
  | small => "small"
  | medium => "medium"
  | large => "large"
  | xlarge => "xlarge"

/-- The other name of a size. -/
def plan : ResourceTier → String
  | small => "starter"
  | medium => "standard"
  | large => "performance"
  | xlarge => "enterprise"

/-- Half processors. -/
def halfCpus : ResourceTier → Nat
  | small => 1
  | medium => 2
  | large => 4
  | xlarge => 8

/-- Memory in MiB. -/
def memory : ResourceTier → Nat
  | small => 512
  | medium => 1024
  | large => 2048
  | xlarge => 4096

/-- The size that a text names, without regard to case and blanks around it. -/
def ofText (text : String) : Except String ResourceTier :=
  let word := Text.asciiLower (Text.trim text)
  match all.find? fun t => t.name == word || t.plan == word with
  | some t => return t
  | none => throw ("unknown resource tier '" ++ word ++ "'")

end ResourceTier

end Deployment
