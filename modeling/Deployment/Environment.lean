import Deployment.Text.Lowercase
import Deployment.Text.Quoted
import Deployment.Text.Split
import Deployment.TextMap

/-!
# Environment — the variables of a service

Every variable has one value; the variables keep the order in which they were first set. Some keys
tell that their values are credentials, which a description of the environment does not show.
-/

namespace Deployment

/-- What in a key marks a credential. -/
def credentialMarks : List String := ["PASSWORD", "SECRET", "TOKEN", "PASSWD"]

/-- Whether the value under a key is a credential. -/
def isCredentialKey (key : String) : Bool :=
  let upper := (Text.asciiUpper key).toList
  (credentialMarks.any fun mark => Text.occursIn mark.toList upper) ||
    "_KEY".toList.isSuffixOf upper

/-- What stands for a credential in a description. -/
def concealed : String := "***"

/-- Variables with their values. -/
abbrev Environment := TextMap

/-- The variables between braces, credentials concealed. -/
def Environment.describe (e : Environment) : String :=
  let entry := fun (key, value) =>
    Text.quoted key ++ ": " ++ Text.quoted (if isCredentialKey key then concealed else value)
  "\x7b" ++ ", ".intercalate (e.entries.map entry) ++ "\x7d"

end Deployment
