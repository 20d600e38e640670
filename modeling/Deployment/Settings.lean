import Deployment.CompileError
import Deployment.Text.Blank

/-!
# Settings — what all deployments share

Settings have defaults that variables of the process override. A variable for a text is without
effect when it is blank.
-/

namespace Deployment

/-- What all deployments share. -/
structure Settings where
  /-- What names of projects and labels of endpoints begin with. -/
  projectPrefix : String := "spinforge"
  /-- The provider of certificates for a request that names none. -/
  sslProvider : String := "letsencrypt"
  /-- The greatest size of a manifest in bytes. -/
  maxManifestBytes : Nat := 100 * 1024 * 1024
  deriving DecidableEq, Inhabited

namespace Settings

/-- The variable that overrides the begin of names. -/
def prefixVariable : String := "DEPLOY_PROJECT_PREFIX"

/-- The variable that overrides the provider of certificates. -/
def providerVariable : String := "DEPLOY_SSL_PROVIDER"

/-- The variable that overrides the greatest size of a manifest. -/
def maxBytesVariable : String := "DEPLOY_MAX_MANIFEST_BYTES"

/-- The size that a text gives: a number of 64 bits between blanks. -/
def bytesOfText? (text : String) : Option Nat :=
  Text.readBelow? (Nat.pow 2 64) (Text.trimChars text.toList)

/-- The settings that variables give. -/
def ofVariables (lookup : String → Option String) : Except CompileError Settings := do
  let defaults : Settings := {}
  let text (name default : String) : String :=
    ((lookup name).filter fun v => !Text.isBlankText v).getD default
  let maxManifestBytes ← match lookup maxBytesVariable with
    | none => pure defaults.maxManifestBytes
    | some raw =>
      match bytesOfText? raw with
      | some n => pure n
      | none =>
        throw (.configuration (maxBytesVariable ++ " must be a byte count, got '" ++ raw ++ "'"))
  return {
    projectPrefix := text prefixVariable defaults.projectPrefix
    sslProvider := text providerVariable defaults.sslProvider
    maxManifestBytes }

/-- The name of the project of a domain. -/
def projectName (s : Settings) (domain : String) : String :=
  s.projectPrefix ++ "-" ++ String.ofList (domain.toList.map fun c => if c = '.' then '-' else c)

/-- The settings of a compiler with their names. -/
def describe (s : Settings) : String :=
  "DescriptorCompiler \x7b config: CompilerConfig \x7b project_prefix: " ++
    Text.quoted s.projectPrefix ++ ", default_ssl_provider: " ++ Text.quoted s.sslProvider ++
    ", max_manifest_bytes: " ++ Text.natText s.maxManifestBytes ++ " \x7d, .. \x7d"

end Settings

end Deployment
