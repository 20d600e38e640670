import Deployment.Text.Quoted

/-!
# Violation — rules that a deployment breaks

A violation names the rule and what broke it, and never the value of a credential.
-/

namespace Deployment

/-- A rule that a deployment breaks. -/
inductive Violation where
  | invalidDomain (domain reason : String)
  | invalidAlias (name reason : String)
  | aliasIsDomain (name : String)
  | duplicateAlias (name : String)
  | missingCustomer
  | incompleteCredentials (scope missing : String)
  | emptyDeployment
  | duplicateService (name : String)
  | missingImage (service : String)
  | undeclaredVolume (service volume : String)
  | invalidSubdomain (service fragment : String)
  /-- Two services that would both stand on the root domain. -/
  | rootConflict (owner claimant : String)
  | fragmentTaken (fragment : String)
  | missingVariable (name : String)
  | invalidType (name expected : String)
  | duplicateKey (key : String)
  | unresolvedToken (token : String)
  | unknownArchetype (id : String)
  | unsupportedDatabase (archetype engine : String)
  deriving DecidableEq

/-- The wording of a violation. -/
def Violation.message : Violation → String
  | invalidDomain domain reason => "Invalid domain '" ++ domain ++ "': " ++ reason
  | invalidAlias name reason => "Invalid alias '" ++ name ++ "': " ++ reason
  | aliasIsDomain name => "Alias '" ++ name ++ "' duplicates the root domain"
  | duplicateAlias name => "Alias '" ++ name ++ "' is listed more than once"
  | missingCustomer => "Customer ID is required"
  | incompleteCredentials scope missing =>
    "Incomplete registry credentials for " ++ scope ++ ": missing " ++ missing
  | emptyDeployment => "Deployment contains no services"
  | duplicateService name => "Service '" ++ name ++ "' is defined more than once"
  | missingImage service => "Service '" ++ service ++ "' has no image"
  | undeclaredVolume service volume =>
    "Service '" ++ service ++ "' mounts undeclared volume '" ++ volume ++ "'"
  | invalidSubdomain service fragment =>
    "Service '" ++ service ++ "' has invalid subdomain '" ++ fragment ++ "'"
  | rootConflict owner claimant =>
    "Services [" ++ Text.quoted owner ++ ", " ++ Text.quoted claimant ++
      "] all resolve to the root domain"
  | fragmentTaken fragment => "Subdomain '" ++ fragment ++ "' is assigned to more than one service"
  | missingVariable name => "Missing required variable '" ++ name ++ "'"
  | invalidType name expected => "Variable '" ++ name ++ "' must be a " ++ expected
  | duplicateKey key => "Template key '" ++ key ++ "' renders to a key that already exists"
  | unresolvedToken token => "Unresolved template token '" ++ token ++ "'"
  | unknownArchetype id => "Unknown archetype '" ++ id ++ "'"
  | unsupportedDatabase archetype engine =>
    "Archetype '" ++ archetype ++ "' does not support database '" ++ engine ++ "'"

end Deployment
