import Deployment.Environment

/-!
# Registry — credentials for private images
-/

namespace Deployment

/-- Access to a registry. User name and password are of use only together. -/
structure Registry where
  url : Option String := none
  username : Option String := none
  password : Option String := none
  deriving DecidableEq, Inhabited

namespace Registry

/-- Whether a text is there and not empty. -/
def isGiven (s? : Option String) : Bool := s?.any fun s => !s.isEmpty

/-- The half of the pair that is missing, if one half is there. -/
def missing? (r : Registry) : Option String :=
  match isGiven r.username, isGiven r.password with
  | true, false => some "password"
  | false, true => some "username"
  | _, _ => none

/-- The description of a text that may be missing. -/
def describeText : Option String → String
  | some s => "Some(" ++ Text.quoted s ++ ")"
  | none => "None"

/-- The fields of the credentials, the password concealed. -/
def describe (r : Registry) : String :=
  "RegistryCredentials \x7b url: " ++ describeText r.url ++ ", username: " ++
    describeText r.username ++ ", password: " ++
    describeText (r.password.map fun _ => concealed) ++ " \x7d"

end Registry

end Deployment
