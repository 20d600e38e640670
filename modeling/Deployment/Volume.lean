import Deployment.Text.Split

/-!
# Volume — what a service mounts
-/

namespace Deployment

/-- What stands before the colon of a mount. -/
inductive VolumeSource where
  /-- A volume that has to be declared. -/
  | named (name : String)
  /-- A directory of the host. -/
  | bind (path : String)
  /-- A mount without a source. -/
  | anonymous
  deriving DecidableEq

/-- Whether a source is a path and no name. -/
def VolumeSource.isPath (source : List Char) : Bool :=
  source.head?.any (fun c => c == '.' || c == '~') || source.contains '/'

/-- The source of a mount that is written `source:target`. -/
def VolumeSource.ofEntry (entry : String) : VolumeSource :=
  match Text.cut ':' entry with
  | none => anonymous
  | some (source, _) => if isPath source.toList then bind source else named source

end Deployment
