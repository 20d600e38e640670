import Deployment.Hostname

/-!
# Hostname/Fragment — the label of one service under a domain

A fragment is a lower-case label that stands in front of a root domain. Two fragments are reserved:
they address the root domain itself.
-/

namespace Deployment

/-- The label of a service. Fragments come from `Fragment.ofString`. -/
structure Fragment where
  text : String
  deriving DecidableEq, Inhabited

namespace Fragment

/-- Whether a character may stand in a fragment. -/
def isFragmentChar (c : Char) : Bool := c.isLower || c.isDigit || c == '-'

/-- The fragment that a text is after trimming it and writing it in lower case. -/
def ofString (raw : String) : Except HostnameError Fragment := do
  let text := Text.lower (Text.trim raw)
  if text.isEmpty then throw .empty
  if let some c := text.toList.find? fun c => !isFragmentChar c then throw (.invalidCharacter c)
  Hostname.checkLabel text.toList
  return ⟨text⟩

/-- The fragments that address the root domain. -/
def reserved : List String := ["main", "app"]

/-- Whether a fragment addresses the root domain. -/
def isRoot (f : Fragment) : Bool := reserved.contains f.text

end Fragment

/-- The name that a fragment has under a domain. -/
def Hostname.withFragment (h : Hostname) (f : Fragment) : Except HostnameError Hostname :=
  ofString (f.text ++ "." ++ h.text)

end Deployment
