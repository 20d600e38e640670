import Deployment.Text.Blank
import Deployment.Text.Lowercase
import Deployment.Text.Natural
import Deployment.Text.Split

/-!
# Hostname — names of hosts

A host name is a list of labels with dots between them. A label has 1 to 63 letters, digits and
hyphens of ASCII, no hyphen at either end, and the last label is not all digits; the whole name has
253 bytes at most. `Hostname.ofString` checks the rules and keeps the text as it is.
-/

namespace Deployment

/-- Why a text is no host name. -/
inductive HostnameError where
  | empty
  | tooLong (bytes : Nat)
  | labelTooLong (label : String)
  | invalidCharacter (c : Char)
  | edgeHyphen (label : String)
  | numericTop (label : String)
  deriving DecidableEq

/-- The wording of an error. -/
def HostnameError.message : HostnameError → String
  | empty => "Hostname is empty"
  | tooLong bytes => "Hostname exceeds maximum length of 253 characters: " ++ Text.natText bytes
  | labelTooLong label => "Label exceeds maximum length of 63 characters: " ++ label
  | invalidCharacter c => "Invalid character in hostname: " ++ c.toString
  | edgeHyphen label => "Label cannot start or end with hyphen: " ++ label
  | numericTop label => "Top-level label cannot be all numeric: " ++ label

/-- A host name. Names that were checked come from `Hostname.ofString`; a name that was read from a
stored descriptor is taken as it is. -/
structure Hostname where
  text : String
  deriving DecidableEq, Inhabited

namespace Hostname

/-- The greatest number of bytes in a name. -/
def maxBytes : Nat := 253

/-- The greatest number of bytes in a label. -/
def maxLabelBytes : Nat := 63

/-- Whether a character may stand in a label. -/
def isLabelChar (c : Char) : Bool := c.isAlphanum || c == '-'

/-- Whether a label begins or ends with a hyphen. -/
def hasEdgeHyphen (label : List Char) : Bool :=
  label.head? == some '-' || label.getLast? == some '-'

/-- Check a label: its length, then its characters, then its ends. -/
def checkLabel (label : List Char) : Except HostnameError Unit :=
  let text := String.ofList label
  if label.isEmpty then throw .empty
  else if maxLabelBytes < text.utf8ByteSize then throw (.labelTooLong text)
  else match label.find? fun c => !isLabelChar c with
    | some c => throw (.invalidCharacter c)
    | none => if hasEdgeHyphen label then throw (.edgeHyphen text) else pure ()

/-- Check labels from left to right. -/
def checkLabels : List (List Char) → Except HostnameError Unit
  | [] => pure ()
  | label :: labels => do
    checkLabel label
    checkLabels labels

/-- The labels of a name. -/
def labels (s : String) : List (List Char) := Text.splitOn '.' s.toList

/-- The host name that a text is. -/
def ofString (s : String) : Except HostnameError Hostname := do
  if s.isEmpty then throw .empty
  if maxBytes < s.utf8ByteSize then throw (.tooLong s.utf8ByteSize)
  checkLabels (labels s)
  let top := (labels s).getLastD []
  if top.all Char.isDigit then throw (.numericTop (String.ofList top))
  return ⟨s⟩

/-- The host name that a text is after trimming it and writing it in lower case. -/
def canonical (s : String) : Except HostnameError Hostname :=
  ofString (Text.asciiLower (Text.trim s))

end Hostname

end Deployment
