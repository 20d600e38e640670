/-!
# Yaml/Tag — the tags of nodes

A tag is kept as the octets of its text. Octets that are written with percent signs need not encode
a text: such a tag is local if it begins with the sign of local tags, but it has no name.
-/

namespace Deployment.Yaml

/-- A tag, as the octets of its text. -/
structure Tag where
  octets : List UInt8
  deriving DecidableEq, Inhabited

namespace Tag

/-- The tag with a text. -/
def ofText (s : String) : Tag := ⟨s.toUTF8.toList⟩

/-- The tag of octets up to a null octet. -/
def ofOctets (octets : List UInt8) : Tag := ⟨octets.takeWhile (· ≠ 0)⟩

/-- Whether a tag has no octets. -/
def isEmpty (t : Tag) : Bool := t.octets.isEmpty

instance : Append Tag := ⟨fun s t => ⟨s.octets ++ t.octets⟩⟩

/-- The lead of the core tags. -/
def coreLead : Tag := ofText "tag:yaml.org,2002:"

/-- The core tag of a kind of scalars. -/
def core (kind : String) : Tag := coreLead ++ ofText kind

/-- The sign that begins a local tag. -/
def sign : UInt8 := 0x21

/-- Whether a tag is local. -/
def isLocal (t : Tag) : Bool := t.octets.head? == some sign

/-- The text of octets without a sign in front; the sign alone is kept. -/
def bareName (octets : List UInt8) : List UInt8 :=
  match octets with
  | [] => []
  | b :: rest => if b = sign && !rest.isEmpty then rest else b :: rest

/-- The name of a local tag, without the sign that begins it and without a second one; the sign
alone is a name. -/
def name? (t : Tag) : Option String :=
  if t.isLocal then String.fromUTF8? ⟨(bareName (bareName t.octets)).toArray⟩ else none

end Tag

end Deployment.Yaml
