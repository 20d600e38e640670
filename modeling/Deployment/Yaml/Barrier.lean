import Deployment.Yaml.Fault

/-!
# Yaml/Barrier — characters that no text may hold

A text is checked a part at a time: the part that holds a character is checked as a whole when the
character is looked at. So a character that no text may hold is found early in the part that it
lies in, and not before what is read of the parts in front.
-/

namespace Deployment.Yaml

/-- Whether a text may hold a character: all but controls, surrogates and the last two of the
basic plane. -/
def isTextChar (c : Char) : Bool :=
  c == '\t' || c == '\n' || c == '\r' || c == '\x85' || (0x20 ≤ c.toNat && c.toNat ≤ 0x7E) ||
    (0xA0 ≤ c.toNat && c.toNat ≤ 0xFFFD) || 0x10000 ≤ c.toNat

/-- A character that no text may hold, and the part that it lies in, as counts of bytes. -/
structure Barrier where
  /-- Where the part begins. -/
  start : Nat
  /-- Where the character stands. -/
  offset : Nat
  deriving DecidableEq

namespace Barrier

/-- The greatest number of bytes in a part. -/
def partLength : Nat := 16384

/-- The first barrier in the rest of a text, given where the current part and the rest begin. A part
ends before the first character that does not fit into it. -/
def next? : Nat → Nat → List Char → Option Barrier
  | _, _, [] => none
  | start, offset, c :: cs =>
    let start := if start + partLength < offset + c.utf8Size then offset else start
    if isTextChar c then next? start (offset + c.utf8Size) cs else some ⟨start, offset⟩

/-- The first barrier in a text. -/
def first? (cs : List Char) : Option Barrier := next? 0 0 cs

end Barrier

end Deployment.Yaml
