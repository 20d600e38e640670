import Deployment.Yaml.Cursor

/-!
# Yaml/Token/Folding — white space inside a scalar of several lines

Between two words of a scalar there are either gaps on one line, which are kept, or line breaks.
One line feed alone becomes a space; further breaks after it are kept and the first is not.
-/

namespace Deployment.Yaml

/-- The white space read since the last word of a scalar. -/
structure Spacing where
  /-- Gaps before any line break. -/
  gaps : List Char := []
  /-- The first line break. -/
  first : List Char := []
  /-- The line breaks after the first. -/
  further : List Char := []
  /-- Whether a line break was read. -/
  broken : Bool := false

namespace Spacing

/-- Spacing with one more gap; a gap that begins a line is no part of the scalar. -/
def addGap (s : Spacing) (c : Char) : Spacing :=
  if s.broken then s else { s with gaps := s.gaps ++ [c] }

/-- Spacing with one more line break, which undoes the gaps before the first. -/
def addBreak (s : Spacing) (b : List Char) : Spacing :=
  if s.broken then { s with further := s.further ++ b }
  else { gaps := [], first := b, further := s.further, broken := true }

/-- What the spacing leaves in the text of the scalar. -/
def text (s : Spacing) : List Char :=
  if s.broken then
    if s.first.head? == some '\n' then if s.further.isEmpty then [' '] else s.further
    else s.first ++ s.further
  else s.gaps

end Spacing

end Deployment.Yaml
