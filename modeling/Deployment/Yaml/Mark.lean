import Deployment.Text.Natural

/-!
# Yaml/Mark — positions in a text

A mark counts bytes, lines and columns from zero; a column is a character. Messages count lines
and columns from one, and leave out the mark of the first character.
-/

namespace Deployment.Yaml

/-- A position: bytes before it, line breaks before it, characters before it on its line. -/
structure Mark where
  index : Nat := 0
  line : Nat := 0
  column : Nat := 0
  deriving DecidableEq, Inhabited

namespace Mark

/-- Whether a mark is that of the first character. -/
def isOrigin (m : Mark) : Bool := m.line == 0 && m.column == 0

/-- Whether two marks stand on the same line and column. -/
def samePlace (m n : Mark) : Bool := m.line == n.line && m.column == n.column

/-- The line and column of a mark, counted from one. -/
def text (m : Mark) : String :=
  "line " ++ Text.natText (m.line + 1) ++ " column " ++ Text.natText (m.column + 1)

/-- A mark as the end of a message; that of the first character is left out. -/
def suffix (m : Mark) : String := if m.isOrigin then "" else " at " ++ m.text

end Mark

end Deployment.Yaml
