import Deployment.Binary64.Layout
import Deployment.Text.Natural

/-!
# Value/Number — the numbers of a document

A number is an integer or a double-precision number; the two kinds are never equal. The text of a
number reads back as the same number of the same kind.
-/

namespace Deployment

/-- A number as a document holds it. -/
inductive Number where
  | int (i : Int)
  | float (x : Binary64)
  deriving DecidableEq, Inhabited

namespace Number

/-- Whether two numbers are one entry as keys of a mapping. -/
def same : Number → Number → Bool
  | int i, int j => i == j
  | float x, float y => x.same y
  | _, _ => false

/-- Documents write an exponent outside `10 ^ -5` to `10 ^ 15`, and without a plus sign. -/
def layout : Binary64.Layout := ⟨-5, 15, ""⟩

/-- The text of a double-precision number. -/
def floatText (x : Binary64) : String :=
  if x.isNaN then ".nan"
  else if !x.isFinite then if x.isNegative then "-.inf" else ".inf"
  else layout.text x

/-- The text of a number. -/
def text : Number → String
  | int i => Text.intText i
  | float x => floatText x

end Number

end Deployment
