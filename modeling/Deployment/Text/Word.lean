import Deployment.Text.Word.Table

/-!
# Text/Word — word characters

The names inside placeholders are made of word characters: letters, marks, decimal digits,
connector punctuation such as `_`, and the two joiners.
-/

namespace Deployment.Text

/-- Whether a character may stand in a name. -/
def isWord (c : Char) : Bool := wordSet.contains c

end Deployment.Text
