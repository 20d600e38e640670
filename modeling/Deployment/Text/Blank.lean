import Deployment.Text.CharSet

/-!
# Text/Blank — white space and trimming

White space is the Unicode property `White_Space`: the ASCII blanks, the next-line and no-break
spaces, the spaces of the general punctuation block and the ideographic space.
-/

namespace Deployment.Text

/-- The characters with the property `White_Space`. -/
def blankSet : CharSet := ⟨
  [(0x09, 0x0D), (0x20, 0x20), (0x85, 0x85), (0xA0, 0xA0), (0x1680, 0x1680), (0x2000, 0x200A),
    (0x2028, 0x2029), (0x202F, 0x202F), (0x205F, 0x205F), (0x3000, 0x3000)]⟩

/-- Whether a character is white space. -/
def isBlank (c : Char) : Bool := blankSet.contains c

/-- The characters without the white space they begin with. -/
def trimStart (cs : List Char) : List Char := cs.dropWhile isBlank

/-- The characters without the white space they end with. -/
def trimEnd (cs : List Char) : List Char := (cs.reverse.dropWhile isBlank).reverse

/-- The characters without the white space at either end. -/
def trimChars (cs : List Char) : List Char := trimEnd (trimStart cs)

/-- The text without the white space at either end. -/
def trim (s : String) : String := String.ofList (trimChars s.toList)

/-- Whether a text holds nothing but white space. -/
def isBlankText (s : String) : Bool := s.toList.all isBlank

end Deployment.Text
