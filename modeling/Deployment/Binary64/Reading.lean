import Deployment.Binary64.Basic
import Deployment.Text.Natural

/-!
# Binary64/Reading — numbers from decimal text

A decimal is an optional sign, digits with an optional point among or around them, and an optional
exponent. The number read is the nearest one.
-/

namespace Deployment.Binary64

/-- The leading digits of a text, and what follows them. -/
def spanDigits (cs : List Char) : List Char × List Char := cs.span Char.isDigit

/-- The exponent that follows a mantissa, if the rest of the text is one or is empty. -/
def exponent? : List Char → Option Int
  | [] => some 0
  | c :: cs =>
    if c = 'e' ∨ c = 'E' then
      match cs with
      | '-' :: ds => (Text.ofDigits? 10 ds).map fun n => -(n : Int)
      | ds => (Text.readNat? 10 ds).map Int.ofNat
    else none

/-- The number that a decimal without a sign denotes. -/
def unsigned? (negative : Bool) (cs : List Char) : Option Binary64 :=
  let (whole, rest) := spanDigits cs
  let (part, rest) := match rest with
    | '.' :: rest => spanDigits rest
    | _ => ([], rest)
  (exponent? rest).bind fun e =>
    (Text.ofDigits? 10 (whole ++ part)).map fun m => ofScientific negative m (e - part.length)

/-- The number that a decimal denotes, if the text is one and the number is finite. -/
def read? (cs : List Char) : Option Binary64 :=
  let x? := match cs with
    | '-' :: ds => unsigned? true ds
    | '+' :: ds => unsigned? false ds
    | ds => unsigned? false ds
  x?.filter isFinite

end Deployment.Binary64
