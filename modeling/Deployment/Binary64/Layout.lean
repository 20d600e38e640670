import Deployment.Binary64.Shortest

/-!
# Binary64/Layout — decimals as text

The digits of a finite number are fixed by `shortest`; a layout decides where positional writing
ends and how an exponent is written.
-/

namespace Deployment.Binary64

/-- How a format writes the digits of a number. The leading digit stands for `10 ^ e`; numbers with
`least ≤ e ≤ greatest` are written positionally. -/
structure Layout where
  least : Int
  greatest : Int
  /-- What stands before a positive exponent. -/
  plus : String

/-- The digits with a point after `n` of them. -/
def pointAfter (n : Nat) (ds : List Char) : List Char := ds.take n ++ '.' :: ds.drop n

/-- The text of a magnitude `ds · 10 ^ k`, where `ds` is not empty. -/
def Layout.digits (l : Layout) (ds : List Char) (k : Int) : String :=
  let lead := k + ds.length - 1
  if l.least ≤ lead ∧ lead ≤ l.greatest then
    if 0 ≤ k then String.ofList (ds ++ List.replicate k.toNat '0' ++ ['.', '0'])
    else if 0 ≤ lead then String.ofList (pointAfter (lead.toNat + 1) ds)
    else String.ofList ('0' :: '.' :: List.replicate (-lead - 1).toNat '0' ++ ds)
  else
    let mantissa := if ds.length ≤ 1 then ds else pointAfter 1 ds
    let sign := if lead < 0 then "-" else l.plus
    String.ofList mantissa ++ "e" ++ sign ++ String.ofList (Nat.toDigits 10 lead.natAbs)

/-- The text of a finite number. -/
def Layout.text (l : Layout) (x : Binary64) : String :=
  let sign := if x.isNegative then "-" else ""
  if x.isZero then sign ++ "0.0"
  else
    let d := x.shortest
    sign ++ l.digits (Nat.toDigits 10 d.digits) d.exponent

end Deployment.Binary64
