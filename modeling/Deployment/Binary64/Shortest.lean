import Deployment.Binary64.Basic

/-!
# Binary64/Shortest — the fewest digits that read back

A finite number is written with the fewest digits among the decimals that round to it; of those
with equally few digits the one nearest to the number is taken. The decimals of `n` digits form a
grid of step `10 ^ k`, on which only the two neighbours of the number need a test: if any point of
the grid rounds to the number, one of them does.
-/

namespace Deployment.Binary64

/-- The reals that round to a number, times four and without its power of two: from `low` to
`high`, the ends included for an even significand. -/
structure Interval where
  low : Nat
  value : Nat
  high : Nat
  closed : Bool

/-- The interval of a positive finite number. Below a power of two the gap is half as wide. -/
def interval (x : Binary64) : Interval :=
  let m := x.significand
  { low := if x.fraction = 0 ∧ x.biased > 1 then 4 * m - 1 else 4 * m - 2
    value := 4 * m
    high := 4 * m + 2
    closed := m % 2 == 0 }

/-- A decimal `digits · 10 ^ exponent`. -/
structure Decimal where
  digits : Nat
  exponent : Int
  deriving DecidableEq, Inhabited

/-- The point of the grid of step `10 ^ k` that rounds to `x`, the nearer one if there are two. -/
def onGrid? (x : Binary64) (k : Int) : Option Nat :=
  let i := x.interval
  let p := x.exponent - 2
  -- a point `c` is `c * step`, and the bounds of the interval are multiples of `unit`
  let unit := Nat.pow 2 p.toNat * Nat.pow 10 (-k).toNat
  let step := Nat.pow 10 k.toNat * Nat.pow 2 (-p).toNat
  let inside (c : Nat) : Bool :=
    c ≠ 0 && if i.closed then i.low * unit ≤ c * step && c * step ≤ i.high * unit
      else i.low * unit < c * step && c * step < i.high * unit
  let below := i.value * unit / step
  let above := below + 1
  match inside below, inside above with
  | true, true =>
    let down := i.value * unit - below * step
    let up := above * step - i.value * unit
    some (if up < down ∨ (up = down ∧ below % 2 = 1) then above else below)
  | true, false => some below
  | false, true => some above
  | false, false => none

/-- The first grid with a hit, from a step of `10 ^ k` downwards through `n` finer ones. -/
def firstGrid (x : Binary64) : Nat → Int → Decimal
  | 0, k => ⟨(x.onGrid? k).getD 0, k⟩
  | n + 1, k =>
    match x.onGrid? k with
    | some c => ⟨c, k⟩
    | none => firstGrid x n (k - 1)

/-- The shortest decimal of a positive finite number. The search starts at a power of ten above
the number and needs at most seventeen digits. -/
def shortest (x : Binary64) : Decimal :=
  firstGrid x 20 (((x.significand.log2 : Int) + x.exponent) * 30103 / 100000 + 2)

end Deployment.Binary64
