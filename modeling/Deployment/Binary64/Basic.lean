/-!
# Binary64/Basic — double-precision numbers as sixty-four bits

A finite number is `± m · 2 ^ q` with a significand `m` below `2 ^ 53` and an exponent `q` of at
least `-1074`. Every number here is made by one rounding, `ofRatio`: the nearest number to a
fraction, a tie going to the even significand.
-/

namespace Deployment

/-- A double-precision number in the interchange format: sign, eleven bits of exponent, fifty-two
bits of fraction. -/
structure Binary64 where
  bits : UInt64
  deriving DecidableEq, Inhabited

namespace Binary64

/-- The exponent field. -/
def biased (x : Binary64) : Nat := x.bits.toNat / Nat.pow 2 52 % 2048

/-- The fraction field. -/
def fraction (x : Binary64) : Nat := x.bits.toNat % Nat.pow 2 52

/-- Whether the sign bit is set. -/
def isNegative (x : Binary64) : Bool := x.bits.toNat / Nat.pow 2 63 == 1

/-- Whether a number is neither infinite nor undefined. -/
def isFinite (x : Binary64) : Bool := x.biased != 2047

/-- Whether a datum is no number. -/
def isNaN (x : Binary64) : Bool := x.biased == 2047 && x.fraction != 0

/-- Whether a number is zero, of either sign. -/
def isZero (x : Binary64) : Bool := x.bits.toNat % Nat.pow 2 63 == 0

/-- The significand `m` of a finite number `± m · 2 ^ q`. -/
def significand (x : Binary64) : Nat :=
  if x.biased = 0 then x.fraction else Nat.pow 2 52 + x.fraction

/-- The exponent `q` of a finite number `± m · 2 ^ q`. -/
def exponent (x : Binary64) : Int := (max x.biased 1 : Nat) - 1075

/-- The datum with a sign and the low sixty-three bits given. -/
def ofBits (negative : Bool) (low : Nat) : Binary64 :=
  ⟨UInt64.ofNat (low + if negative then Nat.pow 2 63 else 0)⟩

/-- The infinity of a sign. -/
def infinity (negative : Bool) : Binary64 := ofBits negative (2047 * Nat.pow 2 52)

/-- The datum that is no number. -/
def nan : Binary64 := ofBits false (2047 * Nat.pow 2 52 + Nat.pow 2 51)

/-- Equality of numbers: the two zeros are one number, and all that is no number is one datum. -/
def same (x y : Binary64) : Bool :=
  (x.isNaN && y.isNaN) || (!x.isNaN && !y.isNaN && (x == y || (x.isZero && y.isZero)))

/-- The quotient rounded to the nearest natural number, a tie going to the even one. -/
def divideEven (num den : Nat) : Nat :=
  let q := num / den
  let r := num % den
  if 2 * r > den ∨ (2 * r = den ∧ q % 2 = 1) then q + 1 else q

/-- The number nearest to `num / den`: the significand is the quotient scaled to fifty-three bits,
and what is too large for every number becomes infinite. -/
def ofRatio (negative : Bool) (num den : Nat) : Binary64 :=
  if num = 0 then ofBits negative 0
  else
    let k : Int := (num.log2 : Int) - (den.log2 : Int)
    let reaches : Bool := den * Nat.pow 2 k.toNat ≤ num * Nat.pow 2 (-k).toNat
    let q := max ((if reaches then k else k - 1) - 52) (-1074)
    let m := divideEven (num * Nat.pow 2 (-q).toNat) (den * Nat.pow 2 q.toNat)
    let low := (q + 1074).toNat * Nat.pow 2 52 + m
    if low ≥ 2047 * Nat.pow 2 52 then infinity negative else ofBits negative low

/-- The magnitude of a finite number as a fraction. -/
def ratio (x : Binary64) : Nat × Nat :=
  (x.significand * Nat.pow 2 x.exponent.toNat, Nat.pow 2 (-x.exponent).toNat)

/-- The number nearest to `m · 10 ^ e`. Exponents beyond the range of all numbers are not computed
with: the answer is infinite or zero. -/
def ofScientific (negative : Bool) (m : Nat) (e : Int) : Binary64 :=
  let digits : Int := (Nat.toDigits 10 m).length
  if m = 0 ∨ e + digits < -330 then ofBits negative 0
  else if e + digits > 320 then infinity negative
  else ofRatio negative (m * Nat.pow 10 e.toNat) (Nat.pow 10 (-e).toNat)

end Binary64

end Deployment
