/-!
# Text/Natural — natural numbers in a text

Reading takes an optional plus sign and one or more digits, as many as there are: a number is
never cut or wrapped.
-/

namespace Deployment.Text

/-- The value of a digit in a base up to sixteen. -/
def digitValue? (base : Nat) (c : Char) : Option Nat :=
  let v? :=
    if '0' ≤ c ∧ c ≤ '9' then some (c.toNat - '0'.toNat)
    else if 'a' ≤ c ∧ c ≤ 'f' then some (c.toNat - 'a'.toNat + 10)
    else if 'A' ≤ c ∧ c ≤ 'F' then some (c.toNat - 'A'.toNat + 10)
    else none
  v?.filter (· < base)

/-- The number that the digits continue, the digits before them being worth `acc`. -/
def foldDigits? (base : Nat) : Nat → List Char → Option Nat
  | acc, [] => some acc
  | acc, c :: cs => (digitValue? base c).bind fun d => foldDigits? base (acc * base + d) cs

/-- The number that one or more digits denote. -/
def ofDigits? (base : Nat) : List Char → Option Nat
  | [] => none
  | cs => foldDigits? base 0 cs

/-- The number that an optional plus sign and one or more digits denote. -/
def readNat? (base : Nat) : List Char → Option Nat
  | '+' :: cs => ofDigits? base cs
  | cs => ofDigits? base cs

/-- The decimal number that a text denotes, if it is below a bound. -/
def readBelow? (bound : Nat) (cs : List Char) : Option Nat :=
  (readNat? 10 cs).filter (· < bound)

/-- The decimal text of a number. -/
def natText (n : Nat) : String := String.ofList (Nat.toDigits 10 n)

/-- The decimal text of an integer. -/
def intText (i : Int) : String :=
  if i < 0 then "-" ++ natText i.natAbs else natText i.natAbs

theorem readBelow?_lt {bound n : Nat} {cs : List Char} (h : readBelow? bound cs = some n) :
    n < bound := by
  have h' := (Option.filter_eq_some_iff.1 h).2
  simpa using h'

end Deployment.Text
