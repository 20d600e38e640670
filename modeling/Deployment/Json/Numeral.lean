import Deployment.Binary64.Basic
import Deployment.Json.Fault

/-!
# Json/Numeral — numbers of JSON text

An integer of sixty-four bits is read as it is. Any other number is made in two roundings: the
leading digits that fit sixty-four bits become a double-precision number, which is then multiplied
or divided by a power of ten.
-/

namespace Deployment.Json

/-- What is left of a text, and the count of bytes before it. -/
structure Cursor where
  rest : List Char
  offset : Nat

namespace Cursor

/-- The first character left. -/
def peek (c : Cursor) : Option Char := c.rest.head?

/-- The cursor after the first character. -/
def next (c : Cursor) : Cursor :=
  match c.rest with
  | [] => c
  | d :: rest => ⟨rest, c.offset + d.utf8Size⟩

/-- The cursor after leading ASCII characters with a property, and those characters. -/
def span (p : Char → Bool) (c : Cursor) : List Char × Cursor :=
  let taken := c.rest.takeWhile p
  (taken, ⟨c.rest.drop taken.length, c.offset + taken.length⟩)

/-- The cursor after white space. -/
def skipBlank (c : Cursor) : Cursor :=
  (c.span fun d => d == ' ' || d == '\n' || d == '\t' || d == '\r').2

/-- The offset behind the next byte, if there is one. -/
def ahead (c : Cursor) : Nat := if c.rest.isEmpty then c.offset else c.offset + 1

end Cursor

/-- A part of a text read at a cursor. -/
abbrev Part (α : Type) := Cursor → Except Fault (α × Cursor)

/-- Fail at a cursor. -/
def failAt {α : Type} (cause : Cause) (c : Cursor) : Except Fault α := throw ⟨cause, c.offset⟩

/-- Fail at the byte after a cursor. -/
def failAhead {α : Type} (cause : Cause) (c : Cursor) : Except Fault α := throw ⟨cause, c.ahead⟩

/-- The value of the leading digits that stay below a bound, after digits worth `acc`, and the
digits left. -/
def digitsBelow (bound : Nat) : Nat → List Char → Nat × List Char
  | acc, [] => (acc, [])
  | acc, d :: ds =>
    let n := acc * 10 + (d.toNat - '0'.toNat)
    if n < bound then digitsBelow bound n ds else (acc, d :: ds)

/-- A magnitude times ten to a power, in one rounding for every factor of `10 ^ 308`. -/
def scale (negative : Bool) : Nat → Binary64 → Int → Option Binary64
  | 0, x, _ => some x
  | fuel + 1, x, e =>
    let power := (Binary64.ofScientific false 1 (min e.natAbs 308)).ratio
    let (num, den) := x.ratio
    if e.natAbs ≤ 308 then
      let y := if 0 ≤ e then .ofRatio negative (num * power.1) (den * power.2)
        else .ofRatio negative (num * power.2) (den * power.1)
      if y.isFinite then some y else none
    else if x.isZero then some (.ofBits negative 0)
    else if 0 ≤ e then none
    else scale negative fuel (.ofRatio negative (num * power.2) (den * power.1)) (e + 308)

/-- The number `m · 10 ^ e`, if it is finite. Exponents below `-1300` all give zero. -/
def scientific? (negative : Bool) (m : Nat) (e : Int) : Option Binary64 :=
  scale negative 8 (.ofRatio negative m 1) (max e (-1300))

/-- A number as it is written: a significand of sixty-four bits and a power of ten. -/
structure Numeral where
  negative : Bool
  significand : Nat
  exponent : Int
  /-- Whether neither a point nor an exponent is written. -/
  integral : Bool

/-- The number that a numeral denotes, if it is finite. -/
def Numeral.number? (n : Numeral) : Option Number :=
  if n.integral && n.exponent = 0 && !n.negative then some (.int n.significand)
  else if n.integral && n.exponent = 0 && 0 < n.significand && n.significand ≤ Nat.pow 2 63 then
    some (.int (-(n.significand : Int)))
  else (scientific? n.negative n.significand n.exponent).map .float

/-- The digits before a point. Only zero begins with a zero. -/
def wholeDigits (lenient : Bool) : Part (List Char) := fun c =>
  match c.peek with
  | none => if lenient then failAt .invalidNumber c else failAt .endInValue c
  | some d =>
    let (ds, after) := c.span Char.isDigit
    if ds.isEmpty then throw ⟨.invalidNumber, c.offset + 1⟩
    else if d == '0' && 1 < ds.length then throw ⟨.invalidNumber, c.offset + 2⟩
    else return (ds, after)

/-- The digits after a point, the cursor being behind it. -/
def partDigits (lenient : Bool) : Part (List Char) := fun c =>
  let (ds, after) := c.span Char.isDigit
  if !ds.isEmpty then return (ds, after)
  else if after.rest.isEmpty && !lenient then failAt .endInValue after
  else failAhead .invalidNumber after

/-- An exponent, the cursor being behind its letter. One that does not fit thirty-two bits is out
of range if it is positive and the number is not zero. -/
def exponent (lenient isZero : Bool) : Part Int := fun c => do
  let negative := c.peek == some '-'
  let c := if negative || c.peek == some '+' then c.next else c
  let (ds, after) := c.span Char.isDigit
  if ds.isEmpty then
    if c.rest.isEmpty then failAt (if lenient then .invalidNumber else .endInValue) c
    else throw ⟨.invalidNumber, c.offset + 1⟩
  let (n, left) := digitsBelow (Nat.pow 2 31) 0 ds
  if !left.isEmpty && !lenient && !isZero && !negative then
    -- the fault is found at the first digit too many
    throw ⟨.numberOutOfRange, c.offset + (ds.length - left.length) + 1⟩
  return (if negative then -(n : Int) else n, after)

/-- A numeral after its sign. -/
def numeral (lenient negative : Bool) : Part Numeral := fun c => do
  let (whole, c) ← wholeDigits lenient c
  let (m, dropped) := digitsBelow (Nat.pow 2 64) 0 whole
  let n : Numeral := ⟨negative, m, dropped.length, true⟩
  let (n, c) ←
    if c.peek == some '.' then do
      let (part, c) ← partDigits lenient c.next
      let (m, left) := digitsBelow (Nat.pow 2 64) m part
      pure ({ n with
        significand := m
        exponent := n.exponent + left.length - part.length
        integral := false }, c)
    else pure (n, c)
  if c.peek == some 'e' || c.peek == some 'E' then
    let (e, c) ← exponent lenient (n.significand == 0) c.next
    return ({ n with exponent := n.exponent + e, integral := false }, c)
  else return (n, c)

/-- A number after its sign. A lenient reader checks the form of a number and not its range. -/
def readNumber (lenient negative : Bool) : Part Number := fun c => do
  let (n, c) ← numeral lenient negative c
  if lenient then return (.int 0, c)
  match n.number? with
  | some x => return (x, c)
  | none => failAt .numberOutOfRange c

end Deployment.Json
