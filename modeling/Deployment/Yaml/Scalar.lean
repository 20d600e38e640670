import Deployment.Binary64.Reading
import Deployment.Yaml.Fault
import Deployment.Yaml.Token

/-!
# Yaml/Scalar — what the text of a scalar denotes

A plain scalar denotes null, a truth value or a number if its text is one of theirs, and itself
otherwise; a quoted or block scalar denotes its text. A core tag asks for one of the four kinds, a
local tag is kept with the value.
-/

namespace Deployment.Yaml

/-- Whether a text denotes null. -/
def isNullText (s : String) : Bool := s == "null" || s == "Null" || s == "NULL" || s == "~"

/-- The truth value that a text denotes. -/
def boolOfText? (s : String) : Option Bool :=
  if s == "true" || s == "True" || s == "TRUE" then some true
  else if s == "false" || s == "False" || s == "FALSE" then some false
  else none

/-- Digits after a leading zero, with or without a sign: a text that is no number. -/
def isZeroPadded (cs : List Char) : Bool :=
  let body := match cs with
    | '+' :: rest => rest
    | '-' :: rest => rest
    | _ => cs
  match body with
  | '0' :: d :: rest => (d :: rest).all Char.isDigit
  | _ => false

/-- The number after a sign that begins a base, in that base. -/
def inBase? : List Char → Option Nat
  | '0' :: 'x' :: ds => Text.ofDigits? 16 ds
  | '0' :: 'o' :: ds => Text.ofDigits? 8 ds
  | '0' :: 'b' :: ds => Text.ofDigits? 2 ds
  | _ => none

/-- The integer without a sign that a text denotes. -/
def natOfText? (cs : List Char) : Option Nat :=
  (inBase? cs).or (Text.ofDigits? 10 cs)

/-- The integer that a text denotes, however large. -/
def intOfText? (cs : List Char) : Option Int :=
  if isZeroPadded cs then none
  else match cs with
    | '-' :: ds => (natOfText? ds).map fun n => -(n : Int)
    | '+' :: ds => (natOfText? ds).map Int.ofNat
    | ds => (natOfText? ds).map Int.ofNat

/-- The integer that a text denotes. One of more than sixty-four bits is a flaw, one of more than a
hundred and twenty-eight is none. -/
def integer? (cs : List Char) : Except Flaw (Option Int) :=
  match intOfText? cs with
  | none => pure none
  | some i =>
    if -(Nat.pow 2 63 : Int) ≤ i ∧ i < Nat.pow 2 64 then pure (some i)
    else if -(Nat.pow 2 127 : Int) ≤ i ∧ i < Nat.pow 2 128 then throw (.wideInteger i)
    else pure none

/-- Whether a character is the sign of a number. -/
def isSign (c : Char) : Bool := c == '+' || c == '-'

/-- The double-precision number that a text denotes. -/
def float? (cs : List Char) : Option Binary64 :=
  let unsigned := match cs with
    | '+' :: rest => rest
    | _ => cs
  let text := String.ofList unsigned
  if text == ".inf" || text == ".Inf" || text == ".INF" then some (.infinity false)
  else if text == "-.inf" || text == "-.Inf" || text == "-.INF" then
    if unsigned.length = cs.length then some (.infinity true) else none
  else if text == ".nan" || text == ".NaN" || text == ".NAN" then
    if unsigned.length = cs.length then some .nan else none
  else if unsigned.length ≠ cs.length && unsigned.head?.any isSign then none
  else Binary64.read? unsigned

/-- What a plain scalar denotes. -/
def plainValue (s : String) : Except Flaw Value := do
  let cs := s.toList
  if cs.isEmpty || isNullText s then return .null
  if let some b := boolOfText? s then return .bool b
  if let some i ← integer? cs then return .number (.int i)
  if !isZeroPadded cs then
    if let some x := float? cs then return .number (.float x)
  return .string s

/-- What a scalar without a tag denotes. -/
def untaggedValue (text : String) (style : Style) : Except Flaw Value :=
  if style = .plain then plainValue text else pure (.string text)

/-- What a scalar denotes. A local tag without a name leaves it what it is without a tag. -/
def scalarValue (tag : Option Tag) (text : String) (style : Style) : Except Flaw Value := do
  match tag with
  | none => untaggedValue text style
  | some tag =>
    if let some name := tag.name? then return .tagged name (← untaggedValue text style)
    if tag.isLocal then return ← untaggedValue text style
    if tag == .core "bool" then
      let some b := boolOfText? text | throw (.unsuited text "a boolean")
      return .bool b
    if tag == .core "int" then
      let some i ← integer? text.toList | throw (.unsuited text "an integer")
      return .number (.int i)
    if tag == .core "float" then
      let some x := float? text.toList | throw (.unsuited text "a float")
      return .number (.float x)
    if tag == .core "null" then
      if isNullText text then return .null
      throw (.unsuited text "null")
    return .string text

end Deployment.Yaml
