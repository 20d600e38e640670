import Deployment.Yaml.Cursor
import Deployment.Yaml.Scalar

/-!
# Yaml/Style — how a string is written

A string is written plainly where that reads back as the same string. Single quotes serve for
strings that would read as something else, literal blocks for several lines, and double quotes for
what neither can hold.
-/

namespace Deployment.Yaml

/-- Whether a character is written as it is; others need double quotes. -/
def isWritable (c : Char) : Bool :=
  c == '\n' || (0x20 ≤ c.toNat && c.toNat ≤ 0x7E) ||
    (0xA0 ≤ c.toNat && c.toNat ≤ 0xFFFD && c != '\ufeff') || 0x10000 ≤ c.toNat

/-- Whether an indicator somewhere after the first character ends a plain scalar or begins a
comment; `blank` says whether white space stands before. -/
def hasInnerIndicator : Bool → List Char → Bool
  | _, [] => false
  | blank, c :: cs =>
    (c == ':' && isBlankOrEnd cs.head?) || (c == '#' && blank) ||
      hasInnerIndicator (isBreak c || isGap c) cs

/-- Whether a plain scalar cannot begin or go on as a text does. -/
def hasIndicator (cs : List Char) : Bool :=
  cs.take 3 == ['-', '-', '-'] || cs.take 3 == ['.', '.', '.'] ||
    match cs with
    | [] => false
    | c :: rest =>
      "#,[]\x7b\x7d&*!|>'\"%@\x60".toList.contains c ||
        ("?:-".toList.contains c && isBlankOrEnd rest.head?) ||
        hasInnerIndicator (isBreak c || isGap c) rest

/-- Whether somewhere a character of one kind is followed by one of another. -/
def hasPair (p q : Char → Bool) : List Char → Bool
  | c :: d :: cs => (p c && q d) || hasPair p q (d :: cs)
  | _ => false

/-- What a text allows of its styles. -/
structure Shape where
  multiline : Bool
  plain : Bool
  singleQuoted : Bool
  block : Bool

/-- The styles that a text allows. -/
def shape (cs : List Char) : Shape :=
  let isSpace (c : Char) : Bool := c == ' '
  let special := cs.any fun c => !isWritable c
  let breakSpace := hasPair isBreak isSpace cs
  let spaceBreak := hasPair isSpace isBreak cs
  let multiline := cs.any isBreak
  let padded := cs.head?.any isSpace || cs.getLast?.any isSpace
  { multiline
    plain := !(special || multiline || padded || hasIndicator cs)
    singleQuoted := !(special || breakSpace || spaceBreak)
    block := !cs.isEmpty && !(special || spaceBreak || cs.getLast?.any isSpace) }

/-- Whether a text without quotes would not read as the string that it is, or not everywhere. -/
def isAmbiguous (s : String) : Bool :=
  isZeroPadded s.toList ||
    match plainValue s with
    | .ok (.string _) => false
    | _ => true

/-- The style of a string. -/
def styleOf (s : String) : Style :=
  let cs := s.toList
  let shape := shape cs
  let quoted := if shape.singleQuoted then .singleQuoted else .doubleQuoted
  if cs.contains '\n' then if shape.block then .literal else .doubleQuoted
  else if isAmbiguous s then quoted
  else if shape.plain then .plain
  else quoted

end Deployment.Yaml
