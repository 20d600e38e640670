import Deployment.Json.Basic

/-!
# Json/Writing — JSON text

A value is written on one line without spaces, or with a line for every member and item and two
spaces for a level. A number that is not finite is written as null.
-/

namespace Deployment.Json

/-- Numbers have a positional form from `10 ^ -5` to `10 ^ 15`; other exponents have a sign. -/
def layout : Binary64.Layout := ⟨-5, 15, "+"⟩

/-- The text of a number. -/
def numberText : Number → String
  | .int i => Text.intText i
  | .float x => if x.isFinite then layout.text x else "null"

/-- The form of a character inside quotes. -/
def escape (c : Char) : List Char :=
  match c with
  | '"' => ['\\', '"']
  | '\\' => ['\\', '\\']
  | '\x08' => ['\\', 'b']
  | '\x0c' => ['\\', 'f']
  | '\n' => ['\\', 'n']
  | '\r' => ['\\', 'r']
  | '\t' => ['\\', 't']
  | c =>
    if c.toNat < 0x20 then
      ['\\', 'u', '0', '0', Nat.digitChar (c.toNat / 16), Nat.digitChar (c.toNat % 16)]
    else [c]

/-- The text of a string. -/
def stringText (s : String) : String :=
  String.ofList ('"' :: s.toList.flatMap escape ++ ['"'])

mutual

/-- The text of a value on one line. -/
def compact : Json → String
  | null => "null"
  | bool b => if b then "true" else "false"
  | number n => numberText n
  | string s => stringText s
  | array items => "[" ++ ",".intercalate (compactItems items) ++ "]"
  | object members => "\x7b" ++ ",".intercalate (compactMembers members) ++ "\x7d"

/-- The texts of items on one line. -/
def compactItems : List Json → List String
  | [] => []
  | j :: js => compact j :: compactItems js

/-- The texts of members on one line. -/
def compactMembers : List (String × Json) → List String
  | [] => []
  | (k, j) :: ms => (stringText k ++ ":" ++ compact j) :: compactMembers ms

end

/-- The begin of a line at a level. -/
def margin (level : Nat) : String := String.ofList ('\n' :: List.replicate (2 * level) ' ')

/-- Parts on lines of their own, between brackets at a level. -/
def lines (opening closing : String) (level : Nat) (parts : List String) : String :=
  if parts.isEmpty then opening ++ closing
  else
    let inner := margin (level + 1)
    opening ++ inner ++ ("," ++ inner).intercalate parts ++ margin level ++ closing

mutual

/-- The text of a value at a level, on lines. -/
def prettyAt (level : Nat) : Json → String
  | array items => lines "[" "]" level (prettyItems (level + 1) items)
  | object members => lines "\x7b" "\x7d" level (prettyMembers (level + 1) members)
  | null => "null"
  | bool b => if b then "true" else "false"
  | number n => numberText n
  | string s => stringText s

/-- The texts of items at a level. -/
def prettyItems (level : Nat) : List Json → List String
  | [] => []
  | j :: js => prettyAt level j :: prettyItems level js

/-- The texts of members at a level. -/
def prettyMembers (level : Nat) : List (String × Json) → List String
  | [] => []
  | (k, j) :: ms => (stringText k ++ ": " ++ prettyAt level j) :: prettyMembers level ms

end

/-- The text of a value on lines. -/
def pretty (j : Json) : String := prettyAt 0 j

end Deployment.Json
