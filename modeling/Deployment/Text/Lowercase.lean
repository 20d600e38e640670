import Deployment.Text.Lowercase.Table

/-!
# Text/Lowercase — lower case

Full lower case after the Unicode standard: one character may become two (`İ`), and a capital
sigma becomes `ς` at the end of a word and `σ` elsewhere. `asciiLower` maps the letters of ASCII
only.
-/

namespace Deployment.Text

/-- The lower-case form of a letter of ASCII, and any other character as it is. -/
def asciiLower (s : String) : String := String.ofList (s.toList.map Char.toLower)

/-- The upper-case form of a letter of ASCII, and any other character as it is. -/
def asciiUpper (s : String) : String := String.ofList (s.toList.map Char.toUpper)

/-- The lower-case form of one character, without regard to its neighbours. -/
def lowerChar (c : Char) : List Char :=
  if c = 'İ' then ['i', '\u0307']
  else
    let n := c.toNat
    match lowercaseRuns.find? fun (lo, hi, step, _) => lo ≤ n && n ≤ hi && (n - lo) % step == 0 with
    | some (_, _, _, shift) => [Char.ofNat (n + shift).toNat]
    | none => [c]

/-- Whether the first character that does not depend on its neighbours has case. -/
def beginsCased (cs : List Char) : Bool :=
  match cs.dropWhile caseIgnorableSet.contains with
  | c :: _ => casedSet.contains c
  | [] => false

/-- The lower-case form of a text that follows `before`, which is given backwards. -/
def lowerFrom (before : List Char) : List Char → List Char
  | [] => []
  | c :: cs =>
    let lowered :=
      if c = 'Σ' then [if beginsCased before && !beginsCased cs then 'ς' else 'σ']
      else lowerChar c
    lowered ++ lowerFrom (c :: before) cs

/-- The lower-case form of a text. -/
def lower (s : String) : String := String.ofList (lowerFrom [] s.toList)

end Deployment.Text
