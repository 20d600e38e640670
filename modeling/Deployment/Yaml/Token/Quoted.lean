import Deployment.Yaml.Token
import Deployment.Yaml.Token.Folding

/-!
# Yaml/Token/Quoted — quoted scalars

Between single quotes a quote is written twice; between double quotes a backslash begins an escape
or joins two lines.
-/

namespace Deployment.Yaml.Scan

/-- The character that a one-letter escape stands for. -/
def namedEscape? (c : Char) : Option Char :=
  match c with
  | '0' => some '\x00'
  | 'a' => some '\x07'
  | 'b' => some '\x08'
  | 't' => some '\t'
  | '\t' => some '\t'
  | 'n' => some '\n'
  | 'v' => some '\x0b'
  | 'f' => some '\x0c'
  | 'r' => some '\r'
  | 'e' => some '\x1b'
  | ' ' => some ' '
  | '"' => some '"'
  | '/' => some '/'
  | '\\' => some '\\'
  | 'N' => some '\x85'
  | '_' => some '\xa0'
  | 'L' => some '\u2028'
  | 'P' => some '\u2029'
  | _ => none

/-- The hexadecimal digits that follow a letter of an escape. -/
def escapeLength? (c : Char) : Option Nat :=
  match c with
  | 'x' => some 2
  | 'u' => some 4
  | 'U' => some 8
  | _ => none

/-- The character that an escape stands for, the cursor being at its backslash. -/
def escape (start : Mark) : Scan Char := do
  let letter := (← get).at? 1
  match letter.bind namedEscape? with
  | some c =>
    move (·.skip 2)
    return c
  | none =>
    let some n := letter.bind escapeLength? | fail .quotedEscape start .unknownEscape
    move (·.skip 2)
    look n
    let digits := (← get).rest.take n
    let code? := if digits.length = n then Text.ofDigits? 16 digits else none
    let some code := code? | fail .quotedEscape start .expectedHexadecimal
    if code.isValidChar then
      move (·.skip n)
      return Char.ofNat code
    else fail .quotedEscape start .invalidCodePoint

/-- The characters up to the next gap, line break or closing quote, and whether the line is joined
with the next one. -/
def quotedWord (quote : Char) (start : Mark) : Scan (List Char × Bool) := do
  let single := quote == '\''
  let (word, joined) ← loop (fun (word, _) => do
    look 2
    let c ← get
    match c.rest with
    | '\'' :: '\'' :: _ =>
      if single then
        move (·.skip 2)
        return (('\'' :: word, false), true)
      else
        move (·.skip 1)
        return (('\'' :: word, false), true)
    | '\\' :: _ =>
      if single then
        move (·.skip 1)
        return (('\\' :: word, false), true)
      else if (c.at? 1).any isBreak then
        look 3
        move (·.skip 1)
        move Cursor.skipLine
        return ((word, true), false)
      else return (((← escape start) :: word, false), true)
    | d :: _ =>
      if d == quote || isBreak d || isGap d then return ((word, false), false)
      else
        move (·.skip 1)
        return ((d :: word, false), true)
    | [] => return ((word, false), false)) ([], false)
  return (word.reverse, joined)

/-- Gaps and line breaks inside a scalar, after those read already. -/
def quotedSpacing (s : Spacing) : Scan Spacing :=
  loop (fun s => do
    look 1
    match (← get).peek with
    | some d =>
      if isGap d then
        move (·.skip 1)
        return (s.addGap d, true)
      else if isBreak d then return (s.addBreak (← take Cursor.lineBreak), true)
      else return (s, false)
    | none => return (s, false)) s

/-- A quoted scalar. -/
def quotedScalar (quote : Char) : Scan Token := do
  let start := (← get).mark
  move (·.skip 1)
  let parts ← loop (fun parts => do
    look 4
    let c ← get
    if c.atDocumentMarker then fail .quotedScalar start .documentIndicator
    if c.rest.isEmpty then fail .quotedScalar start .endOfStream
    let (word, joined) ← quotedWord quote start
    let parts := word :: parts
    look 1
    if (← get).peek == some quote then return (parts, false)
    -- a joined line has its break already, which leaves nothing in the text
    let spacing ← quotedSpacing { broken := joined }
    return (spacing.text :: parts, true)) []
  move (·.skip 1)
  let style := if quote == '\'' then .singleQuoted else .doubleQuoted
  return ⟨.scalar (String.ofList parts.reverse.flatten) style, start, (← get).mark⟩

end Deployment.Yaml.Scan
