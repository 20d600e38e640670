import Deployment.Yaml.Token
import Deployment.Yaml.Token.Folding

/-!
# Yaml/Token/Plain — scalars without quotes
-/

namespace Deployment.Yaml.Scan

/-- Whether a plain scalar ends before the character at the cursor. -/
def plainEnds (inFlow : Bool) (c : Cursor) : Bool :=
  match c.peek with
  | none => true
  | some d =>
    isGap d || isBreak d || (d == ':' && isBlankOrEnd (c.at? 1)) ||
      (inFlow && ",[]\x7b\x7d".toList.contains d)

/-- Whether a colon inside a flow collection stands where it means nothing. -/
def strayColon (inFlow : Bool) (c : Cursor) : Bool :=
  inFlow && c.peek == some ':' && (c.at? 1).any ",?[]\x7b\x7d".toList.contains

/-- The characters of a plain scalar up to the next gap, line break or indicator. -/
def plainWord (inFlow : Bool) (start : Mark) : Scan (List Char) := do
  let word ← loop (fun word => do
    let c ← get
    if strayColon inFlow c then fail .plainScalar start .unexpectedColon
    if plainEnds inFlow c then return (word, false)
    move (·.skip 1)
    look 2
    return (c.rest.take 1 ++ word, true)) []
  return word.reverse

/-- Gaps and line breaks after a word; a tab may not stand in the indentation. -/
def plainSpacing (start : Mark) (indent : Int) : Scan Spacing :=
  loop (fun (s : Spacing) => do
    look 1
    let c ← get
    match c.peek with
    | some d =>
      if isGap d then
        if s.broken && c.mark.column < indent && d == '\t' then
          fail .plainScalar start .tabViolatesIndent
        move (·.skip 1)
        return (s.addGap d, true)
      else if isBreak d then return (s.addBreak (← take Cursor.lineBreak), true)
      else return (s, false)
    | none => return (s, false)) {}

/-- A plain scalar whose further lines are indented by `indent` at least, and whether a line break
follows it. -/
def plainScalar (inFlow : Bool) (indent : Int) : Scan (Token × Bool) := do
  let start := (← get).mark
  let (parts, spacing) ← loop (fun (parts, spacing) => do
    look 4
    let c ← get
    if c.atDocumentMarker || c.peek == some '#' then return ((parts, spacing), false)
    let word ← plainWord inFlow start
    if word.isEmpty then return ((parts, spacing), false)
    let parts := word :: spacing.text :: parts
    let spacing ← plainSpacing start indent
    let c ← get
    let blank := !spacing.gaps.isEmpty || spacing.broken
    return ((parts, spacing), blank && (inFlow || indent ≤ c.mark.column)))
    (([] : List (List Char)), ({} : Spacing))
  let text := String.ofList parts.reverse.flatten
  return (⟨.scalar text .plain, start, (← get).mark⟩, spacing.broken)

end Deployment.Yaml.Scan
