import Deployment.Yaml.Token
import Deployment.Yaml.Token.Property

/-!
# Yaml/Token/Block — literal and folded scalars

A block scalar begins with a header that may fix its indentation and what becomes of the line
breaks at its end.
-/

namespace Deployment.Yaml.Scan

/-- What becomes of the line breaks at the end of a block scalar. -/
inductive Chomping where
  | strip
  | clip
  | keep
  deriving DecidableEq

/-- The chomping sign at the cursor. -/
def chomping? : Scan (Option Chomping) := do
  look 1
  match (← get).peek with
  | some '+' =>
    move (·.skip 1)
    return some .keep
  | some '-' =>
    move (·.skip 1)
    return some .strip
  | _ => return none

/-- The indentation digit at the cursor, or zero. -/
def indentDigit (start : Mark) : Scan Nat := do
  look 1
  let some d := (← get).peek.filter Char.isDigit | return 0
  if d == '0' then fail .blockScalar start .zeroIndent
  move (·.skip 1)
  return d.toNat - '0'.toNat

/-- The header of a block scalar: chomping and indentation, in either order. -/
def blockHeader (start : Mark) : Scan (Chomping × Nat) := do
  match ← chomping? with
  | some chomping => return (chomping, ← indentDigit start)
  | none =>
    let indent ← indentDigit start
    let chomping ← if indent = 0 then pure none else chomping?
    return (chomping.getD .clip, indent)

/-- Read indentation and empty lines before a line of a block scalar. An `indent` of zero is not
known yet: any is read. The answer holds the widest indentation and the line breaks. -/
def blockLead (start : Mark) (indent : Nat) : Scan (Nat × List Char) :=
  loop (fun (widest, breaks) => do
    let c ← get
    let spaces := (c.rest.takeWhile (· == ' ')).length
    move (·.skip (if indent = 0 then spaces else min spaces (indent - c.mark.column)))
    look 1
    let c ← get
    let widest := max widest c.mark.column
    if (indent = 0 || c.mark.column < indent) && c.peek == some '\t' then
      fail .blockScalar start .tabInIndent
    if c.peek.any isBreak then return ((widest, breaks ++ (← take Cursor.lineBreak)), true)
    else return ((widest, breaks), false)) (0, [])

/-- A block scalar so far, with what stands before its next line. -/
structure Block where
  /-- The parts of the text, the last first. -/
  parts : List (List Char) := []
  /-- The break at the end of the last line. -/
  last : List Char := []
  /-- The breaks of the empty lines after it. -/
  empty : List Char
  /-- Whether the last line began with a gap. -/
  indented : Bool := false

/-- The text up to the end of the last line. -/
def Block.text (b : Block) : List Char := b.parts.reverse.flatten

/-- What stands between the last line of a block scalar and a next line: a break between two lines
of a folded scalar that begin with no gap becomes a space, or nothing before empty lines. -/
def Block.joint (b : Block) (folded indented : Bool) : List Char :=
  if folded && b.last.head? == some '\n' && !b.indented && !indented then
    if b.empty.isEmpty then [' '] else b.empty
  else b.last ++ b.empty

/-- The lines of a block scalar with an indentation. -/
def blockLines (start : Mark) (folded : Bool) (indent : Nat) (b : Block) : Scan Block :=
  loop (fun b => do
    let c ← get
    if c.mark.column = indent && !c.rest.isEmpty then
      let indented := c.peek.any isGap
      let line ← take (·.span (!isBreak ·))
      let last ← take Cursor.lineBreak
      let (_, empty) ← blockLead start indent
      return (⟨line :: b.joint folded indented :: b.parts, last, empty, indented⟩, true)
    else return (b, false)) b

/-- A block scalar inside a collection indented by `parent`. -/
def blockScalar (folded : Bool) (parent : Int) : Scan Token := do
  let start := (← get).mark
  move (·.skip 1)
  let (chomping, increment) ← blockHeader start
  restOfLine .blockScalar start
  let given :=
    if increment = 0 then 0 else if 0 ≤ parent then parent.toNat + increment else increment
  let (widest, empty) ← blockLead start given
  let indent := if given = 0 then max (max widest (parent + 1).toNat) 1 else given
  let b ← blockLines start folded indent { empty }
  let text := match chomping with
    | .strip => b.text
    | .clip => b.text ++ b.last
    | .keep => b.text ++ b.last ++ b.empty
  return ⟨.scalar (String.ofList text) (if folded then .folded else .literal), start,
    (← get).mark⟩

end Deployment.Yaml.Scan
