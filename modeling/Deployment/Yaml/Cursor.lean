import Deployment.Yaml.Barrier

/-!
# Yaml/Cursor — reading a text from left to right

A cursor holds what is left of a text and the mark of its first character. Five characters break
lines; a carriage return before a line feed makes one break with it. Where a decision looks ahead,
it says so: looking into a part with a character that no text may hold is a fault.
-/

namespace Deployment.Yaml

/-- Whether a character breaks a line. -/
def isBreak (c : Char) : Bool :=
  c == '\n' || c == '\r' || c == '\x85' || c == '\u2028' || c == '\u2029'

/-- Whether a character separates words on a line. -/
def isGap (c : Char) : Bool := c == ' ' || c == '\t'

/-- Whether a character may stand in the name of an anchor, a handle or a directive. -/
def isNameChar (c : Char) : Bool := c.isAlphanum || c == '_' || c == '-'

/-- Whether a place holds the end of the text or a character with a property. -/
def endOr (p : Char → Bool) : Option Char → Bool
  | none => true
  | some c => p c

/-- Whether a place holds the end of the text or a line break. -/
def isBreakOrEnd (c? : Option Char) : Bool := endOr isBreak c?

/-- Whether a place holds the end of the text, a line break or a gap. -/
def isBlankOrEnd (c? : Option Char) : Bool := endOr (fun c => isBreak c || isGap c) c?

/-- What is left of a text, the mark where it begins, and the first barrier of the text. -/
structure Cursor where
  rest : List Char
  mark : Mark := {}
  barrier? : Option Barrier := none

namespace Cursor

/-- The first character left. -/
def peek (c : Cursor) : Option Char := c.rest.head?

/-- The character `n` places on. -/
def at? (c : Cursor) (n : Nat) : Option Char := c.rest[n]?

/-- The bytes of the first `n` characters left. -/
def width (c : Cursor) (n : Nat) : Nat := (c.rest.take n).foldl (fun w d => w + d.utf8Size) 0

/-- The cursor `n` characters further on the line. -/
def skip (c : Cursor) (n : Nat) : Cursor :=
  { c with
    rest := c.rest.drop n
    mark := { c.mark with index := c.mark.index + c.width n, column := c.mark.column + n } }

/-- The leading characters with a property, and the cursor after them. -/
def span (p : Char → Bool) (c : Cursor) : List Char × Cursor :=
  let taken := c.rest.takeWhile p
  (taken, c.skip taken.length)

/-- The cursor after the leading characters with a property. -/
def skipWhile (p : Char → Bool) (c : Cursor) : Cursor := (c.span p).2

/-- The mark at the start of the next line, after a break of `n` characters. -/
def nextLine (c : Cursor) (n : Nat) : Cursor :=
  { c with rest := c.rest.drop n, mark := ⟨c.mark.index + c.width n, c.mark.line + 1, 0⟩ }

/-- A line break as it is kept in a scalar, and the cursor after it. The two separators of Unicode
are kept as they are, all other breaks become line feeds. -/
def lineBreak (c : Cursor) : List Char × Cursor :=
  match c.rest with
  | '\r' :: '\n' :: _ => (['\n'], c.nextLine 2)
  | '\u2028' :: _ => (['\u2028'], c.nextLine 1)
  | '\u2029' :: _ => (['\u2029'], c.nextLine 1)
  | b :: _ => if isBreak b then (['\n'], c.nextLine 1) else ([], c)
  | [] => ([], c)

/-- The cursor after a line break. -/
def skipLine (c : Cursor) : Cursor := c.lineBreak.2

/-- Whether a marker of three equal characters stands alone at the start of the line. -/
def atMarker (c : Cursor) (m : Char) : Bool :=
  c.mark.column == 0 && c.rest.take 3 == [m, m, m] && isBlankOrEnd (c.at? 3)

/-- Whether a document begins or ends here. -/
def atDocumentMarker (c : Cursor) : Bool := c.atMarker '-' || c.atMarker '.'

end Cursor

/-- A part of a text read at a cursor. -/
abbrev Scan := StateT Cursor (Except Fault)

namespace Scan

/-- Read a part of the text by a function on cursors. -/
def take {α : Type} (f : Cursor → α × Cursor) : Scan α := modifyGet f

/-- Move the cursor. -/
def move (f : Cursor → Cursor) : Scan Unit := modify f

/-- Fail with a problem at the cursor, in a construct that began at a mark. -/
def fail {α : Type} (within : Construct) (start : Mark) (p : Problem) : Scan α := do
  throw (.malformed p (← get).mark (some (within, start)))

/-- Look at the next `n` characters. -/
def look (n : Nat) : Scan Unit := do
  let c ← get
  if let some b := c.barrier? then
    if b.start < c.mark.index + c.width n then throw (.control b.offset)

/-- Repeat a step while it asks to go on, but no more often than a text has characters. -/
def iterate {σ : Type} (step : σ → Scan (σ × Bool)) : List Char → σ → Scan σ
  | [], s => Prod.fst <$> step s
  | _ :: rest, s => do
    match ← step s with
    | (t, true) => iterate step rest t
    | (t, false) => pure t

/-- Repeat a step while it asks to go on; every repetition takes a character or more. -/
def loop {σ : Type} (step : σ → Scan (σ × Bool)) (s : σ) : Scan σ := do
  iterate step (← get).rest s

end Scan

end Deployment.Yaml
