import Deployment.Yaml.Token.Block
import Deployment.Yaml.Token.Plain
import Deployment.Yaml.Token.Quoted

/-!
# Yaml/Token/Stream — the tokens of a whole text

Whether a scalar is a key shows only at the colon after it. The lexer therefore remembers, for
every flow collection it is in, where a key may have begun; at a colon it puts the key token in
front of the tokens read since. A token is released once no key can come before it, so a fault
found while looking for a key hides the tokens that wait for it.
-/

namespace Deployment.Yaml

/-- A place where a key may have begun. A required key is the only thing that can stand there. -/
structure KeyPlace where
  possible : Bool := false
  required : Bool := false
  /-- The number of tokens before the key. -/
  number : Nat := 0
  mark : Mark := {}
  deriving Inhabited

/-- The state between two tokens. -/
structure Lexer where
  cursor : Cursor
  started : Bool := false
  ended : Bool := false
  /-- Tokens that are read and not released. -/
  waiting : List Token := []
  /-- The number of tokens released. -/
  released : Nat := 0
  /-- The column of the innermost block collection, and those of the collections around it. -/
  indent : Int := -1
  indents : List Int := []
  /-- Whether a key may begin at the cursor. -/
  keyAllowed : Bool := true
  /-- The last place of a key in the innermost collection, and those of the flow collections
  around it. -/
  place : KeyPlace := {}
  places : List KeyPlace := []

/-- A step of the lexer. -/
abbrev Lex := StateT Lexer (Except Fault)

namespace Lex

/-- Whether the cursor is in a flow collection. -/
def inFlow : Lex Bool := do return !(← get).places.isEmpty

/-- The mark of the cursor. -/
def mark : Lex Mark := do return (← get).cursor.mark

/-- Read a part of the text. -/
def scan {α : Type} (part : Scan α) : Lex α := do
  let (a, c) ← part (← get).cursor
  modify fun s => { s with cursor := c }
  return a

/-- Add a token. -/
def add (t : Token) : Lex Unit := modify fun s => { s with waiting := s.waiting ++ [t] }

/-- Put a token in front of the one with a number. -/
def insert (number : Nat) (t : Token) : Lex Unit := modify fun s =>
  let (before, after) := s.waiting.splitAt (number - s.released)
  { s with waiting := before ++ t :: after }

/-- Add a token of `n` characters. -/
def addShort (lexeme : Lexeme) (n : Nat) : Lex Unit := do
  let start ← mark
  scan (Scan.move (·.skip n))
  add ⟨lexeme, start, ← mark⟩

/-! ## Keys -/

/-- Allow or forbid a key at the cursor. -/
def allowKey (allowed : Bool) : Lex Unit := modify fun s => { s with keyAllowed := allowed }

/-- Forget the place of a key; a required key is missed. -/
def dropPlace (p : KeyPlace) : Lex KeyPlace := do
  if p.possible && p.required then
    scan (Scan.fail .simpleKey p.mark .expectedColon)
  return { p with possible := false }

/-- Forget the place of a key in the innermost collection. -/
def dropKey : Lex Unit := do
  let p ← dropPlace (← get).place
  modify fun s => { s with place := p }

/-- Remember the cursor as the place of a key, if one may begin here. -/
def saveKey : Lex Unit := do
  let s ← get
  if s.keyAllowed then
    let required := s.places.isEmpty && s.indent == s.cursor.mark.column
    dropKey
    let number := s.released + s.waiting.length
    modify fun s => { s with place := ⟨true, required, number, s.cursor.mark⟩ }

/-- Whether a key that began at a place cannot reach a mark: a key is on one line and has 1024
bytes at most. -/
def isStale (now : Mark) (p : KeyPlace) : Bool :=
  p.possible && (p.mark.line < now.line || p.mark.index + 1024 < now.index)

/-- Forget the places that are out of reach. -/
def dropStale : Lex Unit := do
  let s ← get
  let now := s.cursor.mark
  if isStale now s.place || s.places.any (isStale now) then
    let check (p : KeyPlace) : Lex KeyPlace := if isStale now p then dropPlace p else pure p
    -- the places of the outer collections are older
    let places ← s.places.reverse.mapM check
    let place ← check s.place
    modify fun s => { s with place, places := places.reverse }

/-! ## Indentation -/

/-- Begin a block collection at a column, unless one began there already. -/
def indentTo (column : Nat) (lexeme : Lexeme) (number? : Option Nat) (at_ : Mark) : Lex Unit := do
  let s ← get
  if s.places.isEmpty && s.indent < column then
    set { s with indent := column, indents := s.indent :: s.indents }
    match number? with
    | some number => insert number ⟨lexeme, at_, at_⟩
    | none => add ⟨lexeme, at_, at_⟩

/-- End the block collections that began right of a column. -/
def unindentTo (column : Int) : Lex Unit := do
  if ← inFlow then return
  let s ← get
  let ended := (s.indent :: s.indents).takeWhile (column < ·)
  let m := s.cursor.mark
  match (s.indent :: s.indents).drop ended.length with
  | [] => return
  | indent :: indents =>
    set { s with
      indent, indents
      waiting := s.waiting ++ ended.map fun _ => (⟨.blockEnd, m, m⟩ : Token) }

/-! ## Tokens -/

/-- Skip white space and comments, and a byte order mark at the start of a line. In a block
collection a tab may not stand where a key may. -/
def skipBlank : Lex Unit := do
  let skipLine : Bool → Scan (Bool × Bool) := fun keyAllowed => do
    let c ← get
    if c.mark.column == 0 && c.peek == some '\ufeff' then Scan.move (·.skip 1)
    Scan.move (·.skipWhile fun d => d == ' ' || (!keyAllowed && d == '\t'))
    Scan.look 1
    Scan.comment
    if (← get).peek.any isBreak then
      Scan.move Cursor.skipLine
      return (true, true)
    else return (keyAllowed, false)
  if ← inFlow then
    let _ ← scan (Scan.loop (fun _ => do return (false, (← skipLine false).2)) false)
  else
    allowKey (← scan (Scan.loop skipLine (← get).keyAllowed))

/-- The end of the text. -/
def streamEnd : Lex Unit := do
  let s ← get
  let m := s.cursor.mark
  if m.column ≠ 0 then
    set { s with cursor := { s.cursor with mark := ⟨m.index, m.line + 1, 0⟩ } }
  unindentTo (-1)
  dropKey
  allowKey false
  let m ← mark
  add ⟨.streamEnd, m, m⟩
  modify fun s => { s with ended := true }

/-- A token that stands outside all collections. -/
def outside : Lex Unit := do
  unindentTo (-1)
  dropKey
  allowKey false

/-- The begin of a flow collection. -/
def flowStart (lexeme : Lexeme) : Lex Unit := do
  saveKey
  modify fun s => { s with places := s.place :: s.places, place := {}, keyAllowed := true }
  addShort lexeme 1

/-- The end of a flow collection. -/
def flowEnd (lexeme : Lexeme) : Lex Unit := do
  dropKey
  modify fun s =>
    match s.places with
    | [] => s
    | place :: places => { s with place, places }
  allowKey false
  addShort lexeme 1

/-- The comma between the entries of a flow collection. -/
def flowEntry : Lex Unit := do
  dropKey
  allowKey true
  addShort .flowEntry 1

/-- An indicator that begins a line of a block collection, unless it stands in a flow collection. -/
def blockIndicator (collection : Lexeme) (misplaced : Problem) : Lex Unit := do
  unless ← inFlow do
    let s ← get
    let m := s.cursor.mark
    unless s.keyAllowed do throw (.malformed misplaced m none)
    indentTo m.column collection none m

/-- The dash before an entry of a block sequence. -/
def blockEntry : Lex Unit := do
  blockIndicator .blockSequenceStart .entryNotAllowed
  dropKey
  allowKey true
  addShort .blockEntry 1

/-- The question mark before a key. -/
def key : Lex Unit := do
  blockIndicator .blockMappingStart .keyNotAllowed
  dropKey
  allowKey !(← inFlow)
  addShort .key 1

/-- The colon before a value. -/
def value : Lex Unit := do
  let p := (← get).place
  if p.possible then
    insert p.number ⟨.key, p.mark, p.mark⟩
    indentTo p.mark.column .blockMappingStart (some p.number) p.mark
    modify fun s => { s with place := { s.place with possible := false }, keyAllowed := false }
  else
    blockIndicator .blockMappingStart .valueNotAllowed
    allowKey !(← inFlow)
  addShort .value 1

/-- A token that may be a key or begin one. -/
def keyPart (part : Scan Token) : Lex Unit := do
  saveKey
  allowKey false
  add (← scan part)

/-- A plain scalar; after a line break a key may begin. -/
def plain : Lex Unit := do
  saveKey
  allowKey false
  let s ← get
  let (t, broken) ← scan (Scan.plainScalar (← inFlow) (s.indent + 1))
  add t
  if broken then allowKey true

/-- A block scalar. -/
def block (folded : Bool) : Lex Unit := do
  dropKey
  allowKey true
  add (← scan (Scan.blockScalar folded (← get).indent))

/-- An anchor or an alias. -/
def anchored (within : Construct) (lexeme : String → Lexeme) : Scan Token := do
  let (name, start) ← Scan.anchor within
  return ⟨lexeme name, start, (← get).mark⟩

/-- Whether a plain scalar can begin at the cursor. -/
def plainBegins (inFlow : Bool) (c : Cursor) : Bool :=
  match c.peek with
  | none => false
  | some d =>
    !(isGap d || isBreak d || "-?:,[]\x7b\x7d#&*!|>'\"%@\x60".toList.contains d) ||
      (d == '-' && !(c.at? 1).any isGap) ||
      (!inFlow && (d == '?' || d == ':') && !isBlankOrEnd (c.at? 1))

/-- Read what begins at a character other than white space. -/
def dispatch (c : Cursor) (d : Char) : Lex Unit := do
  let inFlow ← inFlow
  let alone := isBlankOrEnd (c.at? 1)
  if c.mark.column = 0 && d == '%' then
    outside
    add (← scan Scan.directive)
  else if c.atMarker '-' then
    outside
    addShort .documentStart 3
  else if c.atMarker '.' then
    outside
    addShort .documentEnd 3
  else match d with
    | '[' => flowStart .flowSequenceStart
    | '\x7b' => flowStart .flowMappingStart
    | ']' => flowEnd .flowSequenceEnd
    | '\x7d' => flowEnd .flowMappingEnd
    | ',' => flowEntry
    | '*' => keyPart (anchored .alias .alias)
    | '&' => keyPart (anchored .anchor .anchor)
    | '!' => keyPart (Scan.tag inFlow)
    | '\'' => keyPart (Scan.quotedScalar '\'')
    | '"' => keyPart (Scan.quotedScalar '"')
    | _ =>
      if d == '-' && alone then blockEntry
      else if d == '?' && (inFlow || alone) then key
      else if d == ':' && (inFlow || alone) then value
      else if d == '|' && !inFlow then block false
      else if d == '>' && !inFlow then block true
      else if plainBegins inFlow c then plain
      else scan (Scan.fail .nextToken c.mark .noTokenStart)

/-- Read on to the next token. -/
def fetch : Lex Unit := do
  scan (Scan.look 1)
  if !(← get).started then
    let m ← mark
    add ⟨.streamStart, m, m⟩
    modify fun s => { s with started := true }
  else
    skipBlank
    dropStale
    unindentTo (← mark).column
    scan (Scan.look 4)
    let c := (← get).cursor
    match c.peek with
    | none => streamEnd
    | some d => dispatch c d

/-- Whether the first waiting token has to wait for a key in front of it. -/
def headWaits (s : Lexer) : Bool :=
  (s.place :: s.places).any fun p => p.possible && p.number == s.released

/-- Release the first waiting token if it waits for nothing, or else read on. -/
def step : Lex (Option Token) := do
  unless (← get).waiting.isEmpty do dropStale
  let s ← get
  match s.waiting with
  | t :: waiting =>
    if headWaits s then
      fetch
      return none
    else
      set { s with waiting, released := s.released + 1 }
      return some t
  | [] =>
    fetch
    return none

end Lex

/-- The tokens of a text up to its end or to the first fault. -/
structure TokenStream where
  tokens : List Token
  fault? : Option Fault

/-- The tokens that a lexer reads in `n` steps, after the tokens in `done`. -/
def TokenStream.read : Nat → Lexer → List Token → TokenStream
  | 0, _, done => ⟨done.reverse, none⟩
  | n + 1, s, done =>
    if s.ended && s.waiting.isEmpty then ⟨done.reverse, none⟩
    else match Lex.step s with
      | .error fault => ⟨done.reverse, some fault⟩
      | .ok (none, s) => TokenStream.read n s done
      | .ok (some t, s) => TokenStream.read n s (t :: done)

/-- The tokens of a text. -/
def TokenStream.ofText (s : String) : TokenStream :=
  let cs := s.toList
  TokenStream.read (6 * cs.length + 16)
    { cursor := { rest := cs, barrier? := Barrier.first? cs } } []

end Deployment.Yaml
