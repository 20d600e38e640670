import Deployment.Yaml.Event
import Deployment.Yaml.Token.Stream

/-!
# Yaml/Event/Stream — the events of a token stream

The grammar of a text has one state for every place where a token decides what follows. A reader
keeps the states to return to, the marks where the open collections began, and the tag handles of
the document.
-/

namespace Deployment.Yaml

/-- Where the grammar stands. `first` is set at the first entry of a collection. -/
inductive Place where
  | streamStart
  | documentStart (implicit : Bool)
  | documentContent
  | documentEnd
  | blockNode
  | blockSequenceEntry (first : Bool)
  | indentlessEntry
  | blockMappingKey (first : Bool)
  | blockMappingValue
  | flowSequenceEntry (first : Bool)
  | pairKey
  | pairValue
  | pairEnd
  | flowMappingKey (first : Bool)
  | flowMappingValue
  | flowMappingNoValue
  | done

/-- The state of the grammar between two events. -/
structure Grammar where
  tokens : List Token
  /-- What ends the tokens before their end. -/
  fault? : Option Fault
  place : Place := .streamStart
  returns : List Place := []
  starts : List Mark := []
  handles : List (String × Tag) := []

/-- A step of the grammar. -/
abbrev Parse := StateT Grammar (Except Fault)

namespace Parse

/-- The next token. -/
def peek : Parse Token := do
  match (← get).tokens with
  | t :: _ => return t
  | [] =>
    let fault := (← get).fault?.getD (.malformed .endOfStream {} none)
    throw fault

/-- Go past the next token. -/
def skip : Parse Unit := modify fun g => { g with tokens := g.tokens.tail }

/-- Go past the next token and look at the one after it. -/
def advance : Parse Token := do
  skip
  peek

/-- Fail with a problem in a construct. -/
def fail {α : Type} (within : Construct) (start : Mark) (p : Problem) (mark : Mark) : Parse α :=
  throw (.malformed p mark (some (within, start)))

/-- Fail with a problem in the collection that began last. -/
def failInside {α : Type} (within : Construct) (p : Problem) (mark : Mark) : Parse α := do
  fail within ((← get).starts.headD {}) p mark

/-- Go on at a place. -/
def goto (place : Place) : Parse Unit := modify fun g => { g with place }

/-- Remember a place to return to. -/
def returnTo (place : Place) : Parse Unit :=
  modify fun g => { g with returns := place :: g.returns }

/-- Go on at the place remembered last. -/
def leave : Parse Unit := modify fun g =>
  match g.returns with
  | [] => { g with place := .done }
  | place :: returns => { g with place, returns }

/-- Remember where a collection began, and go past its first token. -/
def enter : Parse Unit := do
  let t ← peek
  modify fun g => { g with starts := t.start :: g.starts }
  skip

/-- Leave a collection at its last token. -/
def close (e : Event) : Parse (Event × Mark) := do
  let t ← peek
  modify fun g => { g with starts := g.starts.tail }
  leave
  skip
  return (e, t.start)

/-- An empty scalar. -/
def empty (mark : Mark) : Parse (Event × Mark) := return (.scalar {} "" .plain, mark)

/-! ## Nodes -/

/-- A whole tag: its suffix, after what its handle stands for. -/
def resolveTag (handle : String) (suffix : Tag) (start tagMark : Mark) : Parse Tag := do
  if handle.isEmpty then return suffix
  match (← get).handles.find? (·.1 == handle) with
  | some (_, lead) => return lead ++ suffix
  | none => fail .node start .undefinedHandle tagMark

/-- What was read of the properties before a node. -/
structure Heading where
  anchor : Option String := none
  tag : Option (String × Tag × Mark) := none

/-- An anchor and a tag, in either order and each at most once. -/
def heading : Parse Heading := do
  let t ← peek
  match t.lexeme with
  | .anchor a =>
    let u ← advance
    match u.lexeme with
    | .tag h s =>
      skip
      return ⟨some a, some (h, s, u.start)⟩
    | _ => return ⟨some a, none⟩
  | .tag h s =>
    let u ← advance
    match u.lexeme with
    | .anchor a =>
      skip
      return ⟨some a, some (h, s, t.start)⟩
    | _ => return ⟨none, some (h, s, t.start)⟩
  | _ => return {}

/-- A node. In a block node block collections may stand; `indentless` allows a sequence whose
entries are not indented. -/
def node (block indentless : Bool) : Parse (Event × Mark) := do
  let t ← peek
  match t.lexeme with
  | .alias name =>
    leave
    skip
    return (.alias name, t.start)
  | _ =>
    let start := t.start
    let h ← heading
    let tag ← h.tag.mapM fun (handle, suffix, m) => resolveTag handle suffix start m
    let property : Property := ⟨h.anchor, tag⟩
    let t ← peek
    let begin (place : Place) (e : Event) : Parse (Event × Mark) := do
      goto place
      return (e, start)
    match t.lexeme with
    | .blockEntry =>
      if indentless then begin .indentlessEntry (.sequenceStart property)
      else bare h property start t
    | .scalar text style =>
      leave
      skip
      return (.scalar property text style, start)
    | .flowSequenceStart => begin (.flowSequenceEntry true) (.sequenceStart property)
    | .flowMappingStart => begin (.flowMappingKey true) (.mappingStart property)
    | .blockSequenceStart =>
      if block then begin (.blockSequenceEntry true) (.sequenceStart property)
      else bare h property start t
    | .blockMappingStart =>
      if block then begin (.blockMappingKey true) (.mappingStart property)
      else bare h property start t
    | _ => bare h property start t
where
  /-- A node without content, which needs an anchor or a tag. -/
  bare (h : Heading) (property : Property) (start : Mark) (t : Token) : Parse (Event × Mark) := do
    if h.anchor.isSome || h.tag.isSome then
      leave
      return (.scalar property "" .plain, start)
    else fail (if block then .blockNode else .flowNode) start .expectedNode t.start

/-- A node after which the grammar goes on at a place, or an empty scalar if one of the tokens
that end an entry comes next. -/
def nodeOr (ends : List Lexeme) (block indentless : Bool) (next : Place) (mark : Token → Mark) :
    Parse (Event × Mark) := do
  let t ← peek
  if ends.contains t.lexeme then
    goto next
    empty (mark t)
  else
    returnTo next
    node block indentless

/-! ## Documents -/

/-- The handles that every document has. -/
def standardHandles : List (String × Tag) := [("!", .ofText "!"), ("!!", .coreLead)]

/-- The directives before a document. -/
def directives : Nat → Bool → Parse Unit
  | 0, _ => pure ()
  | n + 1, versioned => do
    let t ← peek
    match t.lexeme with
    | .version major minor =>
      if versioned then throw (.malformed .duplicateVersion t.start none)
      if major ≠ 1 || (minor ≠ 1 && minor ≠ 2) then
        throw (.malformed .incompatibleVersion t.start none)
      skip
      directives n true
    | .tagDirective handle lead =>
      if (← get).handles.any (·.1 == handle) then
        throw (.malformed .duplicateTagDirective t.start none)
      modify fun g => { g with handles := g.handles ++ [(handle, lead)] }
      skip
      directives n versioned
    | _ => pure ()

/-- Read the directives before a document; a handle that they declare hides a standard one. -/
def prologue : Parse Unit := do
  modify fun g => { g with handles := [] }
  directives ((← get).tokens.length + 1) false
  modify fun g => { g with handles := g.handles ++ standardHandles }

/-- Go past the markers at the end of a document. -/
def skipEnds : Parse Unit := modify fun g =>
  { g with tokens := g.tokens.dropWhile (·.lexeme == .documentEnd) }

/-- The begin of a document, or the end of the stream. -/
def documentStart (implicit : Bool) : Parse (Event × Mark) := do
  unless implicit do skipEnds
  let t ← peek
  let explicit := match t.lexeme with
    | .version .. | .tagDirective .. | .documentStart => true
    | _ => false
  if t.lexeme == .streamEnd then
    goto .done
    skip
    return (.streamEnd, t.start)
  else if implicit && !explicit then
    prologue
    returnTo .documentEnd
    goto .blockNode
    return (.documentStart, t.start)
  else
    prologue
    let u ← peek
    unless u.lexeme == .documentStart do
      throw (.malformed .expectedDocumentStart u.start none)
    returnTo .documentEnd
    goto .documentContent
    skip
    return (.documentStart, t.start)

/-- The content of a document with a begin of its own. -/
def documentContent : Parse (Event × Mark) := do
  let t ← peek
  match t.lexeme with
  | .version .. | .tagDirective .. | .documentStart | .documentEnd | .streamEnd =>
    leave
    empty t.start
  | _ => node true false

/-- The end of a document. -/
def documentEnd : Parse (Event × Mark) := do
  let t ← peek
  if t.lexeme == .documentEnd then skip
  goto (.documentStart false)
  return (.documentEnd, t.start)

/-! ## Block collections -/

/-- An entry of a block sequence. -/
def blockSequenceEntry : Parse (Event × Mark) := do
  let t ← peek
  match t.lexeme with
  | .blockEntry =>
    skip
    nodeOr [.blockEntry, .blockEnd] true false (.blockSequenceEntry false) fun _ => t.stop
  | .blockEnd => close .sequenceEnd
  | _ => failInside .blockSequence .expectedDash t.start

/-- An entry of a sequence that is indented no further than the key before it. -/
def indentlessEntry : Parse (Event × Mark) := do
  let t ← peek
  match t.lexeme with
  | .blockEntry =>
    skip
    nodeOr [.blockEntry, .key, .value, .blockEnd] true false .indentlessEntry fun _ => t.stop
  | _ =>
    leave
    return (.sequenceEnd, t.start)

/-- A key of a block mapping. -/
def blockMappingKey : Parse (Event × Mark) := do
  let t ← peek
  match t.lexeme with
  | .key =>
    skip
    nodeOr [.key, .value, .blockEnd] true true .blockMappingValue fun _ => t.stop
  | .blockEnd => close .mappingEnd
  | _ => failInside .blockMapping .expectedKey t.start

/-- A value of a block mapping. -/
def blockMappingValue : Parse (Event × Mark) := do
  let t ← peek
  match t.lexeme with
  | .value =>
    skip
    nodeOr [.key, .value, .blockEnd] true true (.blockMappingKey false) fun _ => t.stop
  | _ =>
    goto (.blockMappingKey false)
    empty t.start

/-! ## Flow collections -/

/-- Go past the comma between two entries of a flow collection. -/
def comma (first : Bool) (within : Construct) (p : Problem) : Parse Token := do
  let t ← peek
  if first then return t
  else if t.lexeme == .flowEntry then advance
  else failInside within p t.start

/-- An entry of a flow sequence. A key makes the entry a mapping of one pair. -/
def flowSequenceEntry (first : Bool) : Parse (Event × Mark) := do
  if (← peek).lexeme == .flowSequenceEnd then close .sequenceEnd
  else
    let t ← comma first .flowSequence .expectedCommaOrBracket
    match t.lexeme with
    | .flowSequenceEnd => close .sequenceEnd
    | .key =>
      goto .pairKey
      skip
      return (.mappingStart {}, t.start)
    | _ =>
      returnTo (.flowSequenceEntry false)
      node false false

/-- The key of a pair in a flow sequence. A key that is left out takes the colon with it. -/
def pairKey : Parse (Event × Mark) := do
  let t ← peek
  match t.lexeme with
  | .value | .flowEntry | .flowSequenceEnd =>
    skip
    goto .pairValue
    empty t.stop
  | _ =>
    returnTo .pairValue
    node false false

/-- The value of a pair in a flow sequence. -/
def pairValue : Parse (Event × Mark) := do
  let t ← peek
  if t.lexeme == .value then
    skip
    nodeOr [.flowEntry, .flowSequenceEnd] false false .pairEnd (·.start)
  else
    goto .pairEnd
    empty t.start

/-- The end of a pair in a flow sequence. -/
def pairEnd : Parse (Event × Mark) := do
  let t ← peek
  goto (.flowSequenceEntry false)
  return (.mappingEnd, t.start)

/-- A key of a flow mapping. -/
def flowMappingKey (first : Bool) : Parse (Event × Mark) := do
  if (← peek).lexeme == .flowMappingEnd then close .mappingEnd
  else
    let t ← comma first .flowMapping .expectedCommaOrBrace
    match t.lexeme with
    | .flowMappingEnd => close .mappingEnd
    | .key =>
      skip
      nodeOr [.value, .flowEntry, .flowMappingEnd] false false .flowMappingValue (·.start)
    | _ =>
      returnTo .flowMappingNoValue
      node false false

/-- A value of a flow mapping. -/
def flowMappingValue : Parse (Event × Mark) := do
  let t ← peek
  if t.lexeme == .value then
    skip
    nodeOr [.flowEntry, .flowMappingEnd] false false (.flowMappingKey false) (·.start)
  else
    goto (.flowMappingKey false)
    empty t.start

/-- The next event, if there is one. -/
def next : Parse (Option (Event × Mark)) := do
  match (← get).place with
  | .streamStart =>
    let t ← peek
    goto (.documentStart true)
    skip
    return some (.streamStart, t.start)
  | .documentStart implicit => some <$> documentStart implicit
  | .documentContent => some <$> documentContent
  | .documentEnd => some <$> documentEnd
  | .blockNode => some <$> node true false
  | .blockSequenceEntry first =>
    if first then enter
    some <$> blockSequenceEntry
  | .indentlessEntry => some <$> indentlessEntry
  | .blockMappingKey first =>
    if first then enter
    some <$> blockMappingKey
  | .blockMappingValue => some <$> blockMappingValue
  | .flowSequenceEntry first =>
    if first then enter
    some <$> flowSequenceEntry first
  | .pairKey => some <$> pairKey
  | .pairValue => some <$> pairValue
  | .pairEnd => some <$> pairEnd
  | .flowMappingKey first =>
    if first then enter
    some <$> flowMappingKey first
  | .flowMappingValue => some <$> flowMappingValue
  | .flowMappingNoValue =>
    let t ← peek
    goto (.flowMappingKey false)
    some <$> empty t.start
  | .done => return none

end Parse

/-- The events of a text with their marks, up to its end or to the first fault. -/
structure EventStream where
  events : List (Event × Mark)
  fault? : Option Fault

/-- The events that a grammar gives in `n` steps, after the events in `done`. -/
def EventStream.read : Nat → Grammar → List (Event × Mark) → EventStream
  | 0, _, done => ⟨done.reverse, none⟩
  | n + 1, g, done =>
    match Parse.next g with
    | .error fault => ⟨done.reverse, some fault⟩
    | .ok (none, _) => ⟨done.reverse, none⟩
    | .ok (some e, g) => EventStream.read n g (e :: done)

/-- The events of a text. -/
def EventStream.ofText (s : String) : EventStream :=
  let ts := TokenStream.ofText s
  EventStream.read (3 * ts.tokens.length + 8) { tokens := ts.tokens, fault? := ts.fault? } []

end Deployment.Yaml
