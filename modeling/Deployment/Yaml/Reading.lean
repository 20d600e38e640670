import Deployment.Yaml.Document
import Deployment.Yaml.Scalar

/-!
# Yaml/Reading — the value of a text

A value is read from the nodes of a document. An alias stands for the value of its anchor, read
anew at each use. Nesting is limited to 128 collections, and aliases to a hundred for every node;
so a value is finite even where an anchor holds an alias to itself.
-/

namespace Deployment.Yaml

/-- Reading with a count of the aliases followed. -/
abbrev Read := StateT Nat (Except Fault)

namespace Document

/-- The node at a place. Behind the last node there is the fault that ended the document. -/
def node (d : Document) (i : Nat) : Read (Node × Mark) :=
  match d.nodes[i]? with
  | some n => pure n
  | none => throw (d.fault?.getD (.malformed .endOfStream {} none))

/-- The place of the node that a node stands for: its own, or that of an alias's anchor. -/
def follow (d : Document) (i : Nat) : Read Nat := do
  match (← d.node i).1 with
  | .alias anchor =>
    let count := (← get) + 1
    if d.nodes.size * 100 < count then throw .tooManyAliases
    set count
    return (d.anchors.lookup anchor).getD i
  | _ => return i

/-- A flaw of the value at a place and a path. -/
def flawed {α : Type} (path : List Step) (m : Mark) : Except Flaw α → Read α
  | .ok a => pure a
  | .error flaw => throw (.flawed path.reverse flaw m)

/-- A reader of the value at a path and a place, which also gives the place after the value. -/
abbrev Reader := List Step → Nat → Read (Value × Nat)

/-- The items of a sequence from a place on, given the number of items before it. -/
def items (d : Document) (value : Reader) (path : List Step) :
    Nat → Nat → Nat → Read (List Value × Nat)
  | 0, _, i => pure ([], i)
  | fuel + 1, n, i => do
    match (← d.node i).1 with
    | .sequenceEnd => return ([], i + 1)
    | _ =>
      let (v, i) ← value (.item n :: path) i
      let (vs, i) ← items d value path fuel (n + 1) i
      return (v :: vs, i)

/-- The step to the value under a key that begins at a node. -/
def keyStep : Node → Step
  | .scalar _ text _ => .entry text
  | _ => .unnamed

/-- The entries of a mapping from a place on, after the entries in `done`. A key may stand only
once; a flaw shows the one that stood first. -/
def entries (d : Document) (value : Reader) (path : List Step) (m : Mark) :
    Nat → List (Value × Value) → Nat → Read (List (Value × Value) × Nat)
  | 0, done, i => pure (done, i)
  | fuel + 1, done, i => do
    match (← d.node i).1 with
    | .mappingEnd => return (done, i + 1)
    | n =>
      let (k, i) ← value path i
      if let some (first, _) := done.find? fun e => e.1.same k then
        flawed path m (.error (.duplicate first))
      let (v, i) ← value (keyStep n :: path) i
      entries d value path m fuel (done ++ [(k, v)]) i

/-- A collection, under the name of its tag if it has one. -/
def withTag (tag : Option Tag) (v : Value) : Value :=
  match tag.bind Tag.name? with
  | some name => .tagged name v
  | none => v

/-- The value at a path and a place, inside which collections may nest to a depth. -/
def value (d : Document) : Nat → Reader
  | depth, path, i => do
    let start ← d.follow i
    let (n, m) ← d.node start
    -- an alias is one node, whatever it stands for
    let after (j : Nat) := if start = i then j else i + 1
    let path := if start = i then path else .alias :: path
    match n with
    | .scalar tag text style =>
      return (← flawed path m (scalarValue tag text style), after (start + 1))
    | .sequence tag =>
      match depth with
      | 0 => throw (.tooDeep m)
      | depth + 1 =>
        let (vs, j) ← d.items (value d depth) path (d.nodes.size + 1) 0 (start + 1)
        return (withTag tag (.sequence vs), after j)
    | .mapping tag =>
      match depth with
      | 0 => throw (.tooDeep m)
      | depth + 1 =>
        let (es, j) ← d.entries (value d depth) path m (d.nodes.size + 1) [] (start + 1)
        return (withTag tag (.mapping es), after j)
    | .alias _ | .sequenceEnd | .mappingEnd => return (.null, after (start + 1))

end Document

/-- The value of a text with one document; a text without a document is null. -/
def read (s : String) : Except Fault Value := do
  let stream := EventStream.ofText s
  let (d, rest) := Document.first stream.fault? {} stream.events
  let v ←
    if d.nodes.isEmpty && d.fault?.isNone then pure .null
    else Prod.fst <$> (d.value 128 [] 0).run' 0
  if let some fault := d.fault? then throw fault
  match rest with
  | [(.streamEnd, _)] => return v
  | _ => throw .severalDocuments

end Deployment.Yaml
