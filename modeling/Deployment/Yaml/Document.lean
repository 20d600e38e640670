import Deployment.Yaml.Event.Stream

/-!
# Yaml/Document — the first document of a text

A document is the list of its nodes in the order of the text. Anchors are numbered by the names
seen so far, and an alias is the number of its anchor; where two anchors share a number, the later
one holds.
-/

namespace Deployment.Yaml

/-- A node of a document, or the end of a collection. -/
inductive Node where
  | scalar (tag : Option Tag) (text : String) (style : Style)
  | sequence (tag : Option Tag)
  | sequenceEnd
  | mapping (tag : Option Tag)
  | mappingEnd
  | alias (anchor : Nat)
  deriving Inhabited

/-- The nodes of a document, up to its end or to the first fault. -/
structure Document where
  nodes : Array (Node × Mark) := #[]
  /-- The places of the anchored nodes, by number of the anchor; the first entry holds. -/
  anchors : List (Nat × Nat) := []
  /-- The names of the anchors with their numbers; the first entry holds. -/
  names : List (String × Nat) := []
  fault? : Option Fault := none

namespace Document

/-- The document with one node more. -/
def push (d : Document) (n : Node) (m : Mark) : Document := { d with nodes := d.nodes.push (n, m) }

/-- The document with the next node anchored under a name. -/
def anchor (d : Document) (name? : Option String) : Document :=
  match name? with
  | none => d
  | some name =>
    let number := (d.names.map Prod.fst).eraseDups.length
    { d with
      names := (name, number) :: d.names
      anchors := (number, d.nodes.size) :: d.anchors }

/-- The document with a collection or scalar that an event begins. -/
def add (d : Document) (e : Event) (m : Mark) : Document :=
  match e with
  | .scalar p text style => (d.anchor p.anchor).push (.scalar p.tag text style) m
  | .sequenceStart p => (d.anchor p.anchor).push (.sequence p.tag) m
  | .mappingStart p => (d.anchor p.anchor).push (.mapping p.tag) m
  | .sequenceEnd => d.push .sequenceEnd m
  | .mappingEnd => d.push .mappingEnd m
  | _ => d

/-- The first document of a list of events that ends with an optional fault, and what follows the
document. -/
def first (fault? : Option Fault) (d : Document) :
    List (Event × Mark) → Document × List (Event × Mark)
  | [] => ({ d with fault? }, [])
  | (e, m) :: es =>
    match e with
    | .streamEnd => (d, [(e, m)])
    | .documentEnd => (d, es)
    | .alias name =>
      match d.names.lookup name with
      | some number => first fault? (d.push (.alias number) m) es
      | none => ({ d with fault? := some (.unknownAnchor m) }, [])
    | _ => first fault? (d.add e m) es

end Document

end Deployment.Yaml
