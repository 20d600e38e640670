import Deployment.Yaml.Fault

/-!
# Yaml/Outline — values that cannot be written

A mapping of one entry is begun once its key shows that the mapping is no tag. A key that is tagged
or is itself a mapping of one entry does not show it: such a mapping is ended and never begun. The
outline of a value says in which order its collections begin and end; a value can be written if
every end in its outline closes a collection.
-/

namespace Deployment.Yaml

/-- A part of a value, by what it does to the nesting of what is written. -/
inductive Part where
  | scalar
  | sequence
  | sequenceEnd
  | mapping
  | mappingEnd
  deriving DecidableEq

/-- Whether a mapping has one entry only, whose key is tagged or has one entry only itself. -/
def isUndecided : List (Value × Value) → Bool
  | [(.tagged _ _, _)] => true
  | [(.mapping [_], _)] => true
  | _ => false

mutual

/-- The outline of a value, which may stand behind a tag. -/
def outline (tagged : Bool) : Value → List Part
  | .tagged _ v => outline true v
  | .sequence vs => .sequence :: itemParts vs ++ [.sequenceEnd]
  | .mapping es =>
    let rest := entryParts es ++ [.mappingEnd]
    if !tagged && isUndecided es then rest else .mapping :: rest
  | _ => [.scalar]

/-- The outlines of items. -/
def itemParts : List Value → List Part
  | [] => []
  | v :: vs => outline false v ++ itemParts vs

/-- The outlines of entries. -/
def entryParts : List (Value × Value) → List Part
  | [] => []
  | (k, v) :: es => outline false k ++ outline false v ++ entryParts es

end

/-- What an open collection takes next. -/
inductive Slot where
  | item
  | key
  | value
  deriving DecidableEq

/-- The open collections, the innermost first, once it has taken one more. -/
def filled : List Slot → List Slot
  | .key :: rest => .value :: rest
  | .value :: rest => .key :: rest
  | rest => rest

/-- The first end that closes nothing, after the collections that are open. -/
def strayEnd? : List Slot → List Part → Option StrayEnd
  | _, [] => none
  | slots, .scalar :: ps => strayEnd? (filled slots) ps
  | slots, .sequence :: ps => strayEnd? (.item :: filled slots) ps
  | slots, .mapping :: ps => strayEnd? (.key :: filled slots) ps
  | .item :: slots, .sequenceEnd :: ps => strayEnd? slots ps
  | .key :: slots, .mappingEnd :: ps => strayEnd? slots ps
  | [], _ => some .outside
  | _, _ => some .inside

end Deployment.Yaml
