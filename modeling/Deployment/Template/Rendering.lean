import Deployment.Manifest.Reading
import Deployment.Template.Resolution
import Deployment.Yaml.Writing

/-!
# Template/Rendering — documents of templates

The tokens in the keys and texts of a skeleton are replaced. A text never adds, removes or merges
entries: where two keys of a mapping become the same, the template is refused.
-/

namespace Deployment.Template

mutual

/-- The first token of a value whose name is not bound; a key stands before its value. -/
def unboundIn? (values : Bindings) : Value → Option Token
  | .string s => unboundToken? values s
  | .sequence items => unboundInItems? values items
  | .mapping entries => unboundInEntries? values entries
  | .tagged _ v => unboundIn? values v
  | _ => none

/-- The first token of items whose name is not bound. -/
def unboundInItems? (values : Bindings) : List Value → Option Token
  | [] => none
  | v :: vs => (unboundIn? values v).or (unboundInItems? values vs)

/-- The first token of entries whose name is not bound. -/
def unboundInEntries? (values : Bindings) : List (Value × Value) → Option Token
  | [] => none
  | (k, v) :: es =>
    ((unboundIn? values k).or (unboundIn? values v)).or (unboundInEntries? values es)

end

/-- Where a mapping stands in a skeleton. -/
inductive Level where
  | root
  | services
  | nested
  deriving DecidableEq

/-- Where the value under a key stands. -/
def Level.under (level : Level) (key : Value) : Level :=
  if level = root ∧ key.asString? = some "services" then services else nested

/-- The text of a key of a skeleton. -/
def keyText : Value → String
  | .string s => s
  | v => Yaml.writeTrimmed v

/-- The violation of a key of a skeleton that becomes the same as an earlier one. -/
def collision (level : Level) (key filled : Value) : Violation :=
  match level, filled.asString? with
  | .services, some name => .duplicateService name
  | _, _ => .duplicateKey (keyText key)

mutual

/-- A value with its tokens replaced. -/
def fillValue (values : Bindings) (level : Level) : Value → Except Violation Value
  | .string s => return .string (fill values s)
  | .sequence items => .sequence <$> fillItems values items
  | .mapping entries => .mapping <$> fillEntries values level [] entries
  | .tagged tag v => .tagged tag <$> fillValue values level v
  | v => return v

/-- Items with their tokens replaced. -/
def fillItems (values : Bindings) : List Value → Except Violation (List Value)
  | [] => return []
  | v :: vs => do
    let v ← fillValue values .nested v
    return v :: (← fillItems values vs)

/-- Entries with their tokens replaced, after entries with the given keys. -/
def fillEntries (values : Bindings) (level : Level) (earlier : List Value) :
    List (Value × Value) → Except Violation (List (Value × Value))
  | [] => return []
  | (k, v) :: es => do
    let key ← fillValue values .nested k
    let v ← fillValue values (level.under key) v
    if earlier.any fun e => Value.same e key then throw (collision level k key)
    return (key, v) :: (← fillEntries values level (key :: earlier) es)

end

/-- The document of a skeleton whose variables are resolved. -/
def fillSkeleton (skeleton : Value) (resolved : Bindings) : Except CompileError Document := do
  if let some t := unboundIn? resolved skeleton then throw (.violation (.unresolvedToken t.text))
  Document.ofValue (← CompileError.ofViolation (fillValue resolved .root skeleton))

/-- The document of a template with texts supplied for its variables. -/
def render (t : Template) (supplied : Bindings) : Except CompileError Document := do
  fillSkeleton t.skeleton (← CompileError.ofViolation (t.resolve supplied))

end Deployment.Template
