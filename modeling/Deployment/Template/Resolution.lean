import Deployment.Template
import Deployment.Template.Token
import Deployment.Violation

/-!
# Template/Resolution — texts for the variables of a template

Variables are resolved in the order of their declaration. The text of a variable is the one
supplied, or else its default with the tokens in it replaced by texts supplied or resolved before.
An empty text supplied, and an empty default, count as none.
-/

namespace Deployment.Template

/-- A text that is there and not empty. -/
def given? (text? : Option String) : Option String := text?.filter fun s => !s.isEmpty

/-- The text of a default. -/
def expand (values : Bindings) (text : String) : Except Violation String :=
  match unboundToken? values text with
  | some t => throw (.unresolvedToken t.text)
  | none => return fill values text

namespace Variable

/-- The text of a variable, if it has one. -/
def text? (supplied resolved : Bindings) (v : Variable) : Except Violation (Option String) :=
  match given? (supplied.get? v.name), given? v.fallback with
  | some text, _ => return some text
  | none, some text => some <$> expand resolved text
  | none, none => return none

/-- Resolve a variable after others. -/
def resolve (supplied resolved : Bindings) (v : Variable) : Except Violation Bindings := do
  match ← v.text? supplied resolved with
  | some text =>
    if v.type.accepts text then return resolved.insert v.name text
    else throw (.invalidType v.name v.type.name)
  | none =>
    if v.required then throw (.missingVariable v.name) else return resolved.insert v.name ""

/-- Resolve variables after others. -/
def resolveAll (supplied : Bindings) : Bindings → List Variable → Except Violation Bindings
  | resolved, [] => return resolved
  | resolved, v :: vs => do resolveAll supplied (← v.resolve supplied resolved) vs

end Variable

/-- The texts of the variables of a template, besides the texts supplied. -/
def resolve (t : Template) (supplied : Bindings) : Except Violation Bindings :=
  Variable.resolveAll supplied supplied t.declared

end Deployment.Template
