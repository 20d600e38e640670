import Deployment.Template

/-!
# TemplateStore — templates by their ids

A store keeps templates in the order in which their ids were first put in. A template that is put
in under a taken id replaces the one before.
-/

namespace Deployment

/-- Templates by their ids. -/
structure TemplateStore where
  entries : List (String × Template) := []
  deriving Inhabited

namespace TemplateStore

open Entries (sameText)

/-- Put a template in. -/
def insert (s : TemplateStore) (t : Template) : TemplateStore :=
  ⟨Entries.insert sameText t.id t s.entries⟩

/-- The template with an id. -/
def get? (s : TemplateStore) (id : String) : Option Template := Entries.find? sameText id s.entries

/-- The templates in their order. -/
def templates (s : TemplateStore) : List Template := s.entries.map Prod.snd

/-- A store with the templates of a list. -/
def ofList (ts : List Template) : TemplateStore := ts.foldl insert {}

end TemplateStore

end Deployment
