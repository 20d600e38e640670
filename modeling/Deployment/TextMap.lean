import Deployment.Value.Entries

/-!
# TextMap — texts under texts, in order of insertion

Every key has one value, and the entries keep the order in which their keys were first inserted.
-/

namespace Deployment

/-- Texts under texts, each key once. -/
structure TextMap where
  entries : List (String × String) := []
  distinct : (entries.map Prod.fst).Nodup := by exact List.nodup_nil

namespace TextMap

instance : DecidableEq TextMap := fun a b =>
  if h : a.entries = b.entries then isTrue (by cases a; cases b; simpa using h)
  else isFalse fun e => h (e ▸ rfl)

instance : Inhabited TextMap := ⟨{}⟩

open Entries (sameText nodup_iff_pairwise_sameText)

/-- Put a value under a key. -/
def insert (m : TextMap) (key value : String) : TextMap :=
  ⟨Entries.insert sameText key value m.entries,
    nodup_iff_pairwise_sameText.2
      (Entries.pairwise_insert (nodup_iff_pairwise_sameText.1 m.distinct))⟩

/-- The value under a key. -/
def get? (m : TextMap) (key : String) : Option String := Entries.find? sameText key m.entries

/-- Whether a key has a value. -/
def has (m : TextMap) (key : String) : Bool := Entries.has sameText key m.entries

/-- The keys in their order. -/
def keys (m : TextMap) : List String := m.entries.map Prod.fst

/-- The values put under their keys one after the other. -/
def ofList (entries : List (String × String)) : TextMap :=
  entries.foldl (fun m e => m.insert e.1 e.2) {}

/-- Equal entries make equal maps. -/
theorem ext_entries {m n : TextMap} (h : m.entries = n.entries) : m = n := by
  cases m
  cases n
  simpa using h

/-- Building a map is building the list of its entries. -/
theorem entries_ofList (entries : List (String × String)) :
    (ofList entries).entries = Entries.ofList sameText entries := by
  have step : ∀ (es : List (String × String)) (m : TextMap),
      (es.foldl (fun m e => m.insert e.1 e.2) m).entries =
        es.foldl (fun acc e => Entries.insert sameText e.1 e.2 acc) m.entries := by
    intro es
    induction es with
    | nil => intro m; rfl
    | cons e es ih => intro m; exact ih (m.insert e.1 e.2)
  exact step entries {}

end TextMap

end Deployment
