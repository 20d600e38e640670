import Deployment.NameSet
import Deployment.Value.Entries

/-!
# Bindings — texts bound to names

Bindings are kept in ascending order of the names, so that equal bindings are equal values: two
sets of bindings that give every name the same text are the same (`ext_get?`).
-/

namespace Deployment

/-- Bind a name in an ascending list. -/
def bindName (name text : String) : List (String × String) → List (String × String)
  | [] => [(name, text)]
  | e :: es =>
    if name < e.1 then (name, text) :: e :: es
    else if name = e.1 then (name, text) :: es
    else e :: bindName name text es

theorem map_fst_bindName {name text : String} {es : List (String × String)} :
    (bindName name text es).map Prod.fst = insertName name (es.map Prod.fst) := by
  induction es with
  | nil => rfl
  | cons e es ih =>
    simp only [bindName, List.map_cons, insertName]
    split
    · rfl
    · split
      · rename_i h
        simp [h]
      · simp [ih]

/-- Texts bound to names. -/
structure Bindings where
  entries : List (String × String) := []
  ascending : (entries.map Prod.fst).Pairwise (· < ·) := by exact ascending_nil

namespace Bindings

instance : DecidableEq Bindings := fun a b =>
  if h : a.entries = b.entries then isTrue (by cases a; cases b; simpa using h)
  else isFalse fun e => h (e ▸ rfl)

instance : Inhabited Bindings := ⟨{}⟩

open Entries (sameText)

/-- Bind a name to a text. -/
def insert (b : Bindings) (name text : String) : Bindings :=
  ⟨bindName name text b.entries, map_fst_bindName ▸ pairwise_insertName b.ascending⟩

/-- The text that a name is bound to. -/
def get? (b : Bindings) (name : String) : Option String := Entries.find? sameText name b.entries

/-- Bind names one after the other. -/
def ofList (entries : List (String × String)) : Bindings :=
  entries.foldl (fun b e => b.insert e.1 e.2) {}

theorem find?_bindName {name text x : String} {es : List (String × String)} :
    Entries.find? sameText x (bindName name text es) =
      if x = name then some text else Entries.find? sameText x es := by
  induction es with
  | nil =>
    by_cases h : x = name
    · simp [bindName, Entries.find?, sameText, h]
    · simp [bindName, Entries.find?, sameText, h, Ne.symm h]
  | cons e es ih =>
    simp only [bindName]
    split
    · by_cases h : x = name
      · simp [Entries.find?, sameText, h]
      · simp [Entries.find?, sameText, h, Ne.symm h]
    · split
      · rename_i he
        subst he
        by_cases h : x = e.1
        · simp [Entries.find?, sameText, h]
        · simp [Entries.find?, sameText, h, Ne.symm h]
      · rename_i hne
        by_cases h : x = name
        · subst h
          simp [Entries.find?, sameText, Ne.symm hne, ih]
        · simp only [Entries.find?, ih, if_neg h]

/-- **Binding a name changes what that name is bound to, and nothing else.** -/
theorem get?_insert {b : Bindings} {name text x : String} :
    (b.insert name text).get? x = if x = name then some text else b.get? x :=
  find?_bindName

theorem find?_eq_none_of_forall_lt {x : String} {es : List (String × String)}
    (h : ∀ y ∈ es.map Prod.fst, x < y) : Entries.find? sameText x es = none := by
  rw [Entries.find?_eq_none_iff, Entries.has, List.any_eq_false]
  intro e he
  have := h e.1 (List.mem_map_of_mem he)
  simpa [sameText] using fun heq : e.1 = x => String.lt_irrefl x (heq ▸ this)

/-- Where two ascending lists agree, the second does not begin above the first. -/
theorem not_lt_of_find?_eq {e f : String × String} {es fs : List (String × String)}
    (hf : ∀ y ∈ fs.map Prod.fst, f.1 < y)
    (h : Entries.find? sameText e.1 (e :: es) = Entries.find? sameText e.1 (f :: fs)) :
    ¬ e.1 < f.1 := fun hlt => by
  have hnone : Entries.find? sameText e.1 (f :: fs) = none := by
    apply find?_eq_none_of_forall_lt
    intro y hy
    rcases List.mem_cons.1 hy with rfl | hy
    · exact hlt
    · exact String.lt_trans hlt (hf y hy)
  rw [hnone] at h
  simp [Entries.find?, sameText] at h

theorem eq_of_find?_eq : ∀ {es fs : List (String × String)},
    (es.map Prod.fst).Pairwise (· < ·) → (fs.map Prod.fst).Pairwise (· < ·) →
    (∀ x, Entries.find? sameText x es = Entries.find? sameText x fs) → es = fs
  | [], [], _, _, _ => rfl
  | [], f :: fs, _, _, h => by simpa [Entries.find?, sameText] using h f.1
  | e :: es, [], _, _, h => by simpa [Entries.find?, sameText] using h e.1
  | e :: es, f :: fs, he, hf, h => by
    rw [List.map_cons, List.pairwise_cons] at he hf
    have first : e.1 = f.1 :=
      String.le_antisymm (String.not_lt.1 (not_lt_of_find?_eq he.1 (h f.1).symm))
        (String.not_lt.1 (not_lt_of_find?_eq hf.1 (h e.1)))
    have second : e.2 = f.2 := by
      have := h e.1
      simpa [Entries.find?, sameText, first] using this
    have rest : es = fs := by
      refine eq_of_find?_eq he.2 hf.2 fun x => ?_
      by_cases hx : e.1 = x
      · subst hx
        rw [find?_eq_none_of_forall_lt he.1, find?_eq_none_of_forall_lt (first ▸ hf.1)]
      · have := h x
        have hx' : f.1 ≠ x := first ▸ hx
        simpa [Entries.find?, sameText, hx, hx'] using this
    rw [rest, show e = f from Prod.ext first second]

/-- **Bindings are equal if they give every name the same text.** -/
theorem ext_get? {a b : Bindings} (h : ∀ x, a.get? x = b.get? x) : a = b := by
  obtain ⟨es, he⟩ := a
  obtain ⟨fs, hf⟩ := b
  obtain rfl : es = fs := eq_of_find?_eq he hf h
  rfl

end Bindings

end Deployment
