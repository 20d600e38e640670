/-!
# NameSet — sets of names in ascending order

A set of names is a list that ascends by code points, so that equal sets are equal lists. A name is
in the set after `insert` if it was before or is the one inserted (`mem_insert`).
-/

namespace Deployment

/-- Put a name into its place in an ascending list, if it is not there. -/
def insertName (s : String) : List String → List String
  | [] => [s]
  | t :: ts => if s < t then s :: t :: ts else if s = t then t :: ts else t :: insertName s ts

theorem mem_insertName {s x : String} {ts : List String} :
    x ∈ insertName s ts ↔ x = s ∨ x ∈ ts := by
  induction ts with
  | nil => simp [insertName]
  | cons t ts ih =>
    simp only [insertName]
    split
    · simp
    · split
      · rename_i h
        subst h
        simp
      · simp only [List.mem_cons, ih]
        constructor
        · rintro (h | h | h) <;> simp [h]
        · rintro (h | h | h) <;> simp [h]

theorem pairwise_insertName {s : String} {ts : List String} (h : ts.Pairwise (· < ·)) :
    (insertName s ts).Pairwise (· < ·) := by
  induction ts with
  | nil => simp [insertName]
  | cons t ts ih =>
    rw [List.pairwise_cons] at h
    simp only [insertName]
    split
    · rename_i hs
      refine List.pairwise_cons.2 ⟨fun x hx => ?_, List.pairwise_cons.2 h⟩
      rcases List.mem_cons.1 hx with rfl | hx
      · exact hs
      · exact String.lt_trans hs (h.1 x hx)
    · split
      · exact List.pairwise_cons.2 h
      · rename_i hs hne
        refine List.pairwise_cons.2 ⟨fun x hx => ?_, ih h.2⟩
        rcases mem_insertName.1 hx with rfl | hx
        · exact String.not_le.1 fun hle => hne (String.le_antisymm hle (String.not_lt.1 hs))
        · exact h.1 x hx

theorem ascending_nil : ([] : List String).Pairwise (· < ·) := List.Pairwise.nil

/-- A set of names. -/
structure NameSet where
  names : List String := []
  ascending : names.Pairwise (· < ·) := by exact ascending_nil

namespace NameSet

instance : DecidableEq NameSet := fun a b =>
  if h : a.names = b.names then isTrue (by cases a; cases b; simpa using h)
  else isFalse fun e => h (e ▸ rfl)

instance : Inhabited NameSet := ⟨{}⟩

instance : Membership String NameSet := ⟨fun s x => x ∈ s.names⟩

instance (x : String) (s : NameSet) : Decidable (x ∈ s) := inferInstanceAs (Decidable (x ∈ s.names))

/-- The set with one name more. -/
def insert (s : NameSet) (name : String) : NameSet :=
  ⟨insertName name s.names, pairwise_insertName s.ascending⟩

/-- The set of the names in a list. -/
def ofList (names : List String) : NameSet := names.foldl insert {}

theorem mem_insert {s : NameSet} {x name : String} : x ∈ s.insert name ↔ x = name ∨ x ∈ s :=
  mem_insertName

end NameSet

end Deployment
