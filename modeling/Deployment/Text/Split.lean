/-!
# Text/Split — cutting a text at a character

A text is cut at the first occurrence of a character, at the last, or at all of them. The parts
and the character between them give the text back (`splitFirst_eq_some`, `intercalate_splitOn`).
-/

namespace Deployment.Text

/-- The parts before and after the first `sep`, if there is one. -/
def splitFirst (sep : Char) : List Char → Option (List Char × List Char)
  | [] => none
  | c :: cs =>
    if c = sep then some ([], cs) else (splitFirst sep cs).map fun (a, b) => (c :: a, b)

/-- The parts between the occurrences of `sep`; a text without `sep` is its only part. -/
def splitOn (sep : Char) : List Char → List (List Char)
  | [] => [[]]
  | c :: cs =>
    if c = sep then [] :: splitOn sep cs
    else match splitOn sep cs with
      | [] => [[c]]
      | part :: parts => (c :: part) :: parts

/-- The part after the last `sep`, or the whole text if there is none. -/
def afterLast (sep : Char) (cs : List Char) : List Char :=
  (cs.reverse.takeWhile (· ≠ sep)).reverse

/-- The part before the first `sep`, or the whole text if there is none. -/
def beforeFirst (sep : Char) (cs : List Char) : List Char := cs.takeWhile (· ≠ sep)

/-- The texts before and after the first `sep` of a text. -/
def cut (sep : Char) (s : String) : Option (String × String) :=
  (splitFirst sep s.toList).map fun (a, b) => (String.ofList a, String.ofList b)

/-- Whether a text stands somewhere in another. -/
def occursIn (part : List Char) : List Char → Bool
  | [] => part.isEmpty
  | c :: cs => part.isPrefixOf (c :: cs) || occursIn part cs

theorem splitFirst_eq_some {sep : Char} {cs a b : List Char} (h : splitFirst sep cs = some (a, b)) :
    cs = a ++ sep :: b ∧ sep ∉ a := by
  induction cs generalizing a with
  | nil => simp [splitFirst] at h
  | cons c cs ih =>
    by_cases hc : c = sep
    · simp only [splitFirst, hc, if_true, Option.some.injEq, Prod.mk.injEq] at h
      obtain ⟨rfl, rfl⟩ := h
      simp [hc]
    · simp only [splitFirst, hc, if_false, Option.map_eq_some_iff] at h
      obtain ⟨⟨a', b'⟩, h', heq⟩ := h
      simp only [Prod.mk.injEq] at heq
      obtain ⟨rfl, rfl⟩ := heq
      obtain ⟨rfl, hn⟩ := ih h'
      exact ⟨rfl, by simp [hn, Ne.symm hc]⟩

/-- A text is cut where it was put together. -/
theorem splitFirst_append {sep : Char} {a b : List Char} (h : sep ∉ a) :
    splitFirst sep (a ++ sep :: b) = some (a, b) := by
  induction a with
  | nil => rw [List.nil_append, splitFirst, if_pos rfl]
  | cons c a ih =>
    rw [List.mem_cons, not_or] at h
    rw [List.cons_append, splitFirst, if_neg (Ne.symm h.1), ih h.2]
    rfl

theorem splitOn_ne_nil {sep : Char} (cs : List Char) : splitOn sep cs ≠ [] := by
  cases cs with
  | nil => simp [splitOn]
  | cons c cs =>
    rw [splitOn]
    split
    · simp
    · split <;> simp

/-- **Cutting loses nothing**: the parts with `sep` between them are the text. -/
theorem intercalate_splitOn {sep : Char} (cs : List Char) :
    [sep].intercalate (splitOn sep cs) = cs := by
  induction cs with
  | nil => rfl
  | cons c cs ih =>
    rw [splitOn]
    split
    · rename_i hc
      subst hc
      obtain ⟨p, ps, hp⟩ := List.exists_cons_of_ne_nil (@splitOn_ne_nil c cs)
      rw [hp] at ih ⊢
      simpa [List.intercalate, List.intersperse] using ih
    · split
      · rename_i h
        exact absurd h (splitOn_ne_nil cs)
      · rename_i p ps hp
        rw [hp] at ih
        cases ps <;> simpa [List.intercalate, List.intersperse] using ih

/-- A part that ends at the first `sep` is cut off. -/
theorem splitOn_append {sep : Char} {a b : List Char} (h : sep ∉ a) :
    splitOn sep (a ++ sep :: b) = a :: splitOn sep b := by
  induction a with
  | nil => rw [List.nil_append, splitOn, if_pos rfl]
  | cons c a ih =>
    rw [List.mem_cons, not_or] at h
    rw [List.cons_append, splitOn, if_neg (Ne.symm h.1), ih h.2]

end Deployment.Text
